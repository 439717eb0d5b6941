import MenuShell.Proofs.Shell.Leading

/-!
What is suggested for a word that a menu does not know. Where case matters these are the selectors that
the word would have found if it did not, unless there are too many of them, and each of them can be typed
as it stands. Suggestions are only shown: what a word means, and what is done with a line, does not
depend on them.
-/

namespace MenuShell

namespace Tree

variable {Action : Type} {tree : Tree Action} {menu id : NodeId} {mode : Comparison} {word : String}

/-- The visible child equals the word if case is ignored, or begins with it where no child equals it. -/
def Resembles (tree : Tree Action) (menu : NodeId) (word : String) (id : NodeId) : Prop :=
  tree.Equals .insensitive menu word id ∨
    (∀ other, ¬ tree.Equals .insensitive menu word other) ∧ tree.Starts .insensitive menu word id

theorem Resembles.visible (resembles : tree.Resembles menu word id) :
    id ∈ tree.visibleChildren menu :=
  resembles.elim (fun equals => equals.1) fun starts => starts.2.1

theorem resolveNamed_eq_unknown_iff {token : String} {suggestions : List String} :
    tree.resolveNamed menu word mode = .error (.unknown token suggestions) ↔
      (∀ other, ¬ tree.Starts mode menu word other) ∧ token = word ∧
        suggestions = tree.suggestions menu word mode := by
  rw [← candidates_eq_nil_iff, resolveNamed]
  split
  · simp_all
  · rename_i none
    simp only [Except.error.injEq, MenuError.unknown.injEq, none, true_and]
    exact and_congr eq_comm eq_comm
  · simp_all

theorem suggestions_sensitive (reachable : tree.Reachable) (menu : NodeId) (word : String) :
    ∃ near : List NodeId, near.Nodup ∧ (∀ id, id ∈ near ↔ tree.Resembles menu word id) ∧
      (near.map tree.selector).Pairwise SelectorBefore ∧
      tree.suggestions menu word .sensitive =
        if 1 ≤ near.length ∧ near.length ≤ 5 then near.map tree.selector else [] := by
  refine ⟨tree.candidates menu word .insensitive, nodup_candidates reachable.forest,
    fun id => mem_candidates, candidates_order reachable.forest (reachable.distinct.spelled menu), ?_⟩
  have limit : suggestionLimit = 5 := rfl
  simp only [suggestions]
  generalize tree.candidates menu word .insensitive = near
  rcases Nat.eq_zero_or_pos near.length with none | some
  · rw [List.length_eq_zero_iff.mp none]
    rfl
  · by_cases few : near.length ≤ 5
    · rw [if_neg (by omega), if_pos ⟨some, few⟩]
    · rw [if_pos (by omega), if_neg fun both => few both.2]

theorem Reachable.means_of_resembles (reachable : tree.Reachable)
    (connected : root ∈ tree.lineage menu) (resembles : tree.Resembles menu word id) :
    tree.resolveNamed menu (Text.splitFirstWord (tree.selector id)).1 (tree.comparison menu) =
      .ok id := by
  have visible := resembles.visible
  rw [Text.fst_splitFirstWord_of_isWord (reachable.selector_of_visible visible).2]
  exact resolveNamed_eq_ok_iff.mpr (reachable.candidates_selector connected visible)

end Tree

namespace Shell

variable {Host : Type} {shell : Shell Host} {menu : NodeId}

/-- For a word that names nothing, a menu where case matters suggests the children that resemble it,
one to five of them, in order; every one of them is meant by its selector. A menu where case does not
matter suggests nothing. What a word means is decided by the mode of the menu alone, and a line that
begins with an unknown word goes to the default item, or is answered by the error and nothing else. -/
theorem suggestions_are_near_misses_only (reachable : shell.tree.Reachable)
    (connected : Tree.root ∈ shell.tree.lineage menu) (word : String) :
    let tree := shell.tree
    let mode := tree.comparison menu
    let equals := tree.Equals mode menu word
    let starts := tree.Starts mode menu word
    (∀ token suggestions, tree.resolveNamed menu word mode = .error (.unknown token suggestions) →
      token = word ∧ (mode = .insensitive → suggestions = []) ∧
      (mode = .sensitive → ∃ near : List NodeId, near.Nodup ∧
        (∀ id, id ∈ near ↔ tree.Resembles menu word id) ∧
        (near.map tree.selector).Pairwise Tree.SelectorBefore ∧
        (suggestions = if 1 ≤ near.length ∧ near.length ≤ 5 then near.map tree.selector else []) ∧
        ∀ id ∈ near,
          tree.resolveNamed menu (Text.splitFirstWord (tree.selector id)).1 mode = .ok id)) ∧
    ((∀ id, tree.resolve menu word mode = .ok (.named id) ↔
        equals id ∨ (∀ other, ¬ equals other) ∧ starts id ∧ ∀ other, starts other → other = id) ∧
      (∀ item, tree.resolve menu word mode = .ok (.fallback item) ↔
        (∀ other, ¬ starts other) ∧ tree.visibleDefault? menu = some item) ∧
      ((∃ selectors, tree.resolve menu word mode = .error (.ambiguous word selectors)) ↔
        (∀ other, ¬ equals other) ∧
          ∃ first second, first ≠ second ∧ starts first ∧ starts second) ∧
      ((∃ suggestions, tree.resolve menu word mode = .error (.unknown word suggestions)) ↔
        (∀ other, ¬ starts other) ∧ tree.visibleDefault? menu = none)) ∧
    ∀ line rest suggestions, Text.splitFirstWord line = (word, rest) →
      tree.resolveNamed menu word mode = .error (.unknown word suggestions) →
      let noted := shell.note (.dispatched menu line)
      (∀ item, tree.visibleDefault? menu = some item →
        ∀ outcome, Ends (.visit (.dispatch menu line)) shell outcome ↔
          Ends (.visit (.execute item line)) noted outcome) ∧
      (tree.visibleDefault? menu = none →
        ∀ outcome, Ends (.visit (.dispatch menu line)) shell outcome ↔
          outcome = (.ok .normal, noted.report (.unknown word suggestions))) := by
  intro tree mode equals starts
  have forest : tree.Forest := reachable.forest
  have apart : tree.Apart mode menu := reachable.apart_of_connected connected
  refine ⟨?_, ⟨?_, ?_, ?_, ?_⟩, ?_⟩
  · intro token suggestions unknown
    obtain ⟨-, rfl, rfl⟩ := Tree.resolveNamed_eq_unknown_iff.mp unknown
    refine ⟨rfl, ?_, ?_⟩
    · intro caseless
      rw [caseless]
      rfl
    · intro sensitive
      obtain ⟨near, distinct, resemble, order, suggested⟩ :=
        Tree.suggestions_sensitive reachable menu token
      rw [sensitive, suggested, ← sensitive]
      refine ⟨near, distinct, resemble, order, rfl, fun id member => ?_⟩
      exact reachable.means_of_resembles connected ((resemble id).mp member)
  · intro id
    rw [Tree.resolve_eq_named_iff, Tree.candidates_singleton_iff forest apart]
  · intro item
    rw [Tree.resolve_eq_fallback_iff, Tree.candidates_eq_nil_iff]
  · rw [← Tree.several_candidates_iff forest apart]
    constructor
    · rintro ⟨selectors, ambiguous⟩
      exact (Tree.resolve_eq_ambiguous_iff.mp ambiguous).2.1
    · exact fun several => ⟨_, Tree.resolve_eq_ambiguous_iff.mpr ⟨rfl, several, rfl⟩⟩
  · rw [← Tree.candidates_eq_nil_iff]
    constructor
    · rintro ⟨suggestions, unknown⟩
      exact (Tree.resolve_eq_unknown_iff.mp unknown).2
    · exact fun absent => ⟨_, Tree.resolve_eq_unknown_iff.mpr ⟨⟨rfl, rfl⟩, absent⟩⟩
  · intro line rest suggestions cut unknown noted
    refine ⟨fun item fallback => ?_, fun bare outcome => ?_⟩
    · exact ends_dispatch_of_route (Tree.dispatchRoute?_of_unknown unknown fallback cut)
    · have route := Tree.dispatchRoute?_of_error unknown (by simp [bare, tree]) cut
      exact (Leads.dispatch route).ends_report

theorem suggestions_are_near_misses_only_of_twins :
    let action : Action Unit := fun rest => .say rest (.done .normal)
    let tree : Tree (Action Unit) := (Tree.empty .sensitive).applyAll
      [.add 0 (.leaf "Go" action), .add 0 (.leaf "GOne" action), .add 0 (.leaf "GO" action)]
    let shell : Shell Unit :=
      { tree, input := {}, procedures := {}, conditions := [], prompts := {}, settings := {},
        records := .empty, notebooks := [], transcript := #[], host := () }
    let error : MenuError := .unknown "go" ["GO", "Go"]
    tree.resolveNamed 0 "go" .sensitive = .error error ∧
      ¬ tree.Resembles 0 "go" 2 ∧ tree.resolveNamed 0 "GO" .sensitive = .ok 3 ∧
      ∀ outcome, Ends (.visit (.dispatch 0 "go home")) shell outcome ↔
        outcome = (.ok .normal, (shell.note (.dispatched 0 "go home")).report error) := by
  intro action tree shell error
  have reachable : tree.Reachable := ⟨.sensitive, Tree.Reaches.refl.applyAll (by decide)⟩
  have connected : Tree.root ∈ tree.lineage 0 := by decide
  have mode : tree.comparison 0 = .sensitive := by decide
  have unknown : tree.resolveNamed 0 "go" (tree.comparison 0) = .error error := by decide +kernel
  have bare : tree.visibleDefault? 0 = none := by decide
  have caseless : tree.Equals .insensitive 0 "go" 3 := ⟨by decide, by decide +kernel⟩
  have longer : ¬ tree.Equals .insensitive 0 "go" 2 := fun equals =>
    absurd equals.2 (by decide +kernel)
  have verbatim : (Text.splitFirstWord (tree.selector 3)).1 = "GO" := by decide
  have cut : Text.splitFirstWord "go home" = ("go", "home") := by decide
  clear_value tree
  obtain ⟨suggested, -, dispatched⟩ :=
    @suggestions_are_near_misses_only Unit shell 0 reachable connected "go"
  obtain ⟨near, -, resemble, -, -, typed⟩ := (suggested _ _ unknown).2.2 mode
  have found := typed 3 ((resemble 3).mpr (.inl caseless))
  rw [verbatim, mode] at found
  refine ⟨mode ▸ unknown, ?_, found, (dispatched "go home" "home" _ cut unknown).2 bare⟩
  rintro (equals | ⟨absent, -⟩)
  · exact longer equals
  · exact absent 3 caseless

end Shell

end MenuShell

import MenuShell.Proofs.Text.Spacing
import MenuShell.Proofs.Tree.Advice
import MenuShell.Proofs.Tree.Listing
import MenuShell.Tree.Route

/-!
Walks down the tree, word by word. A route needs no bound in a forest: a command without an action
hands its line to what the line's first word means there, and no path is longer than the arena. Help
takes the same walk by the words of its topic, as far as they mean something.
-/

namespace MenuShell

namespace Tree

variable {Action : Type} {tree : Tree Action} {menu id child last stop : NodeId}
  {word line sub rest topic : String} {words others : List String} {nodes : List NodeId}

theorem choose_congr {first second : NodeId → String → Option Route} (forest : tree.Forest)
    (agree : ∀ child line, (tree.node child).parent? = some menu →
      first child line = second child line) (line : String) :
    tree.choose first menu line = tree.choose second menu line := by
  rcases split : Text.splitFirstWord line with ⟨word, rest⟩
  simp only [choose, split]
  cases means : tree.resolve menu word (tree.comparison menu) with
  | error error => rfl
  | ok resolution =>
      have below := parent_of_resolve forest means
      cases resolution with
      | named child => exact agree child _ below
      | fallback item => exact agree item _ below

theorem routeWithin_succ {bound : Nat} (forest : tree.Forest)
    (enough : tree.size < bound + (tree.lineage id).length) (line : String) :
    tree.routeWithin (bound + 1) id line = tree.routeWithin bound id line := by
  induction bound generalizing id line with
  | zero =>
      have short := forest.ascent_length_le (forest.ascent_lineage id)
      omega
  | succ bound ih =>
      rw [routeWithin, routeWithin]
      split
      · rfl
      · split
        · refine choose_congr forest (fun child line below => ?_) line
          apply ih
          rw [forest.lineage_step below, List.length_cons]
          omega
        · rfl

theorem executeRoute?_eq (forest : tree.Forest) (id : NodeId) (line : String) :
    tree.executeRoute? id line =
      if (tree.node id).action?.isSome then some (.act id line)
      else if tree.hasVisibleChildren id then tree.dispatchRoute? id line
      else some (.unbound (tree.describe id)) := by
  obtain ⟨bound, size⟩ := Nat.exists_eq_add_of_lt forest.planted
  rw [executeRoute?, dispatchRoute?, size, routeWithin]
  split
  · rfl
  · split
    · refine choose_congr forest (fun child line below => (routeWithin_succ forest ?_ line).symm) line
      have present := List.length_pos_of_mem (forest.mem_lineage_self id)
      rw [forest.lineage_step below, List.length_cons]
      omega
    · rfl

theorem dispatchRoute?_of_named (means : tree.resolveNamed menu word (tree.comparison menu) = .ok child)
    (split : Text.splitFirstWord line = (word, rest)) :
    tree.dispatchRoute? menu line = tree.executeRoute? child rest := by
  have named := resolve_eq_named_iff.mpr (resolveNamed_eq_ok_iff.mp means)
  simp only [dispatchRoute?, choose, split, named]
  rfl

theorem dispatchRoute?_of_unknown {token : String} {suggestions : List String} {item : NodeId}
    (means : tree.resolveNamed menu word (tree.comparison menu) =
      .error (.unknown token suggestions))
    (fallback : tree.visibleDefault? menu = some item)
    (split : Text.splitFirstWord line = (word, rest)) :
    tree.dispatchRoute? menu line = tree.executeRoute? item line := by
  simp only [dispatchRoute?, choose, split, resolve, means, fallback]
  rfl

theorem dispatchRoute?_of_error {error : MenuError}
    (means : tree.resolveNamed menu word (tree.comparison menu) = .error error)
    (bare : ∀ token suggestions item, error = .unknown token suggestions →
      tree.visibleDefault? menu ≠ some item)
    (split : Text.splitFirstWord line = (word, rest)) :
    tree.dispatchRoute? menu line = some (.report error) := by
  have reported : tree.resolve menu word (tree.comparison menu) = .error error := by
    cases error with
    | unknown token suggestions =>
        have none : tree.visibleDefault? menu = none :=
          Option.eq_none_iff_forall_ne_some.mpr fun item => bare token suggestions item rfl
        simp only [resolve, means, none]
    | _ => simp only [resolve, means]
  simp only [dispatchRoute?, choose, split, reported]

/-- The words lead from a menu through these nodes, each being what its word means, to the last of
them. -/
inductive Walks (tree : Tree Action) : NodeId → List String → List NodeId → NodeId → Prop
  | here (menu : NodeId) : Walks tree menu [] [] menu
  | step {menu child last : NodeId} {word : String} {words : List String} {nodes : List NodeId} :
      tree.resolveNamed menu word (tree.comparison menu) = .ok child →
      Walks tree child words nodes last → Walks tree menu (word :: words) (child :: nodes) last

theorem Walks.descend (walks : tree.Walks menu words nodes last) (others : List String) :
    tree.descend menu (words ++ others) = tree.descend last others := by
  induction walks with
  | here menu => rfl
  | step means _ ih => rw [List.cons_append, Tree.descend, means, ← ih]

theorem Walks.last_mem (walks : tree.Walks menu words nodes last) (moved : nodes ≠ []) :
    last ∈ nodes := by
  induction walks with
  | here menu => exact absurd rfl moved
  | @step _ _ _ _ _ nodes _ walks ih =>
      cases nodes with
      | nil =>
          cases walks
          exact List.mem_singleton_self _
      | cons next nodes => exact List.mem_cons_of_mem _ (ih (List.cons_ne_nil _ _))

theorem walks_or_stops (tree : Tree Action) (menu : NodeId) (words : List String) :
    (∃ nodes last, tree.Walks menu words nodes last) ∨
      ∃ before word behind nodes stop error, words = before ++ word :: behind ∧
        tree.Walks menu before nodes stop ∧
        tree.resolveNamed stop word (tree.comparison stop) = .error error := by
  induction words generalizing menu with
  | nil => exact .inl ⟨[], menu, .here menu⟩
  | cons word words ih =>
      cases means : tree.resolveNamed menu word (tree.comparison menu) with
      | error error => exact .inr ⟨[], word, words, [], menu, error, rfl, .here menu, means⟩
      | ok child =>
          rcases ih child with ⟨nodes, last, walks⟩ |
            ⟨before, next, behind, nodes, stop, error, rfl, walks, fails⟩
          · exact .inl ⟨child :: nodes, last, .step means walks⟩
          · exact .inr ⟨word :: before, next, behind, child :: nodes, stop, error, rfl,
              .step means walks, fails⟩

theorem Walks.help (walks : tree.Walks menu words nodes last) (present : words ≠ [])
    (typed : Text.words topic = words) :
    tree.help menu topic = tree.itemHelp last ++ tree.listing last := by
  have reached : tree.descend menu words = .ok last := by
    simpa [Tree.descend] using walks.descend []
  rw [help_of_words typed present]
  cases words with
  | nil => exact absurd rfl present
  | cons word words => simp only [advice, reached]

theorem Walks.help_of_error {error : MenuError} (walks : tree.Walks menu words nodes stop)
    (means : tree.resolveNamed stop word (tree.comparison stop) = .error error)
    (typed : Text.words topic = words ++ word :: others) :
    tree.help menu topic = error.message ++ "\n" := by
  have stopped : tree.descend menu (words ++ word :: others) = .error error := by
    rw [walks.descend, Tree.descend, means]
  have present : words ++ word :: others ≠ [] := by simp
  rw [help_of_words typed present]
  cases all : words ++ word :: others with
  | nil => exact absurd all present
  | cons first behind =>
      rw [all] at stopped
      simp only [advice, stopped, line]

theorem hasVisibleChildren_of_resolveNamed {mode : Comparison}
    (means : tree.resolveNamed menu word mode = .ok child) :
    tree.hasVisibleChildren menu = true := by
  have visible := (starts_of_resolveNamed means).1
  rw [hasVisibleChildren, Bool.or_eq_true, Bool.not_eq_true', List.isEmpty_eq_false_iff]
  exact .inl (List.ne_nil_of_mem visible)

theorem executeRoute?_of_passive (forest : tree.Forest) (passive : (tree.node id).action? = none)
    (shows : tree.hasVisibleChildren id = true) (line : String) :
    tree.executeRoute? id line = tree.dispatchRoute? id line := by
  rw [executeRoute?_eq forest, passive, if_neg (by simp), if_pos shows]

variable {front behind : List (String × String)}

theorem Walks.executeRoute? (forest : tree.Forest)
    (walks : tree.Walks menu (front.map Prod.fst) nodes last)
    (passive : ∀ id ∈ (menu :: nodes).dropLast, (tree.node id).action? = none)
    (solid : ∀ step ∈ front, isWord step.1 = true) (parted : Text.Parted (front ++ behind) rest) :
    tree.executeRoute? menu (Text.trim (Text.spaced (front ++ behind) rest)) =
      tree.executeRoute? last (Text.trim (Text.spaced behind rest)) := by
  induction front generalizing menu nodes with
  | nil =>
      cases walks
      rfl
  | cons step front ih =>
      obtain ⟨word, gap⟩ := step
      rw [List.cons_append] at parted ⊢
      cases walks with
      | step means walks =>
          have free := passive menu (by simp)
          have cut := Text.splitFirstWord_spaced (solid _ List.mem_cons_self) parted
          rw [← Text.splitFirstWord_trim] at cut
          rw [executeRoute?_of_passive forest free (hasVisibleChildren_of_resolveNamed means),
            dispatchRoute?_of_named means cut]
          refine ih walks (fun id member => passive id ?_)
            (fun step member => solid step (List.mem_cons_of_mem _ member)) parted.2.2
          rw [List.dropLast_cons_cons]
          exact List.mem_cons_of_mem _ member

theorem Walks.dispatchRoute? (forest : tree.Forest)
    (walks : tree.Walks menu (front.map Prod.fst) nodes last) (present : front ≠ [])
    (passive : ∀ id ∈ nodes.dropLast, (tree.node id).action? = none)
    (solid : ∀ step ∈ front, isWord step.1 = true) (parted : Text.Parted (front ++ behind) rest)
    (split : Text.splitFirstWord line = Text.splitFirstWord (Text.spaced (front ++ behind) rest)) :
    tree.dispatchRoute? menu line = tree.executeRoute? last (Text.trim (Text.spaced behind rest)) := by
  cases front with
  | nil => exact absurd rfl present
  | cons step front =>
      obtain ⟨word, gap⟩ := step
      rw [List.cons_append] at parted split
      cases walks with
      | step means walks =>
          have cut := split.trans (Text.splitFirstWord_spaced (solid _ List.mem_cons_self) parted)
          rw [dispatchRoute?_of_named means cut]
          exact walks.executeRoute? forest passive
            (fun step member => solid step (List.mem_cons_of_mem _ member)) parted.2.2

theorem Walks.dispatchRoute?_whole {steps : List (String × String)} (forest : tree.Forest)
    (walks : tree.Walks menu (steps.map Prod.fst) nodes last) (present : steps ≠ [])
    (passive : ∀ id ∈ nodes.dropLast, (tree.node id).action? = none)
    (solid : ∀ step ∈ steps, isWord step.1 = true) (parted : Text.Parted steps rest)
    (split : Text.splitFirstWord line = Text.splitFirstWord (Text.spaced steps rest)) :
    tree.dispatchRoute? menu line = tree.executeRoute? last (Text.trim rest) := by
  rw [← List.append_nil steps] at parted split
  have route := walks.dispatchRoute? forest present passive solid parted split
  rwa [Text.spaced] at route

theorem Walks.dispatchRoute?_stop (forest : tree.Forest)
    (walks : tree.Walks menu (front.map Prod.fst) nodes stop)
    (passive : ∀ id ∈ nodes, (tree.node id).action? = none)
    (shows : nodes ≠ [] → tree.hasVisibleChildren stop = true)
    (solid : ∀ step ∈ front, isWord step.1 = true) (parted : Text.Parted (front ++ behind) rest) :
    tree.dispatchRoute? menu (Text.spaced (front ++ behind) rest) =
      tree.dispatchRoute? stop
        (if nodes = [] then Text.spaced behind rest else Text.trim (Text.spaced behind rest)) := by
  by_cases still : nodes = []
  · subst nodes
    cases front with
    | nil =>
        cases walks
        rfl
    | cons _ _ => cases walks
  · have present : front ≠ [] := by
      rintro rfl
      cases walks
      exact still rfl
    -- What is left of the line has lost the white space at its ends in being handed down.
    have free := passive stop (walks.last_mem still)
    rw [walks.dispatchRoute? forest present
      (fun id member => passive id ((List.dropLast_sublist nodes).subset member)) solid parted rfl,
      executeRoute?_of_passive forest free (shows still), if_neg still]

end Tree

end MenuShell

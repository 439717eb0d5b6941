import MenuShell.Proofs.Text.Wording
import MenuShell.Proofs.Tree.Meaning
import MenuShell.Tree.Help

/-!
Help for words. A topic that is put together of words leads down the tree by these very words, so a
visible child is shown under its selector. That takes a selector that is a word; every node that hangs
below another has one, if it has any.
-/

namespace MenuShell

namespace Tree

variable {Action : Type} {tree later : Tree Action} {menu child id : NodeId} {words : List String}

def Worded (tree : Tree Action) : Prop :=
  ∀ child selector, (tree.node child).parent?.isSome → (tree.node child).selector? = some selector →
    isWord selector = true

theorem Worded.of_kept (worded : tree.Worded)
    (kept : ∀ child, (later.node child).parent?.isSome → (tree.node child).parent?.isSome ∧
      (later.node child).selector? = (tree.node child).selector?) : later.Worded := by
  intro child selector hung named
  obtain ⟨before, same⟩ := kept child hung
  exact worded child selector before (same ▸ named)

theorem Worded.move (worded : tree.Worded) (move : Move tree later) : later.Worded := by
  cases move with
  | grow node =>
      refine worded.of_kept fun child hung => ?_
      rw [parent_insert] at hung
      obtain ⟨parent, linked⟩ := Option.isSome_iff_exists.mp hung
      have old := Nat.ne_of_lt (lt_size_of_parent linked)
      exact ⟨hung, by rw [node_insert_of_ne node old]⟩
  | @link parent child free _ =>
      intro other selector hung named
      rw [selector_link] at named
      by_cases same : other = child
      · exact free.word selector (same ▸ named)
      · rw [parent_link free.childBound, if_neg same] at hung
        exact worded other selector hung named
  | @unlink parent child below =>
      refine worded.of_kept fun other hung => ?_
      rw [parent_unlink (lt_size_of_parent below)] at hung
      split at hung
      · simp at hung
      · exact ⟨hung, selector_unlink _ _ _⟩
  | govern _ _ =>
      refine worded.of_kept fun other hung => ?_
      rw [parent_withMode] at hung
      exact ⟨hung, selector_withMode _ _ _⟩
  | adorn id change selector _ _ _ above =>
      refine worded.of_kept fun other hung => ?_
      rw [field_modify Node.parent? above] at hung
      exact ⟨hung, field_modify Node.selector? selector id other⟩
  | turn switch on => exact worded

theorem Reachable.worded (reachable : tree.Reachable) : tree.Worded := by
  refine reachable.induction ?_ fun _ worded move => worded.move move
  intro mode child selector hung
  simp [node_empty] at hung

theorem Reachable.selector_of_visible (reachable : tree.Reachable)
    (visible : child ∈ tree.visibleChildren menu) :
    (tree.node child).selector? = some (tree.selector child) ∧
      isWord (tree.selector child) = true := by
  obtain ⟨named, below⟩ :=
    (reachable.forest.named menu child).mp (mem_children_of_visible visible)
  have known : (tree.node child).selector? = some (tree.selector child) := by
    rw [selector]
    exact (Option.some_get! _ named).symm
  exact ⟨known, reachable.worded child _ (by simp [below]) known⟩

def advice (tree : Tree Action) (menu : NodeId) : List String → String
  | [] => tree.itemHelp menu ++ framed (tree.listing menu)
  | words =>
    match tree.descend menu words with
    | .ok id => tree.itemHelp id ++ tree.listing id
    | .error error => line error.message

theorem topicWords_of_words {topic : String} (typed : Text.words topic = words)
    (present : words ≠ []) : topicWords topic = words := by
  have nonempty : topic.isEmpty = false := by
    rw [← Bool.not_eq_true, String.isEmpty_iff]
    rintro rfl
    exact present typed.symm
  rw [topicWords, nonempty, if_neg (by simp), typed]
  cases words with
  | nil => exact absurd rfl present
  | cons word others => rfl

theorem topicWords_intercalate (solid : ∀ word ∈ words, isWord word = true) :
    topicWords (" ".intercalate words) = words := by
  cases words with
  | nil => rfl
  | cons word others =>
      exact topicWords_of_words (Text.words_intercalate solid) (List.cons_ne_nil _ _)

theorem help_of_words {topic : String} (typed : Text.words topic = words) (present : words ≠ []) :
    tree.help menu topic = tree.advice menu words := by
  rw [help, topicWords_of_words typed present]
  cases words <;> rfl

theorem help_intercalate (solid : ∀ word ∈ words, isWord word = true) :
    tree.help menu (" ".intercalate words) = tree.advice menu words := by
  rw [help, topicWords_intercalate solid]
  cases words <;> rfl

theorem advice_selector (reachable : tree.Reachable) (connected : root ∈ tree.lineage menu)
    (visible : child ∈ tree.visibleChildren menu) :
    tree.advice menu [tree.selector child] = tree.itemHelp child ++ tree.listing child := by
  have means : tree.resolveNamed menu (tree.selector child) (tree.comparison menu) = .ok child :=
    resolveNamed_eq_ok_iff.mpr (reachable.candidates_selector connected visible)
  simp only [advice, descend, means]

theorem abbreviations_selectors (tree : Tree Action) (menu : NodeId) (mode : Comparison) :
    ((tree.abbreviations menu mode).map Prod.fst).Perm
      ((tree.visibleChildren menu).map tree.selector) := by
  rw [abbreviations, List.map_map]
  exact (sortBy_perm _ _).map tree.selector

end Tree

end MenuShell

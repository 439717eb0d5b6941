import MenuShell.Proofs.Text.Splitting
import MenuShell.Proofs.Tree.Attaching
import MenuShell.Proofs.Tree.Governing
import MenuShell.Proofs.Tree.Hiding

/-!
What attaching one node takes, and what it does. The node hangs nowhere, is not on the way up from its
parent, finds its place there and brings no siblings that are equal under the mode it will take over.
The link is then all that is new: a mode changes only where the node hands down what it takes over, and
only the parent may answer a word in another way.
-/

namespace MenuShell

namespace Tree

variable {Action : Type} {tree later : Tree Action} {parent child id menu : NodeId}
  {mode : Comparison} {selector : String}

/-- A node without a selector takes the place of the default item. Any other needs a word for a
selector, unlike those of its siblings to be. -/
def HasPlace (tree : Tree Action) (parent child : NodeId) : Prop :=
  match (tree.node child).selector? with
  | none => (tree.node parent).defaultChild? = none
  | some selector =>
    (selector ≠ "" ∧ ∀ char ∈ selector.toList, Chars.isBlank char = false) ∧
      ∀ sibling ∈ (tree.node parent).children,
        (tree.comparison parent).same (tree.selector sibling) selector = false

theorem child?_eq_none_iff (forest : tree.Forest) :
    tree.child? parent selector = none ↔
      ∀ sibling ∈ (tree.node parent).children,
        (tree.comparison parent).same (tree.selector sibling) selector = false := by
  rw [child?, List.find?_eq_none]
  apply forall₂_congr
  intro sibling member
  obtain ⟨name, named⟩ := Option.isSome_iff_exists.mp ((forest.named parent sibling).mp member).1
  simp [Tree.selector, named]

theorem free_iff (forest : tree.Forest) (parentBound : parent < tree.size)
    (childBound : child < tree.size) :
    tree.Free parent child ↔
      child ≠ root ∧ (tree.node child).parent? = none ∧
        (∀ path, tree.Ascent parent path → child ∉ path) ∧ tree.HasPlace parent child := by
  have above_iff : (∀ path, tree.Ascent parent path → child ∉ path) ↔ child ∉ tree.lineage parent := by
    constructor
    · exact fun missed => missed _ (forest.ascent_lineage parent)
    · intro missed path ascent
      rwa [← forest.lineage_eq ascent]
  rw [above_iff, HasPlace]
  cases named : (tree.node child).selector? with
  | none =>
      constructor
      · intro free
        exact ⟨free.notRoot, free.loose, free.notAbove, free.vacant named⟩
      · rintro ⟨notRoot, loose, notAbove, vacant⟩
        exact ⟨parentBound, childBound, notRoot, loose, notAbove, fun _ => vacant, by simp [named],
          by simp [named]⟩
  | some selector =>
      dsimp only
      rw [← isWord_iff, ← child?_eq_none_iff forest]
      constructor
      · intro free
        exact ⟨free.notRoot, free.loose, free.notAbove, free.word selector named,
          free.unlike selector named⟩
      · rintro ⟨notRoot, loose, notAbove, word, unlike⟩
        exact ⟨parentBound, childBound, notRoot, loose, notAbove, by simp [named],
          by simpa [named] using word, by simpa [named] using unlike⟩

theorem attachable_iff (forest : tree.Forest) (parentBound : parent < tree.size)
    (childBound : child < tree.size) :
    tree.Attachable parent child ↔
      (child ≠ root ∧ (tree.node child).parent? = none ∧
        (∀ path, tree.Ascent parent path → child ∉ path) ∧ tree.HasPlace parent child) ∧
      ((tree.node child).comparison? = none →
        ∀ menu, tree.HandsDown child menu → tree.Apart (tree.comparison parent) menu) := by
  simp only [handsDown_iff_inherits forest, ← free_iff forest parentBound childBound]
  exact ⟨fun attachable => ⟨attachable.free, attachable.settles⟩, fun holds => ⟨holds.1, holds.2⟩⟩

theorem elsewhere_link (childBound : child < tree.size) :
    Elsewhere tree (tree.link parent child) child := by
  intro other different
  rw [comparison_link, parent_link childBound, if_neg different]
  exact ⟨rfl, rfl⟩

theorem comparison_link_cases (free : tree.Free parent child) (forest : tree.Forest)
    (menu : NodeId) :
    ((tree.node child).comparison? = none ∧ tree.HandsDown child menu →
      (tree.link parent child).comparison menu = tree.comparison parent) ∧
    (¬ ((tree.node child).comparison? = none ∧ tree.HandsDown child menu) →
      (tree.link parent child).comparison menu = tree.comparison menu) := by
  have linkedForest := forest.link free
  obtain ⟨reached, others⟩ :=
    (elsewhere_link free.childBound).comparison_cases forest linkedForest menu
  constructor
  · rintro ⟨own, comes⟩
    rw [reached comes, comparison_child_link free forest own]
  · intro apart
    by_cases comes : tree.HandsDown child menu
    · -- The node has a mode of its own, which was and is in force wherever it hands it down.
      obtain ⟨mode, own⟩ := Option.ne_none_iff_exists'.mp fun none => apart ⟨none, comes⟩
      have inForce := ((handsDown_iff_inherits forest).mp comes).comparison_eq forest
      rw [reached comes, inForce, comparison_own forest own,
        comparison_own linkedForest ((comparison_link parent child child).trans own)]
    · exact others comes

theorem sameView_link (parentBound : parent < tree.size) (elsewhere : menu ≠ parent) :
    SameView tree (tree.link parent child) menu := by
  have rehung : Rehung tree (tree.link parent child) := .link parent child
  have visible_eq : (tree.link parent child).isVisible = tree.isVisible := funext rehung.isVisible_eq
  refine ⟨?_, ?_, fun id _ => rehung.selector_eq id⟩
  · rw [visibleChildren, visibleChildren, children_link parentBound, visible_eq]
    simp [elsewhere]
  · rw [visibleDefault?, visibleDefault?, defaultChild?, defaultChild?,
      defaultChild_link parentBound, visible_eq]
    simp [elsewhere]

/-- A node can be attached exactly if it hangs nowhere, is not at or above its parent, finds its place
there, and brings no equal siblings under a mode that it takes over. It is then behind the children
that were there, or is the default item; the mode taken over is in force where the node hands it
down, and all else is as it was. -/
theorem attach_links_exactly (reachable : tree.Reachable) (parentBound : parent < tree.size)
    (childBound : child < tree.size) :
    ((tree.attach parent child).1.isOk = true ↔
      (child ≠ root ∧ (tree.node child).parent? = none ∧
        (∀ path, tree.Ascent parent path → child ∉ path) ∧ tree.HasPlace parent child) ∧
      ((tree.node child).comparison? = none →
        ∀ menu, tree.HandsDown child menu → tree.Apart (tree.comparison parent) menu)) ∧
    ((tree.attach parent child).1.isOk = true →
      let later := (tree.attach parent child).2
      Hung tree parent child later ∧
      (∀ menu,
        ((tree.node child).comparison? = none ∧ tree.HandsDown child menu →
          later.comparison menu = tree.comparison parent) ∧
        (¬ ((tree.node child).comparison? = none ∧ tree.HandsDown child menu) →
          later.comparison menu = tree.comparison menu)) ∧
      ∀ menu, menu ≠ parent → ∀ word mode,
        later.candidates menu word mode = tree.candidates menu word mode ∧
          later.resolve menu word mode = tree.resolve menu word mode) := by
  have forest := reachable.forest
  have succeeds_iff := attach_isOk_iff forest parentBound childBound
  refine ⟨succeeds_iff.trans (attachable_iff forest parentBound childBound), ?_⟩
  intro succeeded later
  have attachable := succeeds_iff.mp succeeded
  have free := attachable.free
  have linked : later = tree.link parent child := congrArg Prod.snd (attachable.attach_eq forest)
  rw [linked]
  refine ⟨hung_link parentBound childBound (free.apart forest), ?_, ?_⟩
  · exact comparison_link_cases free forest
  · intro menu elsewhere word mode
    have view : SameView tree (tree.link parent child) menu := sameView_link parentBound elsewhere
    exact ⟨view.candidates_eq word mode, view.resolve_eq word mode⟩

theorem attach_links_exactly_of_default_item :
    let sensitive (name : String) : Node Unit :=
      { Node.menu name with comparison? := some .sensitive }
    let tree := (empty .insensitive : Tree Unit).applyAll
      [.add 0 (sensitive "sub"), .add 1 (.menu "inner"), .add 2 {}, .add 3 (.leaf "Go" ()),
        .add 3 (.leaf "go" ()), .add 2 (sensitive "own"), .add 6 (.leaf "On" ()),
        .add 6 (.leaf "on" ()), .detach 2]
    let later := (tree.attach 1 2).2
    (tree.attach 0 2).1.isOk = false ∧ (tree.attach 3 2).1.isOk = false ∧
      (tree.attach 1 2).1.isOk = true ∧ (later.node 1).children = [2] ∧
      later.comparison 3 = .sensitive ∧ later.comparison 6 = tree.comparison 6 ∧
      ∀ word mode, later.resolve 0 word mode = tree.resolve 0 word mode := by
  intro sensitive tree later
  have reachable : tree.Reachable := ⟨.insensitive, Reaches.refl.applyAll (by decide)⟩
  have inside : 2 < tree.size := by decide
  obtain ⟨atRoot, -⟩ := attach_links_exactly reachable (show 0 < tree.size by decide) inside
  obtain ⟨belowItself, -⟩ := attach_links_exactly reachable (show 3 < tree.size by decide) inside
  obtain ⟨-, links⟩ := attach_links_exactly reachable (show 1 < tree.size by decide) inside
  have succeeds : (tree.attach 1 2).1.isOk = true := by decide
  obtain ⟨hung, modes, answers⟩ := links succeeds
  have item : tree.HandsDown 2 3 := .further .self (by decide) (by decide)
  refine ⟨?_, ?_, succeeds, ?_, ?_, ?_, ?_⟩
  · rw [Bool.eq_false_iff]
    intro accepted
    have mode : tree.comparison 0 = .insensitive := by decide
    have upper : tree.selector 4 = "Go" := by decide
    have lower : tree.selector 5 = "go" := by decide
    have differs := (atRoot.mp accepted).2 (by decide) 3 item 4 (by decide) 5 (by decide) (by decide)
    rw [mode, upper, lower] at differs
    exact absurd differs (by decide)
  · rw [Bool.eq_false_iff]
    intro accepted
    have way : tree.Ascent 3 [3, 2] := .step (by decide) (.top (by decide))
    exact (belowItself.mp accepted).1.2.2.1 [3, 2] way (by decide)
  · have upper : later.node 1 = above (tree.node 1) (tree.node 2).selector? 2 := hung.upper
    rw [upper]
    decide
  · have takenOver : later.comparison 3 = tree.comparison 1 := (modes 3).1 ⟨by decide, item⟩
    rw [takenOver]
    decide
  · refine (modes 6).2 fun reached => ?_
    have comes := (handsDown_iff_inherits reachable.forest).mp reached.2
    cases comes with
    | step own _ _ => exact absurd own (by decide)
  · exact fun word mode => (answers 0 (by decide) word mode).2

end Tree

end MenuShell

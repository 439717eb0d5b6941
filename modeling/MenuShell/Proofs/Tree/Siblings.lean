import MenuShell.Proofs.Tree.Modes
import MenuShell.Proofs.Tree.Reachable

/-!
Siblings can be told apart. Where a mode is in force, no two named children of a node are equal under
it; everywhere else, as in a part that was let go and inherits nothing, they are at least spelled
differently. A mode that comes into force by a change does so in the region of one node, and that
region is what the change has looked through.
-/

namespace MenuShell

namespace Tree

variable {Action : Type} {tree later : Tree Action} {parent child id menu : NodeId}
  {mode : Comparison}

structure Distinct (tree : Tree Action) : Prop where
  spelled : ∀ menu, tree.Apart .sensitive menu
  governed : ∀ menu mode, tree.Governed menu mode → tree.Apart mode menu
  rooted : (tree.node root).comparison? ≠ none

theorem Apart.of_subset (apart : tree.Apart mode menu)
    (children : (later.node menu).children ⊆ (tree.node menu).children)
    (selectors : ∀ child ∈ (later.node menu).children, later.selector child = tree.selector child) :
    later.Apart mode menu := by
  intro first firstMember second secondMember different
  rw [selectors first firstMember, selectors second secondMember]
  exact apart first (children firstMember) second (children secondMember) different

theorem same_of_spelled {left right : String} (spelled : Comparison.sensitive.same left right = true)
    (mode : Comparison) : mode.same left right = true := by
  have equal : left = right := by simpa [Comparison.same, Comparison.key] using spelled
  rw [equal, same_self]

theorem spelled_of_differs {left right : String} (differs : mode.same left right = false) :
    Comparison.sensitive.same left right = false := by
  rw [Bool.eq_false_iff]
  intro spelled
  simp [same_of_spelled spelled mode] at differs

theorem distinct_empty (mode : Comparison) : (empty mode : Tree Action).Distinct := by
  have barren : ∀ menu mode', (empty mode : Tree Action).Apart mode' menu := by
    intro menu mode' first member
    simp [node_empty] at member
  refine ⟨fun menu => barren menu _, fun menu mode' _ => barren menu mode', ?_⟩
  simp [node_empty]

theorem Governed.of_insert {node : Node Action} (forest : tree.Forest)
    (governed : (tree.insert node).2.Governed menu mode) (old : menu < tree.size) :
    tree.Governed menu mode := by
  induction governed with
  | own own =>
      rw [node_insert_of_ne node (Nat.ne_of_lt old)] at own
      exact .own own
  | inherited inherits linked _ ih =>
      rw [node_insert_of_ne node (Nat.ne_of_lt old)] at inherits linked
      exact .inherited inherits linked (ih (forest.parent_lt linked))

theorem Apart.insert (node : Node Action) (forest : tree.Forest) (apart : tree.Apart mode menu) :
    (tree.insert node).2.Apart mode menu := by
  apply apart.of_subset
  · rw [children_insert]
    exact List.Subset.refl _
  · intro child member
    rw [children_insert] at member
    have old := lt_size_of_parent ((forest.named menu child).mp member).2
    rw [selector, node_insert_of_ne node (Nat.ne_of_lt old)]
    rfl

theorem Distinct.insert (distinct : tree.Distinct) (forest : tree.Forest) (node : Node Action) :
    (tree.insert node).2.Distinct := by
  refine ⟨fun menu => (distinct.spelled menu).insert node forest, ?_, ?_⟩
  · intro menu mode governed
    by_cases old : menu < tree.size
    · exact (distinct.governed menu mode (governed.of_insert forest old)).insert node forest
    · -- Nothing hangs below a node that is new or in no arena.
      intro first member
      rw [children_insert, node_of_size_le (Nat.le_of_not_lt old)] at member
      simp at member
  · rw [node_insert_of_ne node (Nat.ne_of_lt forest.planted)]
    exact distinct.rooted

theorem Free.differs (free : tree.Free parent child) (forest : tree.Forest)
    (named : (tree.node child).selector?.isSome) :
    ∀ sibling ∈ (tree.node parent).children,
      (tree.comparison parent).same (tree.selector sibling) (tree.selector child) = false := by
  intro sibling member
  obtain ⟨selector, name⟩ := Option.isSome_iff_exists.mp named
  obtain ⟨other, otherName⟩ := Option.isSome_iff_exists.mp
    ((forest.named parent sibling).mp member).1
  have unlike := List.find?_eq_none.mp (free.unlike selector name) sibling member
  simpa [otherName, name, Tree.selector] using unlike

theorem Apart.link (free : tree.Free parent child) (apart : tree.Apart mode menu)
    (new : menu = parent → (tree.node child).selector?.isSome →
      ∀ sibling ∈ (tree.node menu).children,
        mode.same (tree.selector sibling) (tree.selector child) = false) :
    (tree.link parent child).Apart mode menu := by
  have selectors : ∀ id, (tree.link parent child).selector id = tree.selector id := by
    intro id
    rw [selector, selector_link]
    rfl
  intro first firstMember second secondMember different
  rw [children_link free.parentBound] at firstMember secondMember
  rw [selectors, selectors]
  split at firstMember
  · rename_i hung
    rw [if_pos hung] at secondMember
    have unlike := new hung.1 hung.2
    simp only [List.mem_append, List.mem_singleton] at firstMember secondMember
    rcases firstMember with firstOld | rfl
    · rcases secondMember with secondOld | rfl
      · exact apart first firstOld second secondOld different
      · exact unlike first firstOld
    · rcases secondMember with secondOld | rfl
      · rw [same_comm]
        exact unlike second secondOld
      · exact absurd rfl different
  · rename_i elsewhere
    rw [if_neg elsewhere] at secondMember
    exact apart first firstMember second secondMember different

theorem Governed.of_link (childBound : child < tree.size)
    (governed : (tree.link parent child).Governed menu mode) :
    tree.Governed menu mode ∨
      ((tree.node child).comparison? = none ∧ (tree.link parent child).Inherits menu child) := by
  induction governed with
  | own own =>
      rw [comparison_link] at own
      exact .inl (.own own)
  | @inherited menu _ _ inherits linked _ ih =>
      have own := inherits
      rw [comparison_link] at own
      by_cases same : menu = child
      · subst menu
        exact .inr ⟨own, .refl child⟩
      · rcases ih with before | ⟨childOwn, reaches⟩
        · rw [parent_link childBound, if_neg same] at linked
          exact .inl (.inherited own linked before)
        · exact .inr ⟨childOwn, .step inherits linked reaches⟩

theorem Distinct.link (distinct : tree.Distinct) (forest : tree.Forest)
    (free : tree.Free parent child)
    (clear : (tree.node child).comparison? = none → (tree.link parent child).clash? child = none) :
    (tree.link parent child).Distinct := by
  refine ⟨?_, ?_, ?_⟩
  · intro menu
    apply (distinct.spelled menu).link free
    rintro rfl named sibling member
    exact spelled_of_differs (free.differs forest named sibling member)
  · intro menu mode governed
    rcases governed.of_link free.childBound with before | ⟨own, reaches⟩
    · apply (distinct.governed menu mode before).link free
      rintro rfl named
      rw [← before.comparison_eq forest]
      exact free.differs forest named
    · have linkedForest := forest.link free
      rw [← governed.comparison_eq linkedForest, reaches.comparison_eq linkedForest]
      exact (clash?_eq_none_iff linkedForest).mp (clear own) menu reaches
  · rw [comparison_link]
    exact distinct.rooted

theorem Governed.of_unlink (childBound : child < tree.size)
    (governed : (tree.unlink parent child).Governed menu mode) : tree.Governed menu mode := by
  induction governed with
  | own own =>
      rw [comparison_unlink] at own
      exact .own own
  | inherited inherits linked _ ih =>
      rw [comparison_unlink] at inherits
      rw [parent_unlink childBound] at linked
      split at linked
      · simp at linked
      · exact .inherited inherits linked ih

theorem Apart.unlink (parentBound : parent < tree.size) (apart : tree.Apart mode menu) :
    (tree.unlink parent child).Apart mode menu := by
  apply apart.of_subset
  · rw [children_unlink parentBound]
    split
    · exact List.filter_subset_self _
    · exact List.Subset.refl _
  · intro other _
    rw [selector, selector_unlink]
    rfl

theorem Distinct.unlink (distinct : tree.Distinct) (forest : tree.Forest)
    (below : (tree.node child).parent? = some parent) : (tree.unlink parent child).Distinct := by
  have parentBound := forest.parent_lt below
  refine ⟨fun menu => (distinct.spelled menu).unlink parentBound, ?_, ?_⟩
  · intro menu mode governed
    have before := governed.of_unlink (lt_size_of_parent below)
    exact (distinct.governed menu mode before).unlink parentBound
  · rw [comparison_unlink]
    exact distinct.rooted

theorem Apart.modify {change : Node Action → Node Action}
    (selector : ∀ node, (change node).selector? = node.selector?)
    (children : ∀ node, (change node).children = node.children) (id : NodeId)
    (apart : tree.Apart mode menu) : (tree.modify id change).Apart mode menu := by
  apply apart.of_subset
  · rw [field_modify Node.children children]
    exact List.Subset.refl _
  · intro child _
    rw [Tree.selector, field_modify Node.selector? selector]
    rfl

theorem Apart.withMode (id : NodeId) (own : Comparison) (apart : tree.Apart mode menu) :
    (tree.withMode id own).Apart mode menu := by
  apply apart.modify <;> exact fun _ => rfl

theorem parent_withMode (id : NodeId) (own : Comparison) (other : NodeId) :
    ((tree.withMode id own).node other).parent? = (tree.node other).parent? := by
  rw [withMode, field_modify Node.parent?]
  exact fun _ => rfl

theorem Governed.of_withMode {own : Comparison}
    (governed : (tree.withMode id own).Governed menu mode) :
    tree.Governed menu mode ∨ (tree.withMode id own).Inherits menu id := by
  induction governed with
  | @own menu _ decides =>
      by_cases same : menu = id
      · rw [same]
        exact .inr (.refl id)
      · rw [withMode, node_modify_of_ne same] at decides
        exact .inl (.own decides)
  | @inherited menu _ _ inherits linked _ ih =>
      by_cases same : menu = id
      · rw [same]
        exact .inr (.refl id)
      · rcases ih with before | reaches
        · rw [withMode, node_modify_of_ne same] at inherits
          rw [parent_withMode] at linked
          exact .inl (.inherited inherits linked before)
        · exact .inr (.step inherits linked reaches)

theorem Distinct.withMode (distinct : tree.Distinct) (forest : tree.Forest)
    (changed : (tree.withMode id mode).Forest) (clear : (tree.withMode id mode).clash? id = none) :
    (tree.withMode id mode).Distinct := by
  refine ⟨fun menu => (distinct.spelled menu).withMode id mode, ?_, ?_⟩
  · intro menu inForce governed
    rcases governed.of_withMode with before | reaches
    · exact (distinct.governed menu inForce before).withMode id mode
    · rw [← governed.comparison_eq changed, reaches.comparison_eq changed]
      exact (clash?_eq_none_iff changed).mp clear menu reaches
  · by_cases same : root = id
    · rw [← same, Tree.withMode, node_modify_self forest.planted]
      simp
    · rw [Tree.withMode, node_modify_of_ne same]
      exact distinct.rooted

theorem Governed.congr (governed : later.Governed menu mode)
    (same : ∀ id, (later.node id).comparison? = (tree.node id).comparison? ∧
      (later.node id).parent? = (tree.node id).parent?) : tree.Governed menu mode := by
  induction governed with
  | own own => exact .own (by rw [← (same _).1, own])
  | inherited inherits linked _ ih =>
      exact .inherited (by rw [← (same _).1, inherits]) (by rw [← (same _).2, linked]) ih

theorem Distinct.move (distinct : tree.Distinct) (forest : tree.Forest)
    (move : Move tree later) : later.Distinct := by
  have laterForest := forest.move move
  cases move with
  | grow node => exact distinct.insert forest node
  | link free clear => exact distinct.link forest free clear
  | unlink below => exact distinct.unlink forest below
  | govern _ clear => exact distinct.withMode forest laterForest clear
  | adorn id change selector own children _ above =>
      refine ⟨fun menu => (distinct.spelled menu).modify selector children id, ?_, ?_⟩
      · intro menu mode governed
        have before : tree.Governed menu mode := governed.congr fun other =>
          ⟨field_modify Node.comparison? own id other, field_modify Node.parent? above id other⟩
        exact (distinct.governed menu mode before).modify selector children id
      · rw [field_modify Node.comparison? own]
        exact distinct.rooted
  | turn switch on =>
      refine ⟨distinct.spelled, ?_, distinct.rooted⟩
      intro menu mode governed
      exact distinct.governed menu mode (governed.congr fun _ => ⟨rfl, rfl⟩)

theorem Reachable.distinct (reachable : tree.Reachable) : tree.Distinct :=
  reachable.induction distinct_empty fun forest distinct move => distinct.move forest move

/-- In every tree that can be built, siblings are spelled differently, and wherever a mode has been
set at or above a node, as it has at the root, its named children differ under the mode in force. -/
theorem siblings_differ_of_reachable (reachable : tree.Reachable) :
    (∀ menu, ∀ first ∈ (tree.node menu).children, ∀ second ∈ (tree.node menu).children,
      first ≠ second → (tree.node first).selector? ≠ (tree.node second).selector?) ∧
    ∀ menu path, tree.Ascent menu path →
      (root ∈ path ∨ ∃ upper ∈ path, (tree.node upper).comparison? ≠ none) →
      ∀ first ∈ (tree.node menu).children, ∀ second ∈ (tree.node menu).children,
        first ≠ second →
        (tree.comparison menu).same (tree.selector first) (tree.selector second) = false := by
  have distinct := reachable.distinct
  constructor
  · intro menu first firstMember second secondMember different equal
    have differs := distinct.spelled menu first firstMember second secondMember different
    rw [selector, selector, equal, same_self] at differs
    contradiction
  · intro menu path ascent decided
    have upper : ∃ upper ∈ path, (tree.node upper).comparison? ≠ none := by
      rcases decided with atRoot | upper
      · exact ⟨root, atRoot, distinct.rooted⟩
      · exact upper
    exact distinct.governed menu _ (governed_of_ascent reachable.forest ascent upper)

theorem siblings_differ_of_regrafted :
    let sensitive : Node Unit := { Node.menu "sub" with comparison? := some .sensitive }
    let tree := (empty .insensitive : Tree Unit).applyAll
      [.add 0 sensitive, .add 1 (.menu "inner"), .add 2 (.leaf "Go" ()), .add 2 (.leaf "go" ()),
        .detach 2, .attach 0 2, .attach 1 2]
    (tree.node 3).selector? ≠ (tree.node 4).selector? ∧
      (tree.comparison 2).same (tree.selector 3) (tree.selector 4) = false := by
  intro sensitive tree
  have reachable : tree.Reachable := ⟨.insensitive, Reaches.refl.applyAll (by decide)⟩
  obtain ⟨spelled, differ⟩ := siblings_differ_of_reachable reachable
  have ascent : tree.Ascent 2 [2, 1, 0] :=
    .step (by decide) (.step (by decide) (.top (by decide)))
  exact ⟨spelled 2 3 (by decide) 4 (by decide) (by decide),
    differ 2 [2, 1, 0] ascent (.inl (by decide)) 3 (by decide) 4 (by decide) (by decide)⟩

end Tree

end MenuShell

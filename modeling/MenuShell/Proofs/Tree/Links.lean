import MenuShell.Proofs.Tree.Forest

/-!
Growing a forest, hanging a child and letting one go leave a forest behind. Hanging a child asks
that it hangs nowhere yet and is not on the way up from its new parent: what was below it is then
still below it, and its own way up is continued by that of the parent.
-/

namespace MenuShell

namespace Tree

variable {Action : Type} {tree later : Tree Action} {parent child id : NodeId}

theorem Ascent.congr {path : List NodeId} (ascent : tree.Ascent id path)
    (parents : ∀ id, (later.node id).parent? = (tree.node id).parent?) :
    later.Ascent id path := by
  induction ascent with
  | top free => exact .top (by rw [parents, free])
  | step linked _ ih => exact .step (by rw [parents, linked]) ih

theorem Forest.congr (forest : tree.Forest) (size : later.size = tree.size)
    (same : ∀ id, (later.node id).selector? = (tree.node id).selector? ∧
      (later.node id).children = (tree.node id).children ∧
      (later.node id).defaultChild? = (tree.node id).defaultChild? ∧
      (later.node id).parent? = (tree.node id).parent?) : later.Forest := by
  have selectors := fun id => (same id).1
  have children := fun id => (same id).2.1
  have fallbacks := fun id => (same id).2.2.1
  have parents := fun id => (same id).2.2.2
  apply Forest.ofLinks
  · intro parent child
    rw [children, selectors, parents, forest.named]
  · intro parent child
    rw [fallbacks, selectors, parents, forest.unnamed]
  · intro parent
    rw [children]
    exact forest.nodup parent
  · intro parent child linked
    rw [parents] at linked
    rw [size]
    exact forest.parent_lt linked
  · rw [size]
    exact forest.planted
  · rw [parents, forest.rootless]
  · intro id
    obtain ⟨path, ascent⟩ := forest.grounded id
    exact ⟨path, ascent.congr parents⟩

theorem Forest.modify (forest : tree.Forest) {change : Node Action → Node Action}
    (selector : ∀ node, (change node).selector? = node.selector?)
    (children : ∀ node, (change node).children = node.children)
    (fallback : ∀ node, (change node).defaultChild? = node.defaultChild?)
    (above : ∀ node, (change node).parent? = node.parent?) (id : NodeId) :
    (tree.modify id change).Forest := by
  apply forest.congr (size_modify change)
  intro other
  exact ⟨field_modify Node.selector? selector id other, field_modify Node.children children id other,
    field_modify Node.defaultChild? fallback id other, field_modify Node.parent? above id other⟩

section Insert

variable (node : Node Action)

theorem field_insert {Value : Type} (field : Node Action → Value)
    (cut : ∀ node, field (Node.unlinked node) = field {}) (id : NodeId) :
    field ((tree.insert node).2.node id) = field (tree.node id) := by
  -- What linking alone can fill is empty in a new node, as it is outside the arena.
  by_cases new : id = tree.size
  · rw [new, node_insert_self, node_of_size_le (Nat.le_refl _), cut]
  · rw [node_insert_of_ne node new]

theorem parent_insert (id : NodeId) :
    ((tree.insert node).2.node id).parent? = (tree.node id).parent? :=
  field_insert node Node.parent? (fun _ => rfl) id

theorem children_insert (id : NodeId) :
    ((tree.insert node).2.node id).children = (tree.node id).children :=
  field_insert node Node.children (fun _ => rfl) id

theorem defaultChild_insert (id : NodeId) :
    ((tree.insert node).2.node id).defaultChild? = (tree.node id).defaultChild? :=
  field_insert node Node.defaultChild? (fun _ => rfl) id

theorem Forest.insert (forest : tree.Forest) : (tree.insert node).2.Forest := by
  have selectors : ∀ {parent child}, (tree.node child).parent? = some parent →
      ((tree.insert node).2.node child).selector? = (tree.node child).selector? := by
    intro parent child linked
    rw [node_insert_of_ne node (Nat.ne_of_lt (lt_size_of_parent linked))]
  apply Forest.ofLinks
  · intro parent child
    rw [children_insert, parent_insert, forest.named]
    apply and_congr_left
    intro linked
    rw [selectors linked]
  · intro parent child
    rw [defaultChild_insert, parent_insert, forest.unnamed]
    apply and_congr_left
    intro linked
    rw [selectors linked]
  · intro parent
    rw [children_insert]
    exact forest.nodup parent
  · intro parent child linked
    rw [parent_insert] at linked
    rw [size_insert]
    exact Nat.lt_succ_of_lt (forest.parent_lt linked)
  · rw [size_insert]
    exact Nat.lt_succ_of_lt forest.planted
  · rw [parent_insert, forest.rootless]
  · intro id
    obtain ⟨path, ascent⟩ := forest.grounded id
    exact ⟨path, ascent.congr (parent_insert node)⟩

end Insert

structure Free (tree : Tree Action) (parent child : NodeId) : Prop where
  parentBound : parent < tree.size
  childBound : child < tree.size
  notRoot : child ≠ root
  loose : (tree.node child).parent? = none
  notAbove : child ∉ tree.lineage parent
  vacant : (tree.node child).selector? = none → (tree.node parent).defaultChild? = none
  word : ∀ selector, (tree.node child).selector? = some selector → isWord selector = true
  unlike : ∀ selector, (tree.node child).selector? = some selector →
    tree.child? parent selector = none

theorem attachObstacle?_eq_none_iff (parentBound : parent < tree.size)
    (childBound : child < tree.size) :
    tree.attachObstacle? parent child = none ↔ tree.Free parent child := by
  unfold attachObstacle?
  constructor
  · intro clear
    split at clear
    · simp at clear
    · rename_i elsewhere
      simp only [Bool.or_eq_true, decide_eq_true_eq, List.contains_iff_mem, not_or,
        Option.not_isSome_iff_eq_none] at elsewhere
      obtain ⟨⟨notRoot, loose⟩, notAbove⟩ := elsewhere
      cases name : (tree.node child).selector? with
      | none =>
          simp only [name] at clear
          split at clear
          · simp at clear
          · rename_i vacant
            have noDefault := Option.not_isSome_iff_eq_none.mp vacant
            exact ⟨parentBound, childBound, notRoot, loose, notAbove, fun _ => noDefault,
              by simp [name], by simp [name]⟩
      | some selector =>
          simp only [name] at clear
          split at clear
          · simp at clear
          · rename_i isWord
            split at clear
            · simp at clear
            · rename_i unlike
              exact ⟨parentBound, childBound, notRoot, loose, notAbove, by simp [name],
                by simpa [name] using isWord, by simpa [name] using unlike⟩
  · intro free
    rw [if_neg (by simp [free.notRoot, free.loose, free.notAbove])]
    cases name : (tree.node child).selector? with
    | none => simp [defaultChild?, free.vacant name]
    | some selector => simp [free.word selector name, free.unlike selector name]

namespace Free

theorem apart (free : tree.Free parent child) (forest : tree.Forest) : parent ≠ child := by
  intro same
  exact free.notAbove (same ▸ forest.mem_lineage_self parent)

theorem not_mem_children (free : tree.Free parent child) (forest : tree.Forest) (id : NodeId) :
    child ∉ (tree.node id).children := by
  intro member
  have linked := ((forest.named id child).mp member).2
  simp [free.loose] at linked

theorem not_defaultChild (free : tree.Free parent child) (forest : tree.Forest) (id : NodeId) :
    (tree.node id).defaultChild? ≠ some child := by
  intro member
  have linked := ((forest.unnamed id child).mp member).2
  simp [free.loose] at linked

end Free

theorem selector_link (parent child id : NodeId) :
    ((tree.link parent child).node id).selector? = (tree.node id).selector? := by
  simpa only [Node.unlinked] using
    congrArg Node.selector? (unlinked_link tree parent child id)

theorem comparison_link (parent child id : NodeId) :
    ((tree.link parent child).node id).comparison? = (tree.node id).comparison? := by
  simpa only [Node.unlinked] using
    congrArg Node.comparison? (unlinked_link tree parent child id)

theorem Ascent.link_of_not_mem {path : List NodeId} (ascent : tree.Ascent id path)
    (childBound : child < tree.size) (missed : child ∉ path) :
    (tree.link parent child).Ascent id path := by
  induction ascent with
  | top free =>
      have other := Ne.symm (List.ne_of_not_mem_cons missed)
      exact .top (by rw [parent_link childBound, if_neg other, free])
  | step linked _ ih =>
      have other := Ne.symm (List.ne_of_not_mem_cons missed)
      refine .step ?_ (ih (List.not_mem_of_not_mem_cons missed))
      rw [parent_link childBound, if_neg other, linked]

theorem Free.grounded_link (free : tree.Free parent child) (forest : tree.Forest)
    (id : NodeId) : ∃ path, (tree.link parent child).Ascent id path := by
  obtain ⟨path, ascent⟩ := forest.grounded id
  induction ascent with
  | @top id unlinked =>
      by_cases same : id = child
      · -- The child's way up now goes on with its parent's, which does not pass the child.
        have above : (tree.link parent child).Ascent parent (tree.lineage parent) :=
          (forest.ascent_lineage parent).link_of_not_mem free.childBound free.notAbove
        exact ⟨_, .step (by rw [parent_link free.childBound, if_pos same]) above⟩
      · exact ⟨_, .top (by rw [parent_link free.childBound, if_neg same, unlinked])⟩
  | @step id _ _ linked _ ih =>
      have other : id ≠ child := by
        intro same
        rw [same, free.loose] at linked
        contradiction
      obtain ⟨above, aboveAscent⟩ := ih
      exact ⟨_, .step (by rw [parent_link free.childBound, if_neg other, linked]) aboveAscent⟩

theorem Forest.link (forest : tree.Forest) (free : tree.Free parent child) :
    (tree.link parent child).Forest := by
  have parents : ∀ upper lower, ((tree.link parent child).node lower).parent? = some upper ↔
      (lower = child ∧ upper = parent) ∨ (tree.node lower).parent? = some upper := by
    intro upper lower
    rw [parent_link free.childBound]
    by_cases same : lower = child
    · simp [same, free.loose, eq_comm]
    · simp [same]
  apply Forest.ofLinks
  · intro upper lower
    have before := forest.named upper lower
    rw [children_link free.parentBound, selector_link, parents]
    split <;> grind
  · intro upper lower
    have before := forest.unnamed upper lower
    have vacant := free.vacant
    rw [defaultChild_link free.parentBound, selector_link, parents]
    split <;> grind
  · intro upper
    rw [children_link free.parentBound]
    split
    · rw [List.nodup_append]
      refine ⟨forest.nodup upper, by simp, ?_⟩
      intro sibling member other last
      rw [List.mem_singleton.mp last]
      exact fun same => free.not_mem_children forest upper (same ▸ member)
    · exact forest.nodup upper
  · intro upper lower linked
    rw [size_link]
    rcases (parents upper lower).mp linked with ⟨-, rfl⟩ | before
    · exact free.parentBound
    · exact forest.parent_lt before
  · rw [size_link]
    exact forest.planted
  · rw [parent_link free.childBound, if_neg (Ne.symm free.notRoot), forest.rootless]
  · exact free.grounded_link forest

/-! ### Letting a child go -/

theorem selector_unlink (parent child id : NodeId) :
    ((tree.unlink parent child).node id).selector? = (tree.node id).selector? := by
  simpa only [Node.unlinked] using
    congrArg Node.selector? (unlinked_unlink tree parent child id)

theorem comparison_unlink (parent child id : NodeId) :
    ((tree.unlink parent child).node id).comparison? = (tree.node id).comparison? := by
  simpa only [Node.unlinked] using
    congrArg Node.comparison? (unlinked_unlink tree parent child id)

theorem grounded_unlink {path : List NodeId} (ascent : tree.Ascent id path)
    (childBound : child < tree.size) : ∃ path, (tree.unlink parent child).Ascent id path := by
  induction ascent with
  | top free => exact ⟨_, .top (by rw [parent_unlink childBound, free, ite_self])⟩
  | @step id _ _ linked _ ih =>
      by_cases same : id = child
      · exact ⟨_, .top (by rw [parent_unlink childBound, if_pos same])⟩
      · obtain ⟨above, aboveAscent⟩ := ih
        exact ⟨_, .step (by rw [parent_unlink childBound, if_neg same, linked]) aboveAscent⟩

theorem Forest.unlink (forest : tree.Forest)
    (linked : (tree.node child).parent? = some parent) : (tree.unlink parent child).Forest := by
  have childBound := lt_size_of_parent linked
  have parentBound := forest.parent_lt linked
  have parents : ∀ upper lower, ((tree.unlink parent child).node lower).parent? = some upper ↔
      lower ≠ child ∧ (tree.node lower).parent? = some upper := by
    intro upper lower
    rw [parent_unlink childBound]
    by_cases same : lower = child <;> simp [same]
  apply Forest.ofLinks
  · intro upper lower
    have before := forest.named upper lower
    have childNamed := forest.named upper child
    have childUnnamed := forest.unnamed parent child
    rw [children_unlink parentBound, selector_unlink, parents]
    split <;> grind
  · intro upper lower
    have before := forest.unnamed upper lower
    have childUnnamed := forest.unnamed parent child
    rw [defaultChild_unlink parentBound, selector_unlink, parents]
    split <;> grind
  · intro upper
    rw [children_unlink parentBound]
    split
    · exact (forest.nodup upper).filter _
    · exact forest.nodup upper
  · intro upper lower below
    rw [size_unlink]
    exact forest.parent_lt ((parents upper lower).mp below).2
  · rw [size_unlink]
    exact forest.planted
  · rw [parent_unlink childBound, forest.rootless, ite_self]
  · intro id
    obtain ⟨path, ascent⟩ := forest.grounded id
    exact grounded_unlink ascent childBound

theorem unlink_link (forest : tree.Forest) (free : tree.Free parent child) :
    (tree.link parent child).unlink parent child = tree := by
  have linkedBound : parent < (tree.link parent child).size := by
    rw [size_link]
    exact free.parentBound
  have absent := free.not_mem_children forest parent
  have notFallback := free.not_defaultChild forest parent
  have others : (tree.node parent).children.filter (· ≠ child) = (tree.node parent).children := by
    apply List.filter_eq_self.mpr
    intro sibling member
    exact decide_eq_true fun same => absent (same ▸ member)
  apply ext_nodes
  · rw [size_unlink, size_link]
  · intro id
    apply Node.ext_links
    · rw [unlinked_unlink, unlinked_link]
    · rw [children_unlink linkedBound, children_link free.parentBound,
        defaultChild_link free.parentBound]
      cases name : (tree.node child).selector? with
      | none => simp
      | some selector =>
          by_cases same : id = parent
          · simpa [same, notFallback] using others
          · simp [same]
    · simp only [defaultChild_unlink linkedBound, defaultChild_link free.parentBound]
      cases name : (tree.node child).selector? with
      | none => by_cases same : id = parent <;> simp [same, free.vacant name]
      | some selector => by_cases same : id = parent <;> simp [same, notFallback]
    · rw [parent_unlink (by rw [size_link]; exact free.childBound), parent_link free.childBound]
      by_cases same : id = child <;> simp [same, free.loose]
  · simp only [unlink, link, switches_modify]

end Tree

end MenuShell

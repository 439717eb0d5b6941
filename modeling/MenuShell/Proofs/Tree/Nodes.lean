import MenuShell.Tree.Edit

/-!
What each change of a tree does to the nodes in it. Linking a child touches two nodes, and so does
letting it go; everything else is about one node or none.
-/

namespace MenuShell

namespace Tree

variable {Action : Type} {tree : Tree Action} {parent child id : NodeId}

theorem node_eq_getElem (bound : id < tree.nodes.size) : tree.node id = tree.nodes[id] := by
  simp [node, bound]

theorem node_of_size_le (beyond : tree.size ≤ id) : tree.node id = {} := by
  have outside : tree.nodes[id]? = none := Array.getElem?_eq_none beyond
  simp [node, outside]

theorem lt_size_of_ne (differs : tree.node id ≠ {}) : id < tree.size :=
  Nat.lt_of_not_le fun beyond => differs (node_of_size_le beyond)

theorem lt_size_of_parent (linked : (tree.node child).parent? = some parent) :
    child < tree.size := by
  apply lt_size_of_ne
  intro blank
  simp [blank] at linked

theorem ext_nodes {left right : Tree Action} (size : left.size = right.size)
    (nodes : ∀ id, left.node id = right.node id) (switches : left.switches = right.switches) :
    left = right := by
  have arrays : left.nodes = right.nodes := by
    apply Array.ext size
    intro index leftBound rightBound
    have same := nodes index
    rwa [node_eq_getElem leftBound, node_eq_getElem rightBound] at same
  obtain ⟨leftNodes, leftSwitches⟩ := left
  obtain ⟨rightNodes, rightSwitches⟩ := right
  exact (Tree.mk.injEq ..).mpr ⟨arrays, switches⟩

@[simp] theorem size_modify (change : Node Action → Node Action) :
    (tree.modify id change).size = tree.size := by
  simp [size, modify]

@[simp] theorem switches_modify (change : Node Action → Node Action) :
    (tree.modify id change).switches = tree.switches := rfl

theorem node_modify_self (bound : id < tree.size) (change : Node Action → Node Action) :
    (tree.modify id change).node id = change (tree.node id) := by
  rw [node_eq_getElem (by simpa [modify, size] using bound), node_eq_getElem bound]
  exact Array.getElem_modify_self change _

theorem node_modify_of_ne {other : NodeId} (different : other ≠ id)
    (change : Node Action → Node Action) :
    (tree.modify id change).node other = tree.node other := by
  by_cases bound : other < tree.size
  · rw [node_eq_getElem (by simpa [modify, size] using bound), node_eq_getElem bound]
    exact Array.getElem_modify_of_ne (Ne.symm different) change _
  · rw [node_of_size_le (by simpa using bound), node_of_size_le (by simpa using bound)]

theorem field_modify {Value : Type} (field : Node Action → Value)
    {change : Node Action → Node Action} (kept : ∀ node, field (change node) = field node)
    (id other : NodeId) : field ((tree.modify id change).node other) = field (tree.node other) := by
  by_cases same : other = id
  · subst other
    by_cases bound : id < tree.size
    · rw [node_modify_self bound, kept]
    · rw [node_of_size_le (by simpa using bound), node_of_size_le (by simpa using bound)]
  · rw [node_modify_of_ne same]

@[simp] theorem size_empty (mode : Comparison) : (empty mode : Tree Action).size = 1 := rfl

theorem node_empty (mode : Comparison) (id : NodeId) :
    (empty mode : Tree Action).node id = { comparison? := if id = root then some mode else none } := by
  by_cases first : id = root
  · subst first
    rfl
  · rw [node_of_size_le]
    · simp [first]
    · exact Nat.one_le_iff_ne_zero.mpr first

@[simp] theorem fst_insert (node : Node Action) : (tree.insert node).1 = tree.size := rfl

@[simp] theorem size_insert (node : Node Action) : (tree.insert node).2.size = tree.size + 1 := by
  simp [insert, size]

theorem node_insert_self (node : Node Action) :
    (tree.insert node).2.node tree.size = node.unlinked := by
  simp [insert, Tree.node, size]

theorem node_insert_of_ne (node : Node Action) (different : id ≠ tree.size) :
    (tree.insert node).2.node id = tree.node id := by
  simp [insert, Tree.node, Array.getElem?_push, show id ≠ tree.nodes.size from different]

@[simp] theorem dropLast_insert (node : Node Action) : (tree.insert node).2.dropLast = tree := by
  simp [insert, dropLast]

@[simp] theorem size_link : (tree.link parent child).size = tree.size := by
  simp [link]

@[simp] theorem size_unlink : (tree.unlink parent child).size = tree.size := by
  simp [unlink]

theorem unlinked_link (tree : Tree Action) (parent child id : NodeId) :
    ((tree.link parent child).node id).unlinked = (tree.node id).unlinked := by
  rw [link, field_modify Node.unlinked, field_modify Node.unlinked]
  · intro node
    split <;> rfl
  · exact fun _ => rfl

theorem unlinked_unlink (tree : Tree Action) (parent child id : NodeId) :
    ((tree.unlink parent child).node id).unlinked = (tree.node id).unlinked := by
  rw [unlink, field_modify Node.unlinked, field_modify Node.unlinked]
  · intro node
    split <;> rfl
  · exact fun _ => rfl

theorem parent_link (childBound : child < tree.size) (id : NodeId) :
    ((tree.link parent child).node id).parent? =
      if id = child then some parent else (tree.node id).parent? := by
  rw [link]
  by_cases same : id = child
  · rw [same, node_modify_self (by simpa using childBound), if_pos rfl]
  · rw [node_modify_of_ne same, if_neg same, field_modify Node.parent?]
    intro node
    split <;> rfl

theorem children_link (parentBound : parent < tree.size) (id : NodeId) :
    ((tree.link parent child).node id).children =
      if id = parent ∧ (tree.node child).selector?.isSome then (tree.node id).children ++ [child]
      else (tree.node id).children := by
  rw [link, field_modify Node.children]
  case kept => exact fun _ => rfl
  by_cases same : id = parent
  · subst id
    rw [node_modify_self parentBound]
    cases (tree.node child).selector? <;> simp
  · simp [node_modify_of_ne same, same]

theorem defaultChild_link (parentBound : parent < tree.size) (id : NodeId) :
    ((tree.link parent child).node id).defaultChild? =
      if id = parent ∧ (tree.node child).selector? = none then some child
      else (tree.node id).defaultChild? := by
  rw [link, field_modify Node.defaultChild?]
  case kept => exact fun _ => rfl
  by_cases same : id = parent
  · subst id
    rw [node_modify_self parentBound]
    cases (tree.node child).selector? <;> simp
  · simp [node_modify_of_ne same, same]

theorem parent_unlink (childBound : child < tree.size) (id : NodeId) :
    ((tree.unlink parent child).node id).parent? =
      if id = child then none else (tree.node id).parent? := by
  rw [unlink]
  by_cases same : id = child
  · rw [same, node_modify_self (by simpa using childBound), if_pos rfl]
  · rw [node_modify_of_ne same, if_neg same, field_modify Node.parent?]
    intro node
    split <;> rfl

theorem children_unlink (parentBound : parent < tree.size) (id : NodeId) :
    ((tree.unlink parent child).node id).children =
      if id = parent ∧ (tree.node parent).defaultChild? ≠ some child then
        (tree.node id).children.filter (· ≠ child)
      else (tree.node id).children := by
  rw [unlink, field_modify Node.children]
  case kept => exact fun _ => rfl
  by_cases same : id = parent
  · subst id
    rw [node_modify_self parentBound]
    by_cases fallback : (tree.node parent).defaultChild? = some child <;> simp [fallback]
  · simp [node_modify_of_ne same, same]

theorem defaultChild_unlink (parentBound : parent < tree.size) (id : NodeId) :
    ((tree.unlink parent child).node id).defaultChild? =
      if id = parent ∧ (tree.node parent).defaultChild? = some child then none
      else (tree.node id).defaultChild? := by
  rw [unlink, field_modify Node.defaultChild?]
  case kept => exact fun _ => rfl
  by_cases same : id = parent
  · subst id
    rw [node_modify_self parentBound]
    by_cases fallback : (tree.node parent).defaultChild? = some child <;> simp [fallback]
  · simp [node_modify_of_ne same, same]

end Tree

theorem Node.ext_links {Action : Type} {left right : Node Action}
    (unlinked : left.unlinked = right.unlinked) (children : left.children = right.children)
    (fallback : left.defaultChild? = right.defaultChild?)
    (above : left.parent? = right.parent?) : left = right := by
  cases left
  cases right
  simp_all [Node.unlinked]

end MenuShell

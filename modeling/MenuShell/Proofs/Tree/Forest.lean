import MenuShell.Proofs.Tree.Nodes

/-!
The links of a tree as a forest: children and parents agree, and every way up comes to an end. The
way up from a node is a relation of its own here; in a forest the bounded walk of `Tree.lineage`
finds all of it, because no node is passed twice.
-/

namespace MenuShell

namespace Tree

variable {Action : Type} {tree : Tree Action} {parent child id : NodeId}

/-- The nodes on the way up from a node, the node itself first and one without a parent last. -/
inductive Ascent (tree : Tree Action) : NodeId → List NodeId → Prop
  | top {id : NodeId} : (tree.node id).parent? = none → Ascent tree id [id]
  | step {id parent : NodeId} {above : List NodeId} : (tree.node id).parent? = some parent →
      Ascent tree parent above → Ascent tree id (id :: above)

theorem Ascent.unique {path other : List NodeId} (ascent : tree.Ascent id path)
    (again : tree.Ascent id other) : path = other := by
  induction ascent generalizing other with
  | top free =>
      cases again with
      | top _ => rfl
      | step linked _ => simp [free] at linked
  | step linked _ ih =>
      cases again with
      | top free => simp [free] at linked
      | step alsoLinked rest =>
          have same := Option.some.inj (linked.symm.trans alsoLinked)
          subst same
          rw [ih rest]

theorem Ascent.self_mem {path : List NodeId} (ascent : tree.Ascent id path) : id ∈ path := by
  cases ascent <;> simp

theorem Ascent.from_mem {path : List NodeId} {upper : NodeId} (ascent : tree.Ascent id path)
    (member : upper ∈ path) : ∃ rest, tree.Ascent upper rest ∧ rest <:+ path := by
  induction ascent with
  | top free =>
      rw [List.mem_singleton.mp member]
      exact ⟨_, .top free, List.suffix_rfl⟩
  | @step id _ above linked rest ih =>
      rcases List.mem_cons.mp member with rfl | higher
      · exact ⟨_, .step linked rest, List.suffix_rfl⟩
      · obtain ⟨tail, tailAscent, shorter⟩ := ih higher
        exact ⟨tail, tailAscent, shorter.trans (List.suffix_cons id above)⟩

theorem Ascent.start_not_mem {above : List NodeId} (ascent : tree.Ascent id (id :: above)) :
    id ∉ above := by
  intro returned
  cases ascent with
  | top _ => simp at returned
  | step linked rest =>
      -- The way up would be a proper part of itself.
      obtain ⟨tail, tailAscent, shorter⟩ := rest.from_mem returned
      have same := tailAscent.unique (.step linked rest)
      have length := shorter.length_le
      rw [same, List.length_cons] at length
      omega

theorem Ascent.nodup {path : List NodeId} (ascent : tree.Ascent id path) : path.Nodup := by
  induction ascent with
  | top _ => simp
  | step linked rest ih => exact List.nodup_cons.mpr ⟨(Ascent.step linked rest).start_not_mem, ih⟩

theorem climb_eq_of_ascent {path : List NodeId} {bound : Nat} (ascent : tree.Ascent id path)
    (enough : path.length ≤ bound) : tree.climb bound id = path := by
  induction ascent generalizing bound with
  | top free =>
      cases bound with
      | zero => simp at enough
      | succ bound => simp [climb, free]
  | step linked _ ih =>
      cases bound with
      | zero => simp at enough
      | succ bound =>
          simp only [climb, linked]
          rw [ih (by simpa using enough)]

structure Forest (tree : Tree Action) : Prop where
  named : ∀ parent child, child ∈ (tree.node parent).children ↔
    (tree.node child).selector?.isSome ∧ (tree.node child).parent? = some parent
  unnamed : ∀ parent child, (tree.node parent).defaultChild? = some child ↔
    (tree.node child).selector? = none ∧ (tree.node child).parent? = some parent
  nodup : ∀ parent, (tree.node parent).children.Nodup
  stored : ∀ id, ∀ other ∈ (tree.node id).allChildren ++ (tree.node id).parent?.toList,
    other < tree.size
  planted : root < tree.size
  rootless : (tree.node root).parent? = none
  grounded : ∀ id, ∃ path, tree.Ascent id path

namespace Forest

theorem mem_allChildren (forest : tree.Forest) :
    child ∈ (tree.node parent).allChildren ↔ (tree.node child).parent? = some parent := by
  rw [Node.allChildren, List.mem_append, Option.mem_toList, forest.named, forest.unnamed]
  cases (tree.node child).selector? <;> simp

theorem parent_lt (forest : tree.Forest) (linked : (tree.node child).parent? = some parent) :
    parent < tree.size := by
  apply forest.stored child
  simp [linked]

theorem ascent_lt {path : List NodeId} (forest : tree.Forest) (ascent : tree.Ascent id path)
    (bound : id < tree.size) : ∀ upper ∈ path, upper < tree.size := by
  induction ascent with
  | top _ => simpa using bound
  | step linked _ ih =>
      intro upper member
      rcases List.mem_cons.mp member with rfl | higher
      · exact bound
      · exact ih (forest.parent_lt linked) upper higher

theorem ascent_length_le {path : List NodeId} (forest : tree.Forest)
    (ascent : tree.Ascent id path) : path.length ≤ tree.size := by
  by_cases bound : id < tree.size
  · -- No node is passed twice, so the arena bounds the way.
    have inside : path ⊆ List.range tree.size := fun upper member =>
      List.mem_range.mpr (forest.ascent_lt ascent bound upper member)
    simpa using ascent.nodup.length_le_of_subset inside
  · cases ascent with
    | top _ => exact forest.planted
    | step linked _ => exact absurd (lt_size_of_parent linked) bound

theorem lineage_eq {path : List NodeId} (forest : tree.Forest) (ascent : tree.Ascent id path) :
    tree.lineage id = path :=
  climb_eq_of_ascent ascent (forest.ascent_length_le ascent)

theorem ascent_lineage (forest : tree.Forest) (id : NodeId) :
    tree.Ascent id (tree.lineage id) := by
  obtain ⟨path, ascent⟩ := forest.grounded id
  rwa [forest.lineage_eq ascent]

theorem lineage_step (forest : tree.Forest) (linked : (tree.node child).parent? = some parent) :
    tree.lineage child = child :: tree.lineage parent :=
  forest.lineage_eq (.step linked (forest.ascent_lineage parent))

theorem mem_lineage_self (forest : tree.Forest) (id : NodeId) : id ∈ tree.lineage id :=
  (forest.ascent_lineage id).self_mem

theorem ofLinks
    (named : ∀ parent child, child ∈ (tree.node parent).children ↔
      (tree.node child).selector?.isSome ∧ (tree.node child).parent? = some parent)
    (unnamed : ∀ parent child, (tree.node parent).defaultChild? = some child ↔
      (tree.node child).selector? = none ∧ (tree.node child).parent? = some parent)
    (nodup : ∀ parent, (tree.node parent).children.Nodup)
    (inside : ∀ parent child, (tree.node child).parent? = some parent → parent < tree.size)
    (planted : root < tree.size) (rootless : (tree.node root).parent? = none)
    (grounded : ∀ id, ∃ path, tree.Ascent id path) : tree.Forest := by
  refine ⟨named, unnamed, nodup, ?_, planted, rootless, grounded⟩
  intro id other member
  rcases List.mem_append.mp member with below | above
  · rcases List.mem_append.mp below with child | fallback
    · exact lt_size_of_parent ((named id other).mp child).2
    · exact lt_size_of_parent ((unnamed id other).mp (Option.mem_toList.mp fallback)).2
  · exact inside other id (Option.mem_toList.mp above)

end Forest

theorem forest_empty (mode : Comparison) : (empty mode : Tree Action).Forest := by
  apply Forest.ofLinks
  · intro parent child
    simp [node_empty]
  · intro parent child
    simp [node_empty]
  · intro parent
    simp [node_empty]
  · intro parent child linked
    simp [node_empty] at linked
  · simp [root]
  · simp [node_empty]
  · intro id
    exact ⟨[id], .top (by simp [node_empty])⟩

end Tree

end MenuShell

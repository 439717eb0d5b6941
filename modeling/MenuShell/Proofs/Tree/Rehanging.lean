import MenuShell.Proofs.Tree.Advice
import MenuShell.Proofs.Tree.Hanging

/-!
Taking a node off and putting it back. In between, what takes its mode from above may have siblings that
are equal, as no mode is in force there; but below a menu that is connected to the root they were apart
under the mode that comes into force again. So the node can be put back, and only its place among its
siblings may be another.
-/

namespace MenuShell

namespace Tree

variable {Action : Type} {tree later : Tree Action} {parent child id menu : NodeId}

theorem Forest.not_mem_lineage_parent (forest : tree.Forest)
    (linked : (tree.node child).parent? = some parent) : child ∉ tree.lineage parent := by
  have ascent := forest.ascent_lineage child
  rw [forest.lineage_step linked] at ascent
  exact ascent.start_not_mem

theorem elsewhere_unlink (childBound : child < tree.size) :
    Elsewhere tree (tree.unlink parent child) child := by
  intro other different
  rw [comparison_unlink, parent_unlink childBound, if_neg different]
  exact ⟨rfl, rfl⟩

theorem Ascent.subset_of_unlink {path : List NodeId} (forest : tree.Forest)
    (childBound : child < tree.size) (ascent : (tree.unlink parent child).Ascent id path) :
    path ⊆ tree.lineage id := by
  induction ascent with
  | @top id _ =>
      intro upper member
      rw [List.mem_singleton.mp member]
      exact forest.mem_lineage_self id
  | @step id _ _ linked _ ih =>
      rw [parent_unlink childBound] at linked
      split at linked
      · contradiction
      · rw [forest.lineage_step linked]
        exact List.cons_subset_cons id ih

theorem comparison_parent_unlink (forest : tree.Forest)
    (linked : (tree.node child).parent? = some parent) :
    (tree.unlink parent child).comparison parent = tree.comparison parent := by
  apply (elsewhere_unlink (lt_size_of_parent linked)).comparison_eq forest (forest.unlink linked)
  exact fun inherits => forest.not_mem_lineage_parent linked (inherits.mem_lineage forest)

theorem hasPlace_unlink (reachable : tree.Reachable)
    (linked : (tree.node child).parent? = some parent) (connected : root ∈ tree.lineage parent) :
    (tree.unlink parent child).HasPlace parent child := by
  have forest := reachable.forest
  have parentBound := forest.parent_lt linked
  have apart := reachable.apart_of_connected connected
  rw [HasPlace, selector_unlink, comparison_parent_unlink forest linked]
  cases named : (tree.node child).selector? with
  | none =>
      have fallback := (forest.unnamed parent child).mpr ⟨named, linked⟩
      simp [defaultChild_unlink parentBound, fallback]
  | some selector =>
      refine ⟨isWord_iff.mp (reachable.worded child selector (by simp [linked]) named), ?_⟩
      have hangs := (forest.named parent child).mpr ⟨by simp [named], linked⟩
      have spelling : tree.selector child = selector := by simp [Tree.selector, named]
      have fallback : (tree.node parent).defaultChild? ≠ some child := by
        intro fallback
        simp [((forest.unnamed parent child).mp fallback).1] at named
      intro sibling member
      rw [children_unlink parentBound, if_pos ⟨rfl, fallback⟩, List.mem_filter] at member
      have rehung : Rehung tree (tree.unlink parent child) := .unlink parent child
      rw [rehung.selector_eq, ← spelling]
      exact apart sibling member.1 child hangs (of_decide_eq_true member.2)

theorem attachable_unlink (reachable : tree.Reachable)
    (linked : (tree.node child).parent? = some parent) (connected : root ∈ tree.lineage parent) :
    (tree.unlink parent child).Attachable parent child := by
  have forest := reachable.forest
  have childBound := lt_size_of_parent linked
  have parentBound := forest.parent_lt linked
  refine ⟨(free_iff (forest.unlink linked) ?_ ?_).mpr ⟨?_, ?_, ?_, ?_⟩, ?_⟩
  · rwa [size_unlink]
  · rwa [size_unlink]
  · rintro rfl
    simp [forest.rootless] at linked
  · rw [parent_unlink childBound, if_pos rfl]
  · intro path ascent member
    exact forest.not_mem_lineage_parent linked (ascent.subset_of_unlink forest childBound member)
  · exact hasPlace_unlink reachable linked connected
  · intro own below reached
    rw [comparison_unlink] at own
    -- Below the node the parent's mode was in force, which has kept siblings apart.
    have inherits := ((elsewhere_unlink childBound).symm.inherits reached).trans
      (.step own linked (.refl parent))
    have upper := forest.lineage_suffix (inherits.mem_lineage forest)
    have apart := reachable.apart_of_connected (upper.subset connected)
    rw [comparison_parent_unlink forest linked, ← inherits.comparison_eq forest]
    exact apart.unlink parentBound

/-- The children with one of them at the end, if it is among them; a default item is not. -/
def moveLast (child : NodeId) (children : List NodeId) : List NodeId :=
  if child ∈ children then children.filter (· ≠ child) ++ [child] else children

def withLast (tree : Tree Action) (parent child : NodeId) : Tree Action :=
  tree.modify parent fun node => { node with children := moveLast child node.children }

theorem parent_link_unlink (linked : (tree.node child).parent? = some parent) (id : NodeId) :
    (((tree.unlink parent child).link parent child).node id).parent? = (tree.node id).parent? := by
  have childBound := lt_size_of_parent linked
  rw [parent_link (by rwa [size_unlink]), parent_unlink childBound]
  by_cases same : id = child
  · rw [if_pos same, same, linked]
  · rw [if_neg same, if_neg same]

section Back

variable (forest : tree.Forest) (linked : (tree.node child).parent? = some parent)

include forest linked

theorem defaultChild_link_unlink (id : NodeId) :
    (((tree.unlink parent child).link parent child).node id).defaultChild? =
      (tree.node id).defaultChild? := by
  have parentBound := forest.parent_lt linked
  have fallback_iff := forest.unnamed parent child
  rw [defaultChild_link (by rwa [size_unlink]), defaultChild_unlink parentBound, selector_unlink]
  by_cases unnamed : (tree.node child).selector? = none
  · have fallback := fallback_iff.mpr ⟨unnamed, linked⟩
    by_cases same : id = parent <;> simp [same, unnamed, fallback]
  · have fallback := mt (fun hangs => (fallback_iff.mp hangs).1) unnamed
    simp [unnamed, fallback]

theorem children_link_unlink (id : NodeId) :
    (((tree.unlink parent child).link parent child).node id).children =
      if id = parent then moveLast child (tree.node id).children else (tree.node id).children := by
  have parentBound := forest.parent_lt linked
  have named_iff := forest.named parent child
  have fallback_iff := forest.unnamed parent child
  rw [children_link (by rwa [size_unlink]), children_unlink parentBound, selector_unlink]
  by_cases same : id = parent
  · subst same
    cases named : (tree.node child).selector? with
    | none =>
        have fallback := fallback_iff.mpr ⟨named, linked⟩
        have absent := mt (fun hangs => (named_iff.mp hangs).1) (by simp [named])
        simp [moveLast, fallback, absent]
    | some _ =>
        have hangs := named_iff.mpr ⟨by simp [named], linked⟩
        have fallback := mt (fun item => (fallback_iff.mp item).1) (by simp [named])
        simp [moveLast, hangs, fallback]
  · simp [same]

theorem link_unlink : (tree.unlink parent child).link parent child = tree.withLast parent child := by
  have children := children_link_unlink forest linked
  apply ext_nodes
  · simp [withLast]
  · intro id
    apply Node.ext_links
    · rw [unlinked_link, unlinked_unlink, withLast, field_modify Node.unlinked]
      exact fun _ => rfl
    · rw [children, withLast]
      by_cases same : id = parent
      · rw [if_pos same, same, node_modify_self (forest.parent_lt linked)]
      · rw [if_neg same, node_modify_of_ne same]
    · rw [defaultChild_link_unlink forest linked, withLast, field_modify Node.defaultChild?]
      exact fun _ => rfl
    · rw [parent_link_unlink linked, withLast, field_modify Node.parent?]
      exact fun _ => rfl
  · rfl

end Back

theorem withLast_of_unnamed (forest : tree.Forest) (unnamed : (tree.node child).selector? = none) :
    tree.withLast parent child = tree := by
  have absent : child ∉ (tree.node parent).children := by
    rw [forest.named, unnamed]
    simp
  apply ext_nodes
  · simp [withLast]
  · intro id
    by_cases same : id = parent
    · subst same
      by_cases inside : id < tree.size
      · rw [withLast, node_modify_self inside, moveLast, if_neg absent]
      · have beyond := Nat.le_of_not_lt inside
        rw [node_of_size_le beyond, node_of_size_le (by simpa [withLast] using beyond)]
    · rw [withLast, node_modify_of_ne same]
  · rfl

theorem comparison_congr (forest : tree.Forest) (laterForest : later.Forest)
    (modes : ∀ id, (later.node id).comparison? = (tree.node id).comparison?)
    (parents : ∀ id, (later.node id).parent? = (tree.node id).parent?) (id : NodeId) :
    later.comparison id = tree.comparison id := by
  have lineage_eq := laterForest.lineage_eq ((forest.ascent_lineage id).congr parents)
  simp only [comparison, lineage_eq, modes]

/-- A node below a connected menu can be taken off and put back at any time. It is then the last of its
siblings, if it has a selector; no mode has changed, and words mean what they meant. -/
theorem reattaching_moves_child_last (reachable : tree.Reachable)
    (linked : (tree.node child).parent? = some parent) (connected : root ∈ tree.lineage parent) :
    let loose := (tree.detach child).2
    let later := (loose.attach parent child).2
    (tree.detach child).1.isOk = true ∧ (loose.attach parent child).1.isOk = true ∧
      later = tree.withLast parent child ∧ ((tree.node child).selector? = none → later = tree) ∧
      (∀ menu, later.comparison menu = tree.comparison menu) ∧
      ∀ menu, SameMeanings tree later menu := by
  intro loose later
  have forest := reachable.forest
  have looseForest := forest.unlink linked
  have attachable := attachable_unlink reachable linked connected
  have letGo : tree.detach child = (.ok (), tree.unlink parent child) := by
    simp only [detach, linked]
  have loose_eq : loose = tree.unlink parent child := congrArg Prod.snd letGo
  have hung : loose.attach parent child = (.ok (), (tree.unlink parent child).link parent child) := by
    rw [loose_eq, attachable.attach_eq looseForest]
  have later_eq : later = (tree.unlink parent child).link parent child := congrArg Prod.snd hung
  have laterForest : later.Forest := later_eq ▸ looseForest.link attachable.free
  have rehung : Rehung tree later := later_eq ▸ (Rehung.unlink parent child).trans (.link parent child)
  have parents (id : NodeId) : (later.node id).parent? = (tree.node id).parent? := by
    rw [later_eq, parent_link_unlink linked]
  refine ⟨?_, ?_, ?_, ?_, ?_, ?_⟩
  · rw [letGo]
    rfl
  · rw [hung]
    rfl
  · rw [later_eq, link_unlink forest linked]
  · intro unnamed
    rw [later_eq, link_unlink forest linked, withLast_of_unnamed forest unnamed]
  · exact comparison_congr forest laterForest (rehung.field Node.comparison? fun _ => rfl) parents
  · exact rehung.sameMeanings reachable laterForest fun id _ => parents id

theorem reattaching_moves_child_last_of_twins :
    let sensitive : Node Unit := { Node.menu "sub" with comparison? := some .sensitive }
    let tree := (empty .insensitive : Tree Unit).applyAll
      [.add 0 sensitive, .add 1 (.menu "inner"), .add 2 {}, .add 3 (.leaf "Go" ()),
        .add 3 (.leaf "go" ()), .add 1 (.leaf "other" ())]
    let loose := (tree.detach 2).2
    let later := (loose.attach 1 2).2
    loose.comparison 3 = .insensitive ∧ (loose.attach 1 2).1.isOk = true ∧
      (later.node 1).children = [6, 2] ∧ later.comparison 3 = tree.comparison 3 ∧
      SameMeanings tree later 1 ∧ ((tree.detach 3).2.attach 2 3).2 = tree := by
  intro sensitive tree loose later
  have reachable : tree.Reachable := ⟨.insensitive, Reaches.refl.applyAll (by decide)⟩
  obtain ⟨-, hung, last, -, modes, meanings⟩ := reattaching_moves_child_last reachable
    (show (tree.node 2).parent? = some 1 by decide) (by decide)
  obtain ⟨-, -, -, unmoved, -⟩ := reattaching_moves_child_last reachable
    (show (tree.node 3).parent? = some 2 by decide) (by decide)
  refine ⟨by decide, hung, ?_, modes 3, meanings 1, unmoved (by decide)⟩
  have placed : later = tree.withLast 1 2 := last
  rw [placed]
  decide

end Tree

end MenuShell

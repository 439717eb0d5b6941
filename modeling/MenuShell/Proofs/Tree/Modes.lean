import Mathlib.Data.List.Nodup
import Mathlib.Data.List.Pairwise
import MenuShell.Proofs.Tree.Forest

/-!
The mode in force at a node, and how far a mode reaches. In a forest the bounded walks of
`Tree.comparison` and `Tree.region` see all there is to see: the mode in force is the one found by
climbing, and the region of a node is exactly the nodes that climb to it without meeting a mode.
-/

namespace MenuShell

namespace Tree

variable {Action : Type} {tree : Tree Action} {parent child id below above : NodeId}
  {mode : Comparison}

/-- The nearest node at or above this one that has a mode of its own has this mode. -/
inductive Governed (tree : Tree Action) : NodeId → Comparison → Prop
  | own {id : NodeId} {mode : Comparison} : (tree.node id).comparison? = some mode →
      Governed tree id mode
  | inherited {id parent : NodeId} {mode : Comparison} : (tree.node id).comparison? = none →
      (tree.node id).parent? = some parent → Governed tree parent mode → Governed tree id mode

theorem comparison_own (forest : tree.Forest) (own : (tree.node id).comparison? = some mode) :
    tree.comparison id = mode := by
  have ascent := forest.ascent_lineage id
  unfold comparison
  cases path : tree.lineage id with
  | nil =>
      rw [path] at ascent
      cases ascent
  | cons first _ =>
      have same : first = id := by
        rw [path] at ascent
        cases ascent <;> rfl
      simp [same, own]

theorem comparison_inherited (forest : tree.Forest)
    (inherits : (tree.node id).comparison? = none)
    (linked : (tree.node id).parent? = some parent) :
    tree.comparison id = tree.comparison parent := by
  rw [comparison, forest.lineage_step linked, List.findSome?_cons, inherits]
  rfl

theorem Governed.comparison_eq (forest : tree.Forest) (governed : tree.Governed id mode) :
    tree.comparison id = mode := by
  induction governed with
  | own own => exact comparison_own forest own
  | inherited inherits linked _ ih => rw [comparison_inherited forest inherits linked, ih]

theorem governed_of_ascent {path : List NodeId} (forest : tree.Forest)
    (ascent : tree.Ascent id path)
    (decided : ∃ upper ∈ path, (tree.node upper).comparison? ≠ none) :
    tree.Governed id (tree.comparison id) := by
  induction ascent with
  | @top id free =>
      obtain ⟨upper, member, own⟩ := decided
      rw [List.mem_singleton.mp member] at own
      obtain ⟨mode, own⟩ := Option.ne_none_iff_exists'.mp own
      rw [comparison_own forest own]
      exact .own own
  | @step id parent above linked _ ih =>
      cases own : (tree.node id).comparison? with
      | some mode =>
          rw [comparison_own forest own]
          exact .own own
      | none =>
          rw [comparison_inherited forest own linked]
          refine .inherited own linked (ih ?_)
          obtain ⟨upper, member, decides⟩ := decided
          rcases List.mem_cons.mp member with rfl | higher
          · exact absurd own decides
          · exact ⟨upper, higher, decides⟩

/-- Climbing from the first node to the second meets no mode on the way; the second node itself
may have one. -/
inductive Inherits (tree : Tree Action) : NodeId → NodeId → Prop
  | refl (id : NodeId) : Inherits tree id id
  | step {below parent above : NodeId} : (tree.node below).comparison? = none →
      (tree.node below).parent? = some parent → Inherits tree parent above →
      Inherits tree below above

theorem Inherits.trans {middle : NodeId} (lower : tree.Inherits below middle)
    (upper : tree.Inherits middle above) : tree.Inherits below above := by
  induction lower with
  | refl => exact upper
  | step own linked _ ih => exact .step own linked (ih upper)

theorem Inherits.comparison_eq (forest : tree.Forest) (inherits : tree.Inherits below above) :
    tree.comparison below = tree.comparison above := by
  induction inherits with
  | refl => rfl
  | step own linked _ ih => rw [comparison_inherited forest own linked, ih]

theorem mem_inheritingChildren (forest : tree.Forest) :
    child ∈ tree.inheritingChildren parent ↔
      (tree.node child).parent? = some parent ∧ (tree.node child).comparison? = none := by
  rw [inheritingChildren, List.mem_filter, forest.mem_allChildren, Option.isNone_iff_eq_none]

theorem inherits_of_mem_regionWithin (forest : tree.Forest) {bound : Nat}
    (member : below ∈ tree.regionWithin bound above) : tree.Inherits below above := by
  induction bound generalizing above with
  | zero => simp [regionWithin] at member
  | succ bound ih =>
      rcases List.mem_cons.mp member with rfl | deeper
      · exact .refl below
      · obtain ⟨child, inheriting, reached⟩ := List.mem_flatMap.mp deeper
        obtain ⟨linked, own⟩ := (mem_inheritingChildren forest).mp inheriting
        exact (ih reached).trans (.step own linked (.refl above))

theorem regionWithin_mono {bound larger : Nat} (le : bound ≤ larger) :
    tree.regionWithin bound id ⊆ tree.regionWithin larger id := by
  induction bound generalizing id larger with
  | zero => simp [regionWithin]
  | succ bound ih =>
      obtain ⟨larger, rfl⟩ := Nat.exists_eq_add_of_le' (Nat.zero_lt_of_lt le)
      intro below member
      rcases List.mem_cons.mp member with rfl | deeper
      · exact List.mem_cons_self
      · obtain ⟨child, inheriting, reached⟩ := List.mem_flatMap.mp deeper
        apply List.mem_cons_of_mem
        exact List.mem_flatMap.mpr ⟨child, inheriting, ih (Nat.le_of_succ_le_succ le) reached⟩

theorem child_mem_regionWithin {bound : Nat} (member : parent ∈ tree.regionWithin bound above)
    (inheriting : child ∈ tree.inheritingChildren parent) :
    child ∈ tree.regionWithin (bound + 1) above := by
  induction bound generalizing above with
  | zero => simp [regionWithin] at member
  | succ bound ih =>
      apply List.mem_cons_of_mem
      rcases List.mem_cons.mp member with rfl | deeper
      · exact List.mem_flatMap.mpr ⟨child, inheriting, List.mem_cons_self⟩
      · obtain ⟨next, nextInheriting, reached⟩ := List.mem_flatMap.mp deeper
        exact List.mem_flatMap.mpr ⟨next, nextInheriting, ih reached⟩

theorem mem_regionWithin_lineage (forest : tree.Forest) (inherits : tree.Inherits below above) :
    below ∈ tree.regionWithin (tree.lineage below).length above := by
  -- The walk down that finds a node is no longer than the node's way up to a root.
  induction inherits with
  | refl id =>
      have present := List.length_pos_of_mem (forest.mem_lineage_self id)
      exact regionWithin_mono present List.mem_cons_self
  | step own linked _ ih =>
      rw [forest.lineage_step linked, List.length_cons]
      exact child_mem_regionWithin ih ((mem_inheritingChildren forest).mpr ⟨linked, own⟩)

theorem mem_region_iff (forest : tree.Forest) :
    below ∈ tree.region above ↔ tree.Inherits below above := by
  constructor
  · exact inherits_of_mem_regionWithin forest
  · intro inherits
    have short := forest.ascent_length_le (forest.ascent_lineage below)
    exact regionWithin_mono short (mem_regionWithin_lineage forest inherits)

def Apart (tree : Tree Action) (mode : Comparison) (menu : NodeId) : Prop :=
  ∀ first ∈ (tree.node menu).children, ∀ second ∈ (tree.node menu).children, first ≠ second →
    mode.same (tree.selector first) (tree.selector second) = false

theorem same_comm (mode : Comparison) (left right : String) :
    mode.same left right = mode.same right left := by
  simp only [Comparison.same, Bool.beq_comm]

theorem same_self (mode : Comparison) (text : String) : mode.same text text = true := by
  simp [Comparison.same]

theorem firstClash?_eq_none_iff (words : List String) :
    firstClash? mode words = none ↔
      words.Pairwise fun left right => mode.same left right = false := by
  induction words with
  | nil => simp [firstClash?]
  | cons word others ih => simp [firstClash?, ih]

theorem childSelectors_eq_map (forest : tree.Forest) (menu : NodeId) :
    tree.childSelectors menu = (tree.node menu).children.map tree.selector := by
  rw [childSelectors, ← List.filterMap_eq_map]
  apply List.filterMap_congr
  intro child member
  obtain ⟨selector, name⟩ := Option.isSome_iff_exists.mp ((forest.named menu child).mp member).1
  simp [Tree.selector, name]

theorem apart_iff_pairwise (forest : tree.Forest) (menu : NodeId) :
    tree.Apart mode menu ↔
      (tree.childSelectors menu).Pairwise fun left right => mode.same left right = false := by
  rw [childSelectors_eq_map forest, List.pairwise_map]
  constructor
  · exact (forest.nodup menu).pairwise_of_forall_ne
  · intro pairwise
    have symmetric : Std.Symm fun first second : NodeId =>
        mode.same (tree.selector first) (tree.selector second) = false :=
      ⟨fun first second differs => by rw [same_comm, differs]⟩
    intro first firstMember second secondMember different
    exact pairwise.forall firstMember secondMember different

theorem clash?_eq_none_iff (forest : tree.Forest) :
    tree.clash? id = none ↔
      ∀ below, tree.Inherits below id → tree.Apart (tree.comparison id) below := by
  simp only [clash?, List.findSome?_eq_none_iff, firstClash?_eq_none_iff, mem_region_iff forest,
    apart_iff_pairwise forest]

end Tree

end MenuShell

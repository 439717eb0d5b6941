import MenuShell.Proofs.Tree.Meaning

/-!
The order of children. Two trees that have the same nodes hanging in the same places may still list
the children of a node in different orders. No word can tell them apart: what may be meant is sorted
by selector, and siblings are spelled differently.
-/

namespace MenuShell

namespace Tree

variable {Action : Type} {tree later : Tree Action} {menu id : NodeId} {mode : Comparison}
  {word : String}

structure Rehung (tree later : Tree Action) : Prop where
  size : later.size = tree.size
  switches : later.switches = tree.switches
  unlinked : ∀ id, (later.node id).unlinked = (tree.node id).unlinked

structure Rearranged (tree later : Tree Action) : Prop extends Rehung tree later where
  above : ∀ id, (later.node id).parent? = (tree.node id).parent?

structure SameMeanings (tree later : Tree Action) (menu : NodeId) : Prop where
  candidates : ∀ word mode, later.candidates menu word mode = tree.candidates menu word mode
  resolveNamed : ∀ word mode, later.resolveNamed menu word mode = tree.resolveNamed menu word mode
  resolve : ∀ word mode, later.resolve menu word mode = tree.resolve menu word mode
  abbreviation : ∀ id mode, later.abbreviation? menu id mode = tree.abbreviation? menu id mode
  abbreviations : ∀ mode, later.abbreviations menu mode = tree.abbreviations menu mode

theorem selectorLe_antisymm {left right : String} (below : selectorLe left right = true)
    (above : selectorLe right left = true) : left = right := by
  by_contra different
  exact (before_of_selectorLe below different).asymm (before_of_selectorLe above (Ne.symm different))

theorem sortBySelector_perm {first second : List NodeId} (spelled : tree.Apart .sensitive menu)
    (children : first ⊆ (tree.node menu).children) (perm : first.Perm second) :
    tree.sortBySelector first = tree.sortBySelector second := by
  have sorted (ids : List NodeId) : (tree.sortBySelector ids).Pairwise fun left right =>
      selectorLe (tree.selector left) (tree.selector right) = true := by
    apply sortBy_pairwise
    · intro left right
      exact selectorLe_total _ _
    · intro left middle right
      exact selectorLe_trans _ _ _
  have same : (tree.sortBySelector first).Perm (tree.sortBySelector second) :=
    (sortBy_perm _ first).trans (perm.trans (sortBy_perm _ second).symm)
  -- Siblings that are spelled differently can stand in one order only.
  refine same.eq_of_pairwise ?_ (sorted first) (sorted second)
  intro left right leftMember rightMember below above
  have leftChild := children (mem_sortBy.mp leftMember)
  have rightChild := children (perm.mem_iff.mpr (mem_sortBy.mp rightMember))
  by_contra different
  have differs := spelled left leftChild right rightChild different
  simp [selectorLe_antisymm below above, same_self] at differs

namespace Rehung

theorem refl (tree : Tree Action) : Rehung tree tree :=
  ⟨rfl, rfl, fun _ => rfl⟩

theorem symm (rehung : Rehung tree later) : Rehung later tree :=
  ⟨rehung.size.symm, rehung.switches.symm, fun id => (rehung.unlinked id).symm⟩

theorem trans {middle : Tree Action} (first : Rehung tree middle) (second : Rehung middle later) :
    Rehung tree later := by
  refine ⟨second.size.trans first.size, second.switches.trans first.switches, ?_⟩
  intro id
  rw [second.unlinked, first.unlinked]

theorem field (rehung : Rehung tree later) {Value : Type} (field : Node Action → Value)
    (apart : ∀ node, field (Node.unlinked node) = field node) (id : NodeId) :
    field (later.node id) = field (tree.node id) := by
  rw [← apart, rehung.unlinked, apart]

theorem selector_eq (rehung : Rehung tree later) (id : NodeId) : later.selector id = tree.selector id := by
  rw [selector, selector, rehung.field Node.selector? fun _ => rfl]

theorem isVisible_eq (rehung : Rehung tree later) (id : NodeId) :
    later.isVisible id = tree.isVisible id := by
  have isOn_eq : later.isOn = tree.isOn := by
    funext switch
    rw [isOn, isOn, rehung.switches]
  rw [isVisible, isVisible, isOn_eq, rehung.field Node.switch? fun _ => rfl]

end Rehung

namespace Rearranged

variable (rearranged : Rearranged tree later)

include rearranged

variable (forest : tree.Forest) (laterForest : later.Forest)

include forest laterForest

theorem visibleChildren_perm (menu : NodeId) :
    (later.visibleChildren menu).Perm (tree.visibleChildren menu) := by
  have children : (later.node menu).children.Perm (tree.node menu).children := by
    rw [List.perm_ext_iff_of_nodup (laterForest.nodup menu) (forest.nodup menu)]
    intro child
    rw [laterForest.named, forest.named, rearranged.above,
      rearranged.field Node.selector? fun _ => rfl]
  rw [visibleChildren, visibleChildren, funext rearranged.isVisible_eq]
  exact children.filter _

theorem visibleDefault?_eq (menu : NodeId) :
    later.visibleDefault? menu = tree.visibleDefault? menu := by
  have fallback : (later.node menu).defaultChild? = (tree.node menu).defaultChild? := by
    apply Option.ext
    intro child
    rw [laterForest.unnamed, forest.unnamed, rearranged.above,
      rearranged.field Node.selector? fun _ => rfl]
  rw [visibleDefault?, visibleDefault?, defaultChild?, defaultChild?, fallback,
    funext rearranged.isVisible_eq]

variable (spelled : tree.Apart .sensitive menu)

include spelled

theorem sorted_eq (holds : String → Bool) :
    later.sortBySelector ((later.visibleChildren menu).filter fun id => holds (later.selector id)) =
      tree.sortBySelector
        ((tree.visibleChildren menu).filter fun id => holds (tree.selector id)) := by
  simp only [sortBySelector, rearranged.selector_eq]
  apply (sortBySelector_perm spelled ?_ ?_).symm
  · exact fun id member => mem_children_of_visible (List.mem_filter.mp member).1
  · exact ((rearranged.visibleChildren_perm forest laterForest menu).filter _).symm

theorem candidates_eq (word : String) (mode : Comparison) :
    later.candidates menu word mode = tree.candidates menu word mode := by
  have visible := rearranged.visibleChildren_perm forest laterForest menu
  have equal : (later.exactMatches menu word mode).Perm (tree.exactMatches menu word mode) := by
    simp only [exactMatches, rearranged.selector_eq]
    exact visible.filter _
  have isEmpty_eq : (later.exactMatches menu word mode).isEmpty =
      (tree.exactMatches menu word mode).isEmpty := by
    rw [Bool.eq_iff_iff, List.isEmpty_iff_length_eq_zero, List.isEmpty_iff_length_eq_zero,
      equal.length_eq]
  rw [candidates, candidates, isEmpty_eq]
  split
  · exact rearranged.sorted_eq forest laterForest spelled (mode.begins · word)
  · exact rearranged.sorted_eq forest laterForest spelled (mode.same · word)

theorem sameMeanings : SameMeanings tree later menu := by
  have candidates_eq := rearranged.candidates_eq forest laterForest spelled
  have selector_eq : later.selector = tree.selector := funext rearranged.selector_eq
  have resolveNamed_eq (word : String) (mode : Comparison) :
      later.resolveNamed menu word mode = tree.resolveNamed menu word mode := by
    simp only [resolveNamed, suggestions, candidates_eq, selector_eq]
  have abbreviation?_eq (id : NodeId) (mode : Comparison) :
      later.abbreviation? menu id mode = tree.abbreviation? menu id mode := by
    simp only [abbreviation?, shortestMeaning?, candidates_eq, selector_eq]
  refine ⟨candidates_eq, resolveNamed_eq, ?_, abbreviation?_eq, ?_⟩
  · intro word mode
    rw [resolve, resolve, resolveNamed_eq, rearranged.visibleDefault?_eq forest laterForest]
  · intro mode
    have visible := rearranged.sorted_eq forest laterForest spelled fun _ => true
    simp only [List.filter_true] at visible
    simp only [abbreviations, visible, abbreviation?_eq, selector_eq]

end Rearranged

end Tree

end MenuShell

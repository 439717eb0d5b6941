import Mathlib.Data.List.Find
import MenuShell.Proofs.Tree.Adding
import MenuShell.Proofs.Tree.Modes

/-!
Room for another command. Adding a command succeeds if its selector is a word unlike those of its
siblings to be, or, for a default item, if the menu has none yet. It takes up no other room than that.
-/

namespace MenuShell

namespace Tree

variable {Action : Type} {tree later : Tree Action} {parent : NodeId} {node : Node Action}
  {selector : String} {names : List String}

def isUnlike (names : List String) (selector : String) : Bool :=
  names.all fun name =>
    !Comparison.sensitive.same name selector && !Comparison.insensitive.same name selector

theorem isUnlike_iff :
    isUnlike names selector = true ↔
      ∀ name ∈ names, ∀ mode, Comparison.same mode name selector = false := by
  simp only [isUnlike, List.all_eq_true, Bool.and_eq_true, Bool.not_eq_true']
  constructor
  · intro unlike name member mode
    cases mode with
    | sensitive => exact (unlike name member).1
    | insensitive => exact (unlike name member).2
  · intro unlike name member
    exact ⟨unlike name member .sensitive, unlike name member .insensitive⟩

def Room (tree : Tree Action) (parent : NodeId) : Option String → Prop
  | some selector => isWord selector = true ∧ isUnlike (tree.childSelectors parent) selector = true
  | none => tree.defaultChild? parent = none

theorem mem_childSelectors {id child : NodeId} (member : child ∈ (tree.node id).children)
    (named : (tree.node child).selector? = some selector) : selector ∈ tree.childSelectors id :=
  List.mem_filterMap.mpr ⟨child, member, named⟩

theorem Room.child?_eq_none (room : tree.Room parent (some selector)) :
    tree.child? parent selector = none := by
  rw [child?, List.find?_eq_none]
  intro child member
  cases named : (tree.node child).selector? with
  | none => simp
  | some name =>
      have differs := isUnlike_iff.mp room.2 name (mem_childSelectors member named)
      simp [differs]

theorem lineage_insert (forest : tree.Forest) (node : Node Action) (id : NodeId) :
    (tree.insert node).2.lineage id = tree.lineage id :=
  (forest.insert node).lineage_eq ((forest.ascent_lineage id).congr (parent_insert node))

theorem comparison_insert (forest : tree.Forest) (node : Node Action) {id : NodeId}
    (stored : id < tree.size) : (tree.insert node).2.comparison id = tree.comparison id := by
  have modes : ∀ upper ∈ tree.lineage id,
      ((tree.insert node).2.node upper).comparison? = (tree.node upper).comparison? := by
    intro upper member
    have old := forest.ascent_lt (forest.ascent_lineage id) stored upper member
    rw [node_insert_of_ne node (Nat.ne_of_lt old)]
  rw [comparison, comparison, lineage_insert forest, ← List.head?_filterMap,
    ← List.head?_filterMap, List.filterMap_congr modes]

theorem child?_insert (forest : tree.Forest) (node : Node Action) {id : NodeId}
    (stored : id < tree.size) (word : String) :
    (tree.insert node).2.child? id word = tree.child? id word := by
  rw [child?, child?, children_insert, comparison_insert forest node stored]
  apply List.find?_congr
  intro child member
  have old := lt_size_of_parent ((forest.named id child).mp member).2
  rw [node_insert_of_ne node (Nat.ne_of_lt old)]

def Admits (tree : Tree Action) (parent : NodeId) : Option String → Prop
  | some selector => isWord selector = true ∧ tree.child? parent selector = none
  | none => tree.defaultChild? parent = none

theorem Room.admits {selector? : Option String} (room : tree.Room parent selector?) :
    tree.Admits parent selector? := by
  cases selector? with
  | none => exact room
  | some selector => exact ⟨room.1, room.child?_eq_none⟩

theorem free_insert_iff (forest : tree.Forest) (bound : parent < tree.size) :
    (tree.insert node).2.Free parent tree.size ↔ tree.Admits parent node.selector? := by
  have selector : ((tree.insert node).2.node tree.size).selector? = node.selector? := by
    rw [node_insert_self]
    rfl
  constructor
  · intro free
    cases named : node.selector? with
    | none =>
        have vacant := free.vacant (by rw [selector, named])
        rwa [defaultChild_insert] at vacant
    | some name =>
        have unlike := free.unlike name (by rw [selector, named])
        rw [child?_insert forest node bound] at unlike
        exact ⟨free.word name (by rw [selector, named]), unlike⟩
  · intro admits
    refine ⟨?_, ?_, ?_, ?_, ?_, ?_, ?_, ?_⟩
    · rw [size_insert]
      exact Nat.lt_succ_of_lt bound
    · rw [size_insert]
      exact Nat.lt_succ_self _
    · exact Nat.ne_of_gt forest.planted
    · rw [node_insert_self]
      rfl
    · rw [lineage_insert forest]
      intro above
      exact Nat.lt_irrefl _ (forest.ascent_lt (forest.ascent_lineage parent) bound _ above)
    · intro unnamed
      rw [← selector, unnamed] at admits
      rw [defaultChild_insert]
      exact admits
    · intro name named
      rw [← selector, named] at admits
      exact admits.1
    · intro name named
      rw [← selector, named] at admits
      rw [child?_insert forest node bound]
      exact admits.2

theorem admits_of_add {id : NodeId} (forest : tree.Forest) (bound : parent < tree.size)
    (added : tree.add parent node = (.ok id, later)) : tree.Admits parent node.selector? := by
  have parentBound : parent < (tree.insert node).2.size := by
    rw [size_insert]
    exact Nat.lt_succ_of_lt bound
  have childBound : tree.size < (tree.insert node).2.size := by
    rw [size_insert]
    exact Nat.lt_succ_self _
  cases obstacle : (tree.insert node).2.attachObstacle? parent tree.size with
  | none =>
      exact (free_insert_iff forest bound).mp
        ((attachObstacle?_eq_none_iff parentBound childBound).mp obstacle)
  | some error => simp [Tree.add, attach, obstacle] at added

theorem add_taken {selector : String} (forest : tree.Forest) (bound : parent < tree.size)
    (named : node.selector? = some selector) (word : isWord selector = true)
    (taken : tree.child? parent selector ≠ none) :
    tree.add parent node = (.error (.duplicateSelector selector), tree) := by
  have new : ((tree.insert node).2.node tree.size).selector? = some selector := by
    rw [node_insert_self]
    exact named
  have loose : ((tree.insert node).2.node tree.size).parent? = none := by
    rw [node_insert_self]
    rfl
  have notAbove : tree.size ∉ (tree.insert node).2.lineage parent := by
    rw [lineage_insert forest]
    intro above
    exact Nat.lt_irrefl _ (forest.ascent_lt (forest.ascent_lineage parent) bound _ above)
  have still : (tree.insert node).2.child? parent selector ≠ none := by
    rwa [child?_insert forest node bound]
  have obstacle : (tree.insert node).2.attachObstacle? parent tree.size =
      some (.duplicateSelector selector) := by
    have notRoot : tree.size ≠ root := Nat.ne_of_gt forest.planted
    simp [attachObstacle?, notRoot, loose, notAbove, new, word, Option.isSome_iff_ne_none.mpr still]
  simp [Tree.add, attach, obstacle]

theorem clash?_eq_none_of_childless {id : NodeId} (forest : tree.Forest)
    (childless : (tree.node id).allChildren = []) : tree.clash? id = none := by
  -- Nothing takes its mode from a node that has nothing below it, so nothing can clash there.
  have alone : ∀ below, tree.Inherits below id → below = id := by
    intro below inherits
    generalize same : id = above at inherits
    induction inherits with
    | refl => rfl
    | step _ linked _ ih =>
        subst same
        rw [ih rfl, ← forest.mem_allChildren, childless] at linked
        simp at linked
  rw [clash?_eq_none_iff forest]
  intro below inherits first member
  rw [alone below inherits] at member
  have listed : first ∈ (tree.node id).allChildren := List.mem_append_left _ member
  simp [childless] at listed

theorem Admits.add (admits : tree.Admits parent node.selector?) (reachable : tree.Reachable)
    (bound : parent < tree.size) :
    ∃ later, tree.add parent node = (.ok tree.size, later) ∧ Grown tree parent node later ∧
      later.Reachable := by
  have forest := reachable.forest
  have free := (free_insert_iff forest bound).mpr admits
  have obstacle := (attachObstacle?_eq_none_iff free.parentBound free.childBound).mpr free
  have grown := grown_link bound node
  have childless :
      (((tree.insert node).2.link parent tree.size).node tree.size).allChildren = [] := by
    rw [grown.new]
    rfl
  have clear := clash?_eq_none_of_childless ((forest.insert node).link free) childless
  have hung : (tree.insert node).2.attach parent tree.size =
      (.ok (), (tree.insert node).2.link parent tree.size) := by
    simp only [attach, obstacle, clear]
    split <;> rfl
  have added : tree.add parent node =
      (.ok tree.size, (tree.insert node).2.link parent tree.size) := by
    simp only [Tree.add, fst_insert, hung]
  obtain ⟨-, -, laterReachable⟩ := add_ok reachable bound added
  exact ⟨_, added, grown, laterReachable⟩

theorem Room.add (room : tree.Room parent node.selector?) (reachable : tree.Reachable)
    (bound : parent < tree.size) :
    ∃ later, tree.add parent node = (.ok tree.size, later) ∧ Grown tree parent node later ∧
      later.Reachable :=
  room.admits.add reachable bound

theorem Grown.field_new {Value : Type} (grown : Grown tree parent node later)
    (field : Node Action → Value) (apart : ∀ node, field (Node.unlinked node) = field node) :
    field (later.node tree.size) = field node := by
  rw [grown.new, ← apart, ← apart node]
  rfl

theorem Grown.field_old {Value : Type} {id : NodeId} (grown : Grown tree parent node later)
    (field : Node Action → Value) (apart : ∀ node, field (Node.unlinked node) = field node)
    (old : id ≠ tree.size) : field (later.node id) = field (tree.node id) := by
  by_cases same : id = parent
  · rw [same, grown.upper, ← apart, ← apart (tree.node parent)]
    cases node.selector? <;> rfl
  · rw [grown.others id old same]

theorem Grown.parent_old {id : NodeId} (grown : Grown tree parent node later)
    (old : id ≠ tree.size) : (later.node id).parent? = (tree.node id).parent? := by
  by_cases same : id = parent
  · rw [same, grown.upper]
    cases node.selector? <;> rfl
  · rw [grown.others id old same]

theorem Grown.lineage_eq {id : NodeId} (grown : Grown tree parent node later)
    (forest : tree.Forest) (laterForest : later.Forest) (stored : id < tree.size) :
    later.lineage id = tree.lineage id := by
  apply laterForest.lineage_eq
  have ascent := forest.ascent_lineage id
  generalize tree.lineage id = path at ascent
  induction ascent with
  | top free => exact .top (by rw [grown.parent_old (Nat.ne_of_lt stored), free])
  | step linked _ ih =>
      refine .step ?_ (ih (forest.parent_lt linked))
      rw [grown.parent_old (Nat.ne_of_lt stored), linked]

theorem Grown.comparison_eq {id : NodeId} (grown : Grown tree parent node later)
    (forest : tree.Forest) (laterForest : later.Forest) (stored : id < tree.size) :
    later.comparison id = tree.comparison id := by
  have modes : ∀ upper ∈ tree.lineage id,
      (later.node upper).comparison? = (tree.node upper).comparison? := by
    intro upper member
    have old := forest.ascent_lt (forest.ascent_lineage id) stored upper member
    exact grown.field_old Node.comparison? (fun _ => rfl) (Nat.ne_of_lt old)
  rw [comparison, comparison, grown.lineage_eq forest laterForest stored,
    ← List.head?_filterMap, ← List.head?_filterMap, List.filterMap_congr modes]

theorem Grown.child?_eq_none_iff {id : NodeId} {word : String}
    (grown : Grown tree parent node later) (forest : tree.Forest) (laterForest : later.Forest)
    (stored : id < tree.size) :
    later.child? id word = none ↔
      tree.child? id word = none ∧ (id = parent → ∀ name, node.selector? = some name →
        (tree.comparison id).same name word = false) := by
  have old : ((tree.node id).children.find? fun child =>
      (later.node child).selector?.any fun name => (tree.comparison id).same name word) =
      tree.child? id word := by
    apply List.find?_congr
    intro child member
    have inside := lt_size_of_parent ((forest.named id child).mp member).2
    rw [grown.field_old Node.selector? (fun _ => rfl) (Nat.ne_of_lt inside)]
  rw [child?, grown.comparison_eq forest laterForest stored, ← old]
  by_cases same : id = parent
  · subst same
    cases named : node.selector? with
    | none => simp [grown.upper, named, above]
    | some name =>
        have new : (later.node tree.size).selector? = some name := by
          rw [grown.field_new Node.selector? fun _ => rfl, named]
        simp [grown.upper, named, above, new]
  · rw [grown.others id (Nat.ne_of_lt stored) same]
    simp [same]

theorem Grown.filterMap_eq (grown : Grown tree parent node later) (forest : tree.Forest)
    (id : NodeId) :
    ((tree.node id).children.filterMap fun child => (later.node child).selector?) =
      tree.childSelectors id := by
  apply List.filterMap_congr
  intro child member
  have stored := lt_size_of_parent ((forest.named id child).mp member).2
  exact grown.field_old Node.selector? (fun _ => rfl) (Nat.ne_of_lt stored)

theorem Grown.childSelectors_parent (grown : Grown tree parent node later) (forest : tree.Forest)
    (named : node.selector? = some selector) :
    later.childSelectors parent = tree.childSelectors parent ++ [selector] := by
  have new : (later.node tree.size).selector? = some selector := by
    rw [grown.field_new Node.selector? fun _ => rfl, named]
  have children : (later.node parent).children = (tree.node parent).children ++ [tree.size] := by
    rw [grown.upper, named]
    rfl
  rw [childSelectors, children, List.filterMap_append, grown.filterMap_eq forest]
  simp [new]

theorem Grown.childSelectors_of_ne {id : NodeId} (grown : Grown tree parent node later)
    (forest : tree.Forest) (stored : id < tree.size) (elsewhere : id ≠ parent) :
    later.childSelectors id = tree.childSelectors id := by
  rw [childSelectors, grown.others id (Nat.ne_of_lt stored) elsewhere, grown.filterMap_eq forest]

theorem Grown.childSelectors_new (grown : Grown tree parent node later) :
    later.childSelectors tree.size = [] := by
  rw [childSelectors, grown.new]
  rfl

end Tree

end MenuShell

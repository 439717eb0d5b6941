import Mathlib.Logic.Relation
import MenuShell.Proofs.Tree.Links

/-!
What the changes of a tree come down to. Every change, whether it succeeds or fails, is a chain of
a few kinds of moves, and a change that fails makes no move at all. A property of trees that every
move keeps holds of every tree that can be built.
-/

namespace MenuShell

namespace Tree

variable {Action : Type} {tree later : Tree Action} {parent child id : NodeId}

def withMode (tree : Tree Action) (id : NodeId) (mode : Comparison) : Tree Action :=
  tree.modify id fun node => { node with comparison? := some mode }

@[simp] theorem size_withMode (mode : Comparison) : (tree.withMode id mode).size = tree.size :=
  size_modify _

theorem selector_withMode (id : NodeId) (mode : Comparison) (other : NodeId) :
    ((tree.withMode id mode).node other).selector? = (tree.node other).selector? := by
  rw [withMode, field_modify Node.selector?]
  exact fun _ => rfl

inductive Move (tree : Tree Action) : Tree Action → Prop
  | grow (node : Node Action) : Move tree (tree.insert node).2
  | link {parent child : NodeId} : tree.Free parent child →
      ((tree.node child).comparison? = none → (tree.link parent child).clash? child = none) →
      Move tree (tree.link parent child)
  | unlink {parent child : NodeId} : (tree.node child).parent? = some parent →
      Move tree (tree.unlink parent child)
  | govern {id : NodeId} {mode : Comparison} : id < tree.size →
      (tree.withMode id mode).clash? id = none → Move tree (tree.withMode id mode)
  /-- A change of what a node shows or does: not of its selector, its mode or its links. -/
  | adorn (id : NodeId) (change : Node Action → Node Action) :
      (∀ node, (change node).selector? = node.selector?) →
      (∀ node, (change node).comparison? = node.comparison?) →
      (∀ node, (change node).children = node.children) →
      (∀ node, (change node).defaultChild? = node.defaultChild?) →
      (∀ node, (change node).parent? = node.parent?) → Move tree (tree.modify id change)
  | turn (switch : String) (on : Bool) : Move tree (tree.setSwitch switch on)

theorem attach_cases (forest : tree.Forest) (parentBound : parent < tree.size)
    (childBound : child < tree.size) :
    (∃ error, tree.attach parent child = (.error error, tree)) ∨
      (tree.attach parent child = (.ok (), tree.link parent child) ∧
        Move tree (tree.link parent child)) := by
  unfold attach
  cases obstacle : tree.attachObstacle? parent child with
  | some error => exact .inl ⟨error, rfl⟩
  | none =>
      have free := (attachObstacle?_eq_none_iff parentBound childBound).mp obstacle
      dsimp only
      split
      · rename_i own
        refine .inr ⟨rfl, .link free ?_⟩
        intro inherits
        simp [inherits] at own
      · cases clash : (tree.link parent child).clash? child with
        | none => exact .inr ⟨rfl, .link free fun _ => clash⟩
        | some selector =>
            -- The child was hung to see what its reach would be, and is let go again.
            dsimp only
            rw [unlink_link forest free]
            exact .inl ⟨_, rfl⟩

theorem add_cases (forest : tree.Forest) (parentBound : parent < tree.size) (node : Node Action) :
    (∃ error, tree.add parent node = (.error error, tree)) ∨
      (tree.add parent node =
          (.ok tree.size, (tree.insert node).2.link parent tree.size) ∧
        Move (tree.insert node).2 ((tree.insert node).2.link parent tree.size)) := by
  have grownParent : parent < (tree.insert node).2.size := by
    rw [size_insert]
    exact Nat.lt_succ_of_lt parentBound
  have grownChild : tree.size < (tree.insert node).2.size := by
    rw [size_insert]
    exact Nat.lt_succ_self _
  simp only [add, fst_insert]
  rcases attach_cases (forest.insert node) grownParent grownChild with ⟨error, failed⟩ | ⟨hung, move⟩
  · rw [failed]
    exact .inl ⟨error, by simp⟩
  · rw [hung]
    exact .inr ⟨rfl, move⟩

theorem detach_cases (tree : Tree Action) (child : NodeId) :
    (∃ error, tree.detach child = (.error error, tree)) ∨
      ∃ parent, (tree.node child).parent? = some parent ∧
        tree.detach child = (.ok (), tree.unlink parent child) := by
  unfold detach
  cases linked : (tree.node child).parent? with
  | none => exact .inl ⟨_, rfl⟩
  | some parent => exact .inr ⟨parent, rfl, rfl⟩

theorem restore_mode (bound : id < tree.size) (mode : Comparison) :
    ((tree.withMode id mode).modify id fun node =>
      { node with comparison? := (tree.node id).comparison? }) = tree := by
  apply ext_nodes
  · simp [withMode]
  · intro other
    by_cases same : other = id
    · subst other
      rw [node_modify_self (by simpa [withMode] using bound), withMode, node_modify_self bound]
    · rw [node_modify_of_ne same, withMode, node_modify_of_ne same]
  · simp [withMode]

theorem setComparison_cases (bound : id < tree.size) (mode : Comparison) :
    (∃ error, tree.setComparison id mode = (.error error, tree)) ∨
      (tree.setComparison id mode = (.ok (), tree.withMode id mode) ∧
        (tree.withMode id mode).clash? id = none) := by
  have restored := restore_mode bound mode
  unfold setComparison
  rw [← withMode]
  cases clash : (tree.withMode id mode).clash? id with
  | some selector =>
      simp only [clash, restored]
      exact .inl ⟨_, rfl⟩
  | none =>
      simp only [clash]
      exact .inr ⟨trivial, trivial⟩

/-- The nodes that a change names are in the arena. Handles are given out by the tree alone, and
the first access through any other one would stop the program. -/
def Edit.Within (tree : Tree Action) : Edit Action → Prop
  | .insert _ | .turn _ _ => True
  | .copy id | .detach id | .setComparison id _ | .setHelp id _ | .setPrompt id _
  | .setAction id _ | .setSwitch id _ => id < tree.size
  | .add parent _ => parent < tree.size
  | .attach parent child => parent < tree.size ∧ child < tree.size

instance (tree : Tree Action) : (edit : Edit Action) → Decidable (edit.Within tree)
  | .insert _ | .turn _ _ => inferInstanceAs (Decidable True)
  | .copy id | .detach id | .setComparison id _ | .setHelp id _ | .setPrompt id _
  | .setAction id _ | .setSwitch id _ => inferInstanceAs (Decidable (id < tree.size))
  | .add parent _ => inferInstanceAs (Decidable (parent < tree.size))
  | .attach parent child => inferInstanceAs (Decidable (parent < tree.size ∧ child < tree.size))

theorem apply_cases (forest : tree.Forest) {edit : Edit Action} (within : edit.Within tree) :
    Relation.ReflTransGen Move tree (tree.apply edit).2 ∧
      ∀ id, (tree.apply edit).1 = .ok (some id) → id = tree.size ∧ id < (tree.apply edit).2.size := by
  cases edit with
  | insert node =>
      refine ⟨.single (.grow node), ?_⟩
      intro id stored
      simp_all [apply, Tree.stored]
  | copy source =>
      refine ⟨.single (.grow _), ?_⟩
      intro id stored
      simp_all [apply, Tree.stored]
  | add parent node =>
      rcases add_cases forest within node with ⟨error, failed⟩ | ⟨added, move⟩
      · simp only [apply, failed]
        exact ⟨.refl, by simp [Except.map]⟩
      · simp only [apply, added]
        refine ⟨.tail (.single (.grow node)) move, ?_⟩
        intro id stored
        simp_all [Except.map]
  | attach parent child =>
      rcases attach_cases forest within.1 within.2 with ⟨error, failed⟩ | ⟨hung, move⟩
      · simp only [apply, failed, linked]
        exact ⟨.refl, by simp [Except.map]⟩
      · simp only [apply, hung, linked]
        exact ⟨.single move, by simp [Except.map]⟩
  | detach child =>
      rcases detach_cases tree child with ⟨error, failed⟩ | ⟨parent, below, letGo⟩
      · simp only [apply, failed, linked]
        exact ⟨.refl, by simp [Except.map]⟩
      · simp only [apply, letGo, linked]
        exact ⟨.single (.unlink below), by simp [Except.map]⟩
  | setComparison id mode =>
      rcases setComparison_cases within mode with ⟨error, failed⟩ | ⟨changed, clear⟩
      · simp only [apply, failed, linked]
        exact ⟨.refl, by simp [Except.map]⟩
      · simp only [apply, changed, linked]
        exact ⟨.single (.govern within clear), by simp [Except.map]⟩
  | setHelp id _ | setPrompt id _ | setAction id _ | setSwitch id _ =>
      refine ⟨.single (.adorn id _ ?_ ?_ ?_ ?_ ?_), by simp [apply, changed]⟩ <;> exact fun _ => rfl
  | turn switch on => exact ⟨.single (.turn switch on), by simp [apply, changed]⟩

end Tree

end MenuShell

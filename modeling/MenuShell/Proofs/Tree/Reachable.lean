import MenuShell.Proofs.Tree.Changes

/-!
The trees that can be built. Each is a forest, and a handle once given out names the same node in
every later tree.
-/

namespace MenuShell

namespace Tree

variable {Action : Type} {tree later : Tree Action} {id : NodeId}

/-- A tree, and what changes make of it, each made whether or not those before it succeeded. -/
inductive Reaches (tree : Tree Action) : Tree Action → Prop
  | refl : Reaches tree tree
  | step {middle : Tree Action} {edit : Edit Action} : Reaches tree middle →
      edit.Within middle → Reaches tree (middle.apply edit).2

def Reachable (tree : Tree Action) : Prop :=
  ∃ mode, (empty mode).Reaches tree

def Permitted (tree : Tree Action) : List (Edit Action) → Prop
  | [] => True
  | edit :: others => edit.Within tree ∧ Permitted (tree.apply edit).2 others

instance decidablePermitted (tree : Tree Action) :
    (edits : List (Edit Action)) → Decidable (tree.Permitted edits)
  | [] => inferInstanceAs (Decidable True)
  | edit :: others =>
    have := decidablePermitted (tree.apply edit).2 others
    inferInstanceAs (Decidable (edit.Within tree ∧ Permitted (tree.apply edit).2 others))

theorem Reaches.applyAll {middle : Tree Action} {edits : List (Edit Action)}
    (reaches : tree.Reaches middle) (permitted : middle.Permitted edits) :
    tree.Reaches (middle.applyAll edits) := by
  induction edits generalizing middle with
  | nil => exact reaches
  | cons edit others ih => exact ih (.step reaches permitted.1) permitted.2

theorem Forest.move (forest : tree.Forest) (move : Move tree later) : later.Forest := by
  cases move with
  | grow node => exact forest.insert node
  | link free _ => exact forest.link free
  | unlink below => exact forest.unlink below
  | govern _ _ =>
      unfold withMode
      apply forest.modify <;> exact fun _ => rfl
  | adorn id change selector _ children fallback above =>
      exact forest.modify selector children fallback above id
  | turn switch on => exact forest.congr rfl fun _ => ⟨rfl, rfl, rfl, rfl⟩

theorem Forest.moves (forest : tree.Forest) (moves : Relation.ReflTransGen Move tree later) :
    later.Forest := by
  induction moves with
  | refl => exact forest
  | tail _ move ih => exact ih.move move

theorem Forest.reaches (forest : tree.Forest) (reaches : tree.Reaches later) : later.Forest := by
  induction reaches with
  | refl => exact forest
  | step _ within ih => exact ih.moves (apply_cases ih within).1

theorem Forest.moves_keep {holds : Tree Action → Prop}
    (kept : ∀ {tree later}, tree.Forest → holds tree → Move tree later → holds later)
    (forest : tree.Forest) (start : holds tree)
    (moves : Relation.ReflTransGen Move tree later) : holds later := by
  induction moves with
  | refl => exact start
  | tail before move ih => exact kept (forest.moves before) ih move

theorem Reachable.induction {holds : Tree Action → Prop} (reachable : tree.Reachable)
    (start : ∀ mode, holds (empty mode))
    (kept : ∀ {tree later}, tree.Forest → holds tree → Move tree later → holds later) :
    holds tree := by
  obtain ⟨mode, reaches⟩ := reachable
  induction reaches with
  | refl => exact start mode
  | step reaches within ih =>
      have forest := (forest_empty mode).reaches reaches
      exact forest.moves_keep kept ih (apply_cases forest within).1

theorem Reachable.forest (reachable : tree.Reachable) : tree.Forest :=
  reachable.induction forest_empty fun forest _ move => forest.move move

structure Keeps (tree later : Tree Action) : Prop where
  size : tree.size ≤ later.size
  selector : ∀ id < tree.size, (later.node id).selector? = (tree.node id).selector?

theorem Keeps.refl (tree : Tree Action) : Keeps tree tree :=
  ⟨Nat.le_refl _, fun _ _ => rfl⟩

theorem Keeps.trans {middle : Tree Action} (first : Keeps tree middle)
    (second : Keeps middle later) : Keeps tree later := by
  refine ⟨Nat.le_trans first.size second.size, ?_⟩
  intro id bound
  rw [second.selector id (Nat.lt_of_lt_of_le bound first.size), first.selector id bound]

theorem Keeps.move (move : Move tree later) : Keeps tree later := by
  cases move with
  | grow node =>
      refine ⟨by simp, ?_⟩
      intro id bound
      rw [node_insert_of_ne node (Nat.ne_of_lt bound)]
  | link free _ => exact ⟨by simp, fun id _ => selector_link _ _ id⟩
  | unlink _ => exact ⟨by simp, fun id _ => selector_unlink _ _ id⟩
  | govern _ _ => exact ⟨by simp, fun other _ => selector_withMode _ _ other⟩
  | adorn id change selector _ _ _ _ =>
      exact ⟨by simp, fun other _ => field_modify Node.selector? selector id other⟩
  | turn _ _ => exact ⟨Nat.le_refl _, fun _ _ => rfl⟩

theorem Keeps.moves (moves : Relation.ReflTransGen Move tree later) : Keeps tree later := by
  induction moves with
  | refl => exact .refl _
  | tail _ move ih => exact ih.trans (.move move)

theorem Keeps.reaches (forest : tree.Forest) (reaches : tree.Reaches later) :
    Keeps tree later := by
  induction reaches with
  | refl => exact .refl _
  | step reaches within ih =>
      exact ih.trans (.moves (apply_cases (forest.reaches reaches) within).1)

/-- The links of every tree that can be built form a forest, and the handle that a change gives out
names the node it was given out for in all trees that follow. -/
theorem forest_and_handles_of_reachable (reachable : tree.Reachable) :
    tree.Forest ∧
      ∀ edit id later, edit.Within tree → (tree.apply edit).1 = .ok (some id) →
        (tree.apply edit).2.Reaches later →
        id < later.size ∧
          (later.node id).selector? = ((tree.apply edit).2.node id).selector? := by
  have forest := reachable.forest
  refine ⟨forest, ?_⟩
  intro edit id later within stored reaches
  obtain ⟨moves, places⟩ := apply_cases forest within
  have bound := (places id stored).2
  have kept := Keeps.reaches (forest.moves moves) reaches
  exact ⟨Nat.lt_of_lt_of_le bound kept.size, kept.selector id bound⟩

theorem forest_and_handles_of_copy :
    let tree := (empty .sensitive : Tree Unit).applyAll
      [.add 0 (.menu "a"), .add 1 (.leaf "b" ()), .add 1 (.leaf "b" ()), .detach 1, .attach 2 1]
    let copied := (tree.apply (.copy 1)).2
    let later := copied.applyAll [.attach 0 3, .add 3 (.menu "two words"), .attach 3 1]
    tree.Forest ∧ 3 < later.size ∧ (later.node 3).selector? = (copied.node 3).selector? := by
  intro tree copied later
  have reachable : tree.Reachable := ⟨.sensitive, Reaches.refl.applyAll (by decide)⟩
  obtain ⟨forest, handles⟩ := forest_and_handles_of_reachable reachable
  exact ⟨forest, handles (.copy 1) 3 later (by decide) rfl (Reaches.refl.applyAll (by decide))⟩

end Tree

end MenuShell

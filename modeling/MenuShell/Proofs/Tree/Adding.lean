import MenuShell.Commands.Builder
import MenuShell.Proofs.Tree.Reachable

/-!
Adding commands. A command that has been added hangs below its parent as it was given, with nothing
below itself; the parent has one link more, and every other node is what it was. Building steps that
succeed are single steps that succeed one after another.
-/

namespace MenuShell

namespace Tree

variable {Action : Type} {tree middle later : Tree Action} {parent id : NodeId}
  {node : Node Action}

def above (node : Node Action) (selector? : Option String) (child : NodeId) : Node Action :=
  match selector? with
  | some _ => { node with children := node.children ++ [child] }
  | none => { node with defaultChild? := some child }

structure Hung (tree : Tree Action) (parent child : NodeId) (later : Tree Action) : Prop where
  size : later.size = tree.size
  switches : later.switches = tree.switches
  upper : later.node parent = above (tree.node parent) (tree.node child).selector? child
  lower : later.node child = { tree.node child with parent? := some parent }
  others : ∀ id, id ≠ parent → id ≠ child → later.node id = tree.node id

theorem hung_link {child : NodeId} (parentBound : parent < tree.size) (childBound : child < tree.size)
    (apart : parent ≠ child) : Hung tree parent child (tree.link parent child) := by
  have childStays (change : Node Action → Node Action) : child < (tree.modify parent change).size := by
    rwa [size_modify]
  refine ⟨size_link, rfl, ?_, ?_, ?_⟩
  · rw [link, node_modify_of_ne apart, node_modify_self parentBound]
    rfl
  · rw [link, node_modify_self (childStays _), node_modify_of_ne apart.symm]
  · intro id notParent notChild
    rw [link, node_modify_of_ne notChild, node_modify_of_ne notParent]

structure Grown (tree : Tree Action) (parent : NodeId) (node : Node Action)
    (later : Tree Action) : Prop where
  size : later.size = tree.size + 1
  new : later.node tree.size = { node.unlinked with parent? := some parent }
  upper : later.node parent = above (tree.node parent) node.selector? tree.size
  others : ∀ id, id ≠ tree.size → id ≠ parent → later.node id = tree.node id

theorem grown_link (parentBound : parent < tree.size) (node : Node Action) :
    Grown tree parent node ((tree.insert node).2.link parent tree.size) := by
  have childStored : tree.size < (tree.insert node).2.size := by simp
  have parentStored : parent < (tree.insert node).2.size := by
    rw [size_insert]
    exact Nat.lt_succ_of_lt parentBound
  have different : parent ≠ tree.size := Nat.ne_of_lt parentBound
  have hung := hung_link parentStored childStored different
  refine ⟨by simp, ?_, ?_, ?_⟩
  · rw [hung.lower, node_insert_self]
  · rw [hung.upper, node_insert_of_ne node different, node_insert_self]
    rfl
  · intro id old elsewhere
    rw [hung.others id elsewhere old, node_insert_of_ne node old]

theorem isWord_of_add {selector : String} (named : node.selector? = some selector)
    (added : tree.add parent node = (.ok id, later)) : isWord selector = true := by
  rw [← Bool.not_eq_false]
  intro blank
  have stored : ((tree.insert node).2.node tree.size).selector? = some selector := by
    rw [node_insert_self]
    exact named
  obtain ⟨error, obstacle⟩ :
      ∃ error, (tree.insert node).2.attachObstacle? parent tree.size = some error := by
    unfold attachObstacle?
    split
    · exact ⟨_, rfl⟩
    · simp [stored, blank]
  simp [add, attach, obstacle] at added

theorem add_ok (reachable : tree.Reachable) (parentBound : parent < tree.size)
    (added : tree.add parent node = (.ok id, later)) :
    id = tree.size ∧ Grown tree parent node later ∧ later.Reachable := by
  have stored : later = (tree.apply (.add parent node)).2 := by simp [apply, added]
  rcases add_cases reachable.forest parentBound node with ⟨error, failed⟩ | ⟨hung, -⟩
  · simp [failed] at added
  · have grown := grown_link parentBound node
    rw [hung, Prod.mk.injEq] at added
    obtain ⟨place, rfl⟩ := added
    refine ⟨(Except.ok.inj place).symm, grown, ?_⟩
    obtain ⟨mode, reaches⟩ := reachable
    rw [stored]
    exact ⟨mode, reaches.step parentBound⟩

structure GrownBelow (tree : Tree Action) (parent : NodeId) (later : Tree Action) : Prop where
  size : tree.size ≤ later.size
  others : ∀ id < tree.size, id ≠ parent → later.node id = tree.node id

theorem Grown.below (grown : Grown tree parent node later) : GrownBelow tree parent later := by
  refine ⟨by simp [grown.size], ?_⟩
  intro id bound elsewhere
  exact grown.others id (Nat.ne_of_lt bound) elsewhere

theorem GrownBelow.refl (tree : Tree Action) (parent : NodeId) : GrownBelow tree parent tree :=
  ⟨Nat.le_refl _, fun _ _ _ => rfl⟩

theorem GrownBelow.trans (first : GrownBelow tree parent middle)
    (second : GrownBelow middle parent later) : GrownBelow tree parent later := by
  refine ⟨Nat.le_trans first.size second.size, ?_⟩
  intro id bound elsewhere
  rw [second.others id (Nat.lt_of_lt_of_le bound first.size) elsewhere,
    first.others id bound elsewhere]

end Tree

namespace Builder

variable {Host Value Other : Type} {tree later : Tree (Action Host)}

theorem build_bind (steps : Builder Host Value) (next : Value → Builder Host Other) :
    (steps >>= next).build tree =
      match steps.build tree with
      | (.ok value, middle) => (next value).build middle
      | (.error error, middle) => (.error error, middle) := by
  have unfolded : (steps >>= next).build tree =
      (ExceptT.bindCont next (steps.build tree).1).run (steps.build tree).2 := rfl
  rw [unfolded]
  rcases steps.build tree with ⟨result, middle⟩
  cases result <;> rfl

theorem bind_ok {steps : Builder Host Value} {next : Value → Builder Host Other} {last : Other}
    (built : (steps >>= next).build tree = (.ok last, later)) :
    ∃ value middle, steps.build tree = (.ok value, middle) ∧
      (next value).build middle = (.ok last, later) := by
  rw [build_bind] at built
  split at built
  · rename_i value middle first
    exact ⟨value, middle, first, built⟩
  · simp at built

theorem discard_ok {steps : Builder Host Value} {done : PUnit}
    (built : (discard steps).build tree = (.ok done, later)) :
    ∃ value, steps.build tree = (.ok value, later) := by
  have unfolded : (discard steps).build tree =
      (steps >>= fun _ => (pure PUnit.unit : Builder Host PUnit)).build tree := rfl
  rw [unfolded] at built
  obtain ⟨value, middle, first, finished⟩ := bind_ok built
  have same : middle = later := congrArg Prod.snd finished
  exact ⟨value, same ▸ first⟩

end Builder

namespace Tree

variable {Host : Type} {tree middle later : Tree (Action Host)} {parent : NodeId}
  {node : Node (Action Host)} {done : PUnit}

theorem add_discard_ok (reachable : tree.Reachable) (bound : parent < tree.size)
    (built : (discard (Builder.add parent node)).build tree = (.ok done, later)) :
    Grown tree parent node later ∧ later.Reachable := by
  obtain ⟨id, added⟩ := Builder.discard_ok built
  exact (add_ok reachable bound added).2

theorem GrownBelow.add (below : GrownBelow tree parent middle)
    (reachable : middle.Reachable) (bound : parent < tree.size)
    (built : (discard (Builder.add parent node)).build middle = (.ok done, later)) :
    GrownBelow tree parent later ∧ later.Reachable := by
  obtain ⟨grown, laterReachable⟩ :=
    add_discard_ok reachable (Nat.lt_of_lt_of_le bound below.size) built
  exact ⟨below.trans grown.below, laterReachable⟩

end Tree

end MenuShell

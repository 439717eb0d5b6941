import MenuShell.Commands.Samples
import MenuShell.Proofs.Shell.Defining

/-!
The sample commands as they are installed. `repeat` and the adding machine are known in the root menu
whatever was in the tree before, and the adding machine is a menu of its own.
-/

namespace MenuShell

namespace Tree

variable {Host : Type} {tree middle later final : Tree (Action Host)}
  {parent inner menu help quit stop sink : NodeId} {node : Node (Action Host)} {done : PUnit}

/-- The menu adds up numbers: it has its commands and the item that takes every other line. -/
structure Sums (tree : Tree (Action Host)) (menu help quit stop sink : NodeId) : Prop where
  named : tree.visibleChildren menu = [help, quit, stop]
  fallback : tree.visibleDefault? menu = some sink
  helpWord : (tree.node help).selector? = some "help"
  quitWord : (tree.node quit).selector? = some "quit"
  stopWord : (tree.node stop).selector? = some "="
  helps : (tree.node help).action? = (Commands.helpNode menu).action?
  quits : (tree.node quit).action? = (Commands.quitNode : Node (Action Host)).action?
  stops : (tree.node stop).action? = some fun _ => .done .quit
  counts : (tree.node sink).action? = some (Commands.runNumber menu)
  action : (tree.node menu).action? = some (Commands.runAdd menu)

theorem GrownBelow.within (below : GrownBelow tree parent middle)
    (others : GrownBelow middle inner later) (behind : tree.size ≤ inner) :
    GrownBelow tree parent later := by
  refine ⟨Nat.le_trans below.size others.size, ?_⟩
  intro id bound elsewhere
  have kept : id ≠ inner := Nat.ne_of_lt (Nat.lt_of_lt_of_le bound behind)
  rw [others.others id (Nat.lt_of_lt_of_le bound below.size) kept, below.others id bound elsewhere]

theorem setAction_ok {action : Action Host} (reachable : tree.Reachable) (bound : menu < tree.size)
    (built : (Builder.setAction menu action).build tree = (.ok done, later)) :
    later = tree.modify menu (fun node => { node with action? := some action }) ∧
      later.Reachable ∧ GrownBelow tree menu later := by
  obtain ⟨-, rfl⟩ := Prod.mk.inj built
  refine ⟨rfl, ?_, by simp, fun id _ elsewhere => node_modify_of_ne elsewhere _⟩
  obtain ⟨mode, reaches⟩ := reachable
  have within : (Edit.setAction menu (some action)).Within tree := bound
  exact ⟨mode, reaches.step within⟩

theorem installMenuCommands_ok (reachable : tree.Reachable) (bound : menu < tree.size)
    (built : (Commands.installMenuCommands menu).build tree = (.ok done, later)) :
    ∃ middle, Grown tree menu (Commands.helpNode menu) middle ∧
      Grown middle menu Commands.quitNode later ∧ later.Reachable := by
  obtain ⟨_, middle, added, built⟩ := Builder.bind_ok built
  obtain ⟨help, middleReachable⟩ := add_discard_ok reachable bound added
  have middleBound := Nat.lt_of_lt_of_le bound help.below.size
  obtain ⟨quit, laterReachable⟩ := add_discard_ok middleReachable middleBound built
  exact ⟨middle, help, quit, laterReachable⟩

theorem installConvert_ok (reachable : tree.Reachable)
    (built : (Commands.installConvert : Builder Host Unit).build tree = (.ok done, later)) :
    GrownBelow tree root later ∧ later.Reachable := by
  obtain ⟨convert, first, added, built⟩ := Builder.bind_ok built
  obtain ⟨rfl, grown, firstReachable⟩ := add_ok reachable reachable.forest.planted added
  have inside : tree.size < first.size := by simp [grown.size]
  obtain ⟨_, second, upper, lower⟩ := Builder.bind_ok built
  obtain ⟨below, secondReachable⟩ := (GrownBelow.refl first _).add firstReachable inside upper
  obtain ⟨below, laterReachable⟩ := below.add secondReachable inside lower
  exact ⟨grown.below.within below (Nat.le_refl _), laterReachable⟩

structure Mounted (tree later : Tree (Action Host)) : Prop where
  reachable : later.Reachable
  below : GrownBelow tree root later
  size : later.size = tree.size + 5
  named : (later.node tree.size).selector? = some "add"
  shown : (later.node tree.size).switch? = none
  hung : (later.node tree.size).parent? = some root
  action : (later.node tree.size).action? = some (Commands.runAdd tree.size)
  children : (later.node tree.size).children = [tree.size + 1, tree.size + 2, tree.size + 3]
  fallback : (later.node tree.size).defaultChild? = some (tree.size + 4)
  help : later.node (tree.size + 1) =
    { Commands.helpNode tree.size with parent? := some tree.size }
  quit : later.node (tree.size + 2) = { Commands.quitNode with parent? := some tree.size }
  stop : later.node (tree.size + 3) =
    { (Node.leaf "=" fun _ => .done .quit).withHelp "Prints the sum and quits the add submenu" with
      parent? := some tree.size }
  sink : later.node (tree.size + 4) =
    { Node.defaultItem (Commands.runNumber tree.size) with parent? := some tree.size }

theorem installAdd_ok (reachable : tree.Reachable)
    (built : (Commands.installAdd : Builder Host Unit).build tree = (.ok done, later)) :
    Mounted tree later := by
  obtain ⟨_, _, made, built⟩ := Builder.bind_ok built
  obtain ⟨_, first, added, made⟩ := Builder.bind_ok made
  obtain ⟨rfl, menuGrown, firstReachable⟩ := add_ok reachable reachable.forest.planted added
  have firstSize := menuGrown.size
  obtain ⟨_, filled, furnished, made⟩ := Builder.bind_ok made
  obtain ⟨result, rfl⟩ := Prod.mk.inj made
  cases result
  have firstBound : tree.size < first.size := by omega
  obtain ⟨second, helpGrown, quitGrown, thirdReachable⟩ :=
    installMenuCommands_ok firstReachable firstBound furnished
  have secondSize := helpGrown.size
  have thirdSize := quitGrown.size
  obtain ⟨_, fourth, stopAdded, built⟩ := Builder.bind_ok built
  have thirdBound : tree.size < filled.size := by omega
  obtain ⟨stopGrown, fourthReachable⟩ := add_discard_ok thirdReachable thirdBound stopAdded
  have fourthSize := stopGrown.size
  obtain ⟨_, fifth, sinkAdded, acted⟩ := Builder.bind_ok built
  have fourthBound : tree.size < fourth.size := by omega
  obtain ⟨sinkGrown, fifthReachable⟩ := add_discard_ok fourthReachable fourthBound sinkAdded
  have fifthSize := sinkGrown.size
  have stored : tree.size < fifth.size := by omega
  obtain ⟨rfl, laterReachable, acts⟩ := setAction_ok fifthReachable stored acted
  have below : GrownBelow first tree.size fifth :=
    ((helpGrown.below.trans quitGrown.below).trans stopGrown.below).trans sinkGrown.below
  have menu : fifth.node tree.size = { (((Node.menu "add").withHelp
      "add\nAdds numbers until \"=\" is entered.").withPrompt "+").unlinked with
      children := [tree.size + 1, tree.size + 2, tree.size + 3]
      defaultChild? := some (tree.size + 4), parent? := some root } := by
    rw [sinkGrown.upper, stopGrown.upper, quitGrown.upper, helpGrown.upper, menuGrown.new,
      fourthSize, thirdSize, secondSize, firstSize]
    rfl
  have other (place : Nat) (elsewhere : place ≠ tree.size) :
      (fifth.modify tree.size fun node =>
        { node with action? := some (Commands.runAdd tree.size) }).node place =
      fifth.node place := node_modify_of_ne elsewhere _
  refine ⟨laterReachable, ?_, ?_, ?_, ?_, ?_, ?_, ?_, ?_, ?_, ?_, ?_, ?_⟩
  · exact (menuGrown.below.within below (Nat.le_refl _)).within acts (Nat.le_refl _)
  · rw [size_modify]
    omega
  · rw [node_modify_self stored, menu]
    rfl
  · rw [node_modify_self stored, menu]
    rfl
  · rw [node_modify_self stored, menu]
  · rw [node_modify_self stored]
  · rw [node_modify_self stored, menu]
  · rw [node_modify_self stored, menu]
  · rw [other _ (by omega), sinkGrown.others _ (by omega) (by omega),
      stopGrown.others _ (by omega) (by omega), quitGrown.others _ (by omega) (by omega), ← firstSize,
      helpGrown.new]
    rfl
  · have place : tree.size + 2 = second.size := by omega
    rw [other _ (by omega), sinkGrown.others _ (by omega) (by omega),
      stopGrown.others _ (by omega) (by omega), place, quitGrown.new]
    rfl
  · have place : tree.size + 3 = filled.size := by omega
    rw [other _ (by omega), sinkGrown.others _ (by omega) (by omega), place, stopGrown.new]
    rfl
  · have place : tree.size + 4 = fourth.size := by omega
    rw [other _ (by omega), place, sinkGrown.new]
    rfl

theorem Mounted.sums (mounted : Mounted tree later) (planted : root < tree.size)
    (below : GrownBelow later root final) :
    final.Sums tree.size (tree.size + 1) (tree.size + 2) (tree.size + 3) (tree.size + 4) := by
  have size := mounted.size
  have kept (place : Nat) (new : tree.size ≤ place) (old : place < tree.size + 5) :
      final.node place = later.node place :=
    below.others place (by omega) (Nat.ne_of_gt (Nat.lt_of_lt_of_le planted new))
  have menu := kept tree.size (by omega) (by omega)
  have help := (kept (tree.size + 1) (by omega) (by omega)).trans mounted.help
  have quit := (kept (tree.size + 2) (by omega) (by omega)).trans mounted.quit
  have stop := (kept (tree.size + 3) (by omega) (by omega)).trans mounted.stop
  have sink := (kept (tree.size + 4) (by omega) (by omega)).trans mounted.sink
  refine ⟨?_, ?_, ?_, ?_, ?_, ?_, ?_, ?_, ?_, ?_⟩
  · rw [visibleChildren, menu, mounted.children]
    simp [isVisible, help, quit, stop, Commands.helpNode, Commands.quitNode, Node.ofSpec,
      Node.withHelp, Node.leaf]
  · rw [visibleDefault?, Tree.defaultChild?, menu, mounted.fallback]
    simp [isVisible, sink, Node.defaultItem]
  · rw [help]
    rfl
  · rw [quit]
    rfl
  · rw [stop]
    rfl
  · rw [help]
  · rw [quit]
  · rw [stop]
    rfl
  · rw [sink]
    rfl
  · rw [menu, mounted.action]

theorem installSamples_ok (reachable : tree.Reachable)
    (built : (Commands.installSamples : Builder Host Unit).build tree = (.ok done, later)) :
    later.Reachable ∧ later.Knows root "repeat" Commands.runRepeat ∧
      ∃ menu help quit stop sink, later.Sums menu help quit stop sink ∧
        ∀ line rest, Text.splitFirstWord line = ("add", rest) →
          later.dispatchRoute? root line = some (.act menu rest) := by
  obtain ⟨_, first, added, built⟩ := Builder.bind_ok built
  obtain ⟨-, firstReachable⟩ := add_discard_ok reachable reachable.forest.planted added
  obtain ⟨_, second, added, built⟩ := Builder.bind_ok built
  obtain ⟨-, secondReachable⟩ := add_discard_ok firstReachable firstReachable.forest.planted added
  have secondPlanted := secondReachable.forest.planted
  obtain ⟨_, third, added, built⟩ := Builder.bind_ok built
  obtain ⟨repeats, thirdReachable⟩ := add_discard_ok secondReachable secondPlanted added
  obtain ⟨_, fourth, converts, built⟩ := Builder.bind_ok built
  obtain ⟨convert, fourthReachable⟩ := installConvert_ok thirdReachable converts
  obtain ⟨_, fifth, adds, built⟩ := Builder.bind_ok built
  have mounted := installAdd_ok fourthReachable adds
  have fourthPlanted := fourthReachable.forest.planted
  obtain ⟨greet, laterReachable⟩ :=
    add_discard_ok mounted.reachable mounted.reachable.forest.planted built
  have connected := laterReachable.forest.mem_lineage_self root
  have sums := mounted.sums fourthPlanted greet.below
  have size := mounted.size
  have kept : later.node fourth.size = fifth.node fourth.size :=
    greet.below.others _ (by omega) (Nat.ne_of_gt fourthPlanted)
  refine ⟨laterReachable, ?_, _, _, _, _, _, sums, ?_⟩
  · exact knows_of_grown secondPlanted repeats ((convert.trans mounted.below).trans greet.below)
      laterReachable connected rfl rfl rfl
  · intro line rest split
    exact route_of_selector laterReachable connected (by rw [kept, mounted.named])
      (by rw [kept, mounted.shown]) (by rw [kept, mounted.hung]) (by simp [sums.action]) split

end Tree

end MenuShell

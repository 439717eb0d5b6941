import MenuShell.Commands.Procedures
import MenuShell.Commands.Recording
import MenuShell.Proofs.Shell.Collecting
import MenuShell.Proofs.Tree.Adding

/-!
The commands that capture lines, `proc` and `record`, as they are installed. Installing one of them
leaves behind a menu that collects lines up to the end keyword of its kind, and in the menu above it a
line that begins with the command's name leads to its action.
-/

namespace MenuShell

inductive Capture where
  | procedure
  | record

namespace Capture

variable {Host : Type}

def spec : Capture → ArgumentSpec
  | procedure => Commands.procSpec
  | record => Commands.recordSpec

def endWord (settings : Settings) : Capture → String
  | procedure => settings.endProc
  | record => settings.endRecord

def run (menu : NodeId) : Capture → Arguments → Script Host
  | procedure => Commands.runProc menu
  | record => Commands.runRecord menu

def install (settings : Settings) (parent : NodeId) : Capture → Builder Host Unit
  | procedure => Commands.installProcedures settings parent
  | record => Commands.installRecording settings parent

def request (name : String) (lines : List String) : Capture → Request (Action Host) .nothing
  | procedure => .recordProcedure name lines
  | record => .addRecord name lines

def keep (shell : Shell Host) (name : String) (lines : List String) : Capture → Shell Host
  | procedure =>
    match shell.procedures.record name lines with
    | .ok procedures => { shell with procedures }
    | .error error => shell.report error
  | record =>
    match shell.records.add name lines with
    | (.ok (), records) => shell.keepRecords records
    | (.error failure, records) => (shell.keepRecords records).writeLine failure.message

end Capture

structure Tree.Captures {Host : Type} (tree : Tree (Action Host)) (capture : Capture)
    (menu stop sink : NodeId) (endWord : String) : Prop
    extends tree.Collects menu stop sink endWord where
  action : (tree.node menu).action? =
    some (Script.withArguments capture.spec (capture.run menu))

namespace Tree

variable {Host : Type} {tree middle later : Tree (Action Host)} {parent menu : NodeId}
  {node : Node (Action Host)} {endWord command : String}

structure Laid (tree : Tree (Action Host)) (parent : NodeId) (node : Node (Action Host))
    (endWord : String) (later : Tree (Action Host)) : Prop where
  reachable : later.Reachable
  size : later.size = tree.size + 3
  word : isWord endWord = true
  menu : later.node tree.size = { node.unlinked with
    children := [tree.size + 1], defaultChild? := some (tree.size + 2), parent? := some parent }
  keyword : later.node (tree.size + 1) =
    { (Node.leaf endWord fun _ => .done .quit).withHelp "Finishes recording." with
      parent? := some tree.size }
  sink : later.node (tree.size + 2) =
    { Node.defaultItem fun line => .andThen (.note tree.size line) (.done .normal) with
      parent? := some tree.size }

theorem installCapture_ok (reachable : tree.Reachable) (bound : parent < tree.size)
    (built : (Commands.installCapture parent node endWord).build tree = (.ok menu, later)) :
    menu = tree.size ∧ Laid tree parent node endWord later := by
  obtain ⟨id, first, added, built⟩ := Builder.bind_ok built
  obtain ⟨rfl, menuGrown, firstReachable⟩ := add_ok reachable bound added
  have firstSize : first.size = tree.size + 1 := menuGrown.size
  have menuBound : tree.size < first.size := by omega
  obtain ⟨done, second, keywordAdded, built⟩ := Builder.bind_ok built
  obtain ⟨place, keywordStored⟩ := Builder.discard_ok keywordAdded
  have word := isWord_of_add rfl keywordStored
  obtain ⟨keywordGrown, secondReachable⟩ :=
    add_discard_ok firstReachable menuBound keywordAdded
  have secondSize : second.size = tree.size + 2 := by rw [keywordGrown.size, firstSize]
  have laterMenuBound : tree.size < second.size := by omega
  obtain ⟨done, third, sinkAdded, built⟩ := Builder.bind_ok built
  obtain ⟨sinkGrown, thirdReachable⟩ := add_discard_ok secondReachable laterMenuBound sinkAdded
  obtain ⟨result, rfl⟩ := Prod.mk.inj built
  refine ⟨(Except.ok.inj result).symm, thirdReachable, ?_, word, ?_, ?_, ?_⟩
  · rw [sinkGrown.size, secondSize]
  · rw [sinkGrown.upper, keywordGrown.upper, menuGrown.new, secondSize, firstSize]
    rfl
  · have old : tree.size + 1 ≠ second.size := by omega
    have behind : tree.size + 1 ≠ tree.size := by omega
    rw [sinkGrown.others _ old behind, ← firstSize, keywordGrown.new]
    rfl
  · rw [← secondSize, sinkGrown.new]
    rfl

def capturing (tree : Tree (Action Host)) (menu : NodeId) (capture : Capture) :
    Tree (Action Host) :=
  tree.modify menu fun node => { node with
    action? := some (Script.withArguments capture.spec (capture.run menu)) }

theorem Laid.capturing_ok (laid : Laid tree parent node endWord middle)
    (bound : parent < tree.size) (capture : Capture) :
    (middle.capturing tree.size capture).Reachable ∧
      parent < (middle.capturing tree.size capture).size := by
  have size := laid.size
  have stored : tree.size < middle.size := by omega
  constructor
  · obtain ⟨mode, reaches⟩ := laid.reachable
    let action : Action Host := Script.withArguments capture.spec (capture.run tree.size)
    have within : (Edit.setAction tree.size (some action)).Within middle := stored
    exact ⟨mode, reaches.step within⟩
  · rw [capturing, size_modify]
    exact Nat.lt_trans bound stored

theorem Laid.installed {capture : Capture} (laid : Laid tree parent node endWord middle)
    (bound : parent < tree.size)
    (below : GrownBelow (middle.capturing tree.size capture) parent later) :
    later.Captures capture tree.size (tree.size + 1) (tree.size + 2) endWord ∧
      (later.node tree.size).selector? = node.selector? ∧
      (later.node tree.size).switch? = node.switch? ∧
      (later.node tree.size).parent? = some parent := by
  have size := laid.size
  have kept (place : Nat) (new : tree.size ≤ place) (old : place < tree.size + 3) :
      later.node place = (middle.capturing tree.size capture).node place := by
    have stored : place < (middle.capturing tree.size capture).size := by
      rw [capturing, size_modify]
      omega
    have elsewhere : place ≠ parent := by
      rintro rfl
      exact Nat.not_lt_of_le new bound
    exact below.others place stored elsewhere
  have menu : later.node tree.size = { middle.node tree.size with
      action? := some (Script.withArguments capture.spec (capture.run tree.size)) } := by
    have stored : tree.size < middle.size := by omega
    rw [kept _ (Nat.le_refl _) (by omega), capturing, node_modify_self stored]
  have keyword : later.node (tree.size + 1) = middle.node (tree.size + 1) := by
    rw [kept _ (by omega) (by omega), capturing, node_modify_of_ne (Nat.succ_ne_self _)]
  have sink : later.node (tree.size + 2) = middle.node (tree.size + 2) := by
    have behind : tree.size + 2 ≠ tree.size := by omega
    rw [kept _ (by omega) (by omega), capturing, node_modify_of_ne behind]
  rw [laid.menu] at menu
  rw [laid.keyword] at keyword
  rw [laid.sink] at sink
  refine ⟨⟨⟨?_, ?_, ?_, laid.word, ?_, ?_⟩, ?_⟩, ?_, ?_, ?_⟩
  · simp [visibleChildren, isVisible, menu, keyword, Node.withHelp, Node.leaf]
  · simp [visibleDefault?, defaultChild?, isVisible, menu, sink, Node.defaultItem]
  · rw [keyword]
    rfl
  · rw [keyword]
    rfl
  · rw [sink]
    rfl
  · rw [menu]
  · rw [menu]
    rfl
  · rw [menu]
    rfl
  · rw [menu]

theorem install_ok {capture : Capture} {settings : Settings} (reachable : tree.Reachable)
    (bound : parent < tree.size)
    (built : (capture.install settings parent).build tree = (.ok (), later)) :
    later.Reachable ∧
      later.Captures capture tree.size (tree.size + 1) (tree.size + 2) (capture.endWord settings) ∧
      (later.node tree.size).selector? = some capture.spec.command ∧
      (later.node tree.size).switch? = none ∧
      (later.node tree.size).parent? = some parent := by
  cases capture with
  | procedure =>
      obtain ⟨menu, first, captured, built⟩ := Builder.bind_ok built
      obtain ⟨rfl, laid⟩ := installCapture_ok reachable bound captured
      obtain ⟨done, second, acted, built⟩ := Builder.bind_ok built
      obtain ⟨-, rfl⟩ := Prod.mk.inj acted
      obtain ⟨secondReachable, secondBound⟩ := laid.capturing_ok bound .procedure
      obtain ⟨done, third, call, built⟩ := Builder.bind_ok built
      obtain ⟨below, thirdReachable⟩ := (GrownBelow.refl _ _).add secondReachable secondBound call
      obtain ⟨done, fourth, leave, built⟩ := Builder.bind_ok built
      obtain ⟨below, fourthReachable⟩ := below.add thirdReachable secondBound leave
      obtain ⟨below, laterReachable⟩ := below.add fourthReachable secondBound built
      exact ⟨laterReachable, laid.installed bound below⟩
  | record =>
      obtain ⟨menu, first, captured, built⟩ := Builder.bind_ok built
      obtain ⟨rfl, laid⟩ := installCapture_ok reachable bound captured
      obtain ⟨done, second, acted, built⟩ := Builder.bind_ok built
      obtain ⟨-, rfl⟩ := Prod.mk.inj acted
      obtain ⟨secondReachable, secondBound⟩ := laid.capturing_ok bound .record
      obtain ⟨below, laterReachable⟩ := (GrownBelow.refl _ _).add secondReachable secondBound built
      exact ⟨laterReachable, laid.installed bound below⟩

theorem route_of_means {line rest : String}
    (means : tree.resolve parent command (tree.comparison parent) = .ok (.named menu))
    (acts : (tree.node menu).action?.isSome) (split : Text.splitFirstWord line = (command, rest)) :
    tree.dispatchRoute? parent line = some (.act menu rest) := by
  simp only [dispatchRoute?, choose, split, means]
  exact routeWithin_of_action acts rest

theorem route_of_selector (reachable : tree.Reachable) (connected : root ∈ tree.lineage parent)
    {line rest : String} (named : (tree.node menu).selector? = some command)
    (shown : (tree.node menu).switch? = none) (below : (tree.node menu).parent? = some parent)
    (acts : (tree.node menu).action?.isSome) (split : Text.splitFirstWord line = (command, rest)) :
    tree.dispatchRoute? parent line = some (.act menu rest) := by
  have child : menu ∈ (tree.node parent).children :=
    (reachable.forest.named parent menu).mpr ⟨by simp [named], below⟩
  have visible : menu ∈ tree.visibleChildren parent :=
    List.mem_filter.mpr ⟨child, by simp [isVisible, shown]⟩
  have selected : tree.selector menu = command := by simp [selector, named]
  have means := resolve_eq_named_iff.mpr (reachable.candidates_selector connected visible)
  rw [selected] at means
  exact route_of_means means acts split

end Tree

end MenuShell

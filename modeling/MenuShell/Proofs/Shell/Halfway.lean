import MenuShell.Commands.Conditional
import MenuShell.Commands.Menu
import MenuShell.Proofs.Shell.Installing
import MenuShell.Proofs.Tree.Refusals
import MenuShell.Proofs.Tree.Room

/-!
Installing that stops halfway. A menu with its `help` and `quit`, and the command `if`, are installed
or not; the commands that capture lines may be left there without what belongs to them. That happens
if the end keyword is no word or the name of a command that comes later is taken, and it is then the
capturing command itself that stands in the way of another try.
-/

namespace MenuShell

/-- What building steps leave behind if they succeed, and what if they stop at an error. -/
def Builder.Leaves {Host Value : Type} (steps : Builder Host Value) (tree : Tree (Action Host))
    (done : Value → Tree (Action Host) → Prop) (stuck : Tree (Action Host) → Prop) : Prop :=
  (∀ value, (steps.build tree).1 = .ok value → done value (steps.build tree).2) ∧
    ((steps.build tree).1.isOk = false → stuck (steps.build tree).2)

namespace Builder.Leaves

variable {Host Value Other : Type} {tree : Tree (Action Host)} {steps : Builder Host Value}
  {middle : Value → Tree (Action Host) → Prop} {stuck : Tree (Action Host) → Prop}

theorem bind {next : Value → Builder Host Other} {done : Other → Tree (Action Host) → Prop}
    (first : steps.Leaves tree middle stuck)
    (others : ∀ value later, middle value later → (next value).Leaves later done stuck) :
    (steps >>= next).Leaves tree done stuck := by
  unfold Leaves
  rw [build_bind]
  rcases built : steps.build tree with ⟨result, later⟩
  cases result with
  | ok value => exact others value later (by simpa [built] using first.1 value)
  | error error =>
      refine ⟨by simp, ?_⟩
      intro failed
      simpa [built] using first.2 (by rw [built]; exact failed)

theorem mono {done : Value → Tree (Action Host) → Prop} {halted : Tree (Action Host) → Prop}
    (leaves : steps.Leaves tree middle stuck)
    (finish : ∀ value later, middle value later → done value later)
    (stop : ∀ later, stuck later → halted later) : steps.Leaves tree done halted :=
  ⟨fun value built => finish value _ (leaves.1 value built), fun failed => stop _ (leaves.2 failed)⟩

theorem pure {value : Value} {done : Value → Tree (Action Host) → Prop} (holds : done value tree) :
    (Pure.pure value : Builder Host Value).Leaves tree done stuck := by
  constructor
  · rintro _ ⟨⟩
    exact holds
  · rintro ⟨⟩

theorem discard {done : Tree (Action Host) → Prop}
    (leaves : steps.Leaves tree (fun _ later => done later) stuck) :
    (Functor.discard steps).Leaves tree (fun _ later => done later) stuck := by
  have unfolded : Functor.discard steps =
      (steps >>= fun _ => (Pure.pure PUnit.unit : Builder Host PUnit)) := rfl
  rw [unfolded]
  exact leaves.bind fun _ _ holds => .pure holds

end Builder.Leaves

namespace Tree

variable {Host : Type} {tree middle later : Tree (Action Host)} {parent menu : NodeId}
  {node : Node (Action Host)} {command name endWord : String} {names : List String}

theorem leaves_add (reachable : tree.Reachable) (bound : parent < tree.size)
    (node : Node (Action Host)) :
    (Builder.add parent node).Leaves tree
      (fun id later => id = tree.size ∧ tree.Admits parent node.selector? ∧
        Grown tree parent node later ∧ later.Reachable)
      (fun later => ¬ tree.Admits parent node.selector? ∧ later = tree) := by
  have built : (Builder.add parent node).build tree = tree.add parent node := rfl
  unfold Builder.Leaves
  rw [built]
  constructor
  · intro id added
    have stored : tree.add parent node = (.ok id, (tree.add parent node).2) := Prod.ext added rfl
    obtain ⟨rfl, grown, laterReachable⟩ := add_ok reachable bound stored
    exact ⟨rfl, admits_of_add reachable.forest bound stored, grown, laterReachable⟩
  · intro failed
    refine ⟨?_, add_refused reachable.forest bound failed⟩
    intro admits
    obtain ⟨later, added, -⟩ := admits.add reachable bound
    simp [added, isOk_ok] at failed

/-- What building steps have made of a tree so far: these words have been taken in a menu, words that
are unlike all of them are as they were. -/
structure Taken (tree : Tree (Action Host)) (parent : NodeId) (names : List String)
    (later : Tree (Action Host)) : Prop where
  reachable : later.Reachable
  size : tree.size < later.size
  taken : ∀ name ∈ names, later.child? parent name ≠ none
  spared : ∀ name, isUnlike names name = true →
    (later.child? parent name = none ↔ tree.child? parent name = none)

theorem isUnlike_cons : isUnlike (command :: names) name = true ↔
    (∀ mode, Comparison.same mode command name = false) ∧ isUnlike names name = true := by
  simp only [isUnlike_iff, List.forall_mem_cons]

theorem Grown.taken (grown : Grown tree parent node later) (forest : tree.Forest)
    (laterForest : later.Forest) (bound : parent < tree.size)
    (named : node.selector? = some command) : later.child? parent command ≠ none := by
  rw [Ne, grown.child?_eq_none_iff forest laterForest bound]
  rintro ⟨-, differs⟩
  simpa [same_self] using differs rfl command named

theorem Grown.spared (grown : Grown tree parent node later) (forest : tree.Forest)
    (laterForest : later.Forest) (bound : parent < tree.size)
    (named : node.selector? = some command)
    (unlike : ∀ mode, Comparison.same mode command name = false) :
    later.child? parent name = none ↔ tree.child? parent name = none := by
  rw [grown.child?_eq_none_iff forest laterForest bound]
  apply and_iff_left
  rintro - word wordNamed
  obtain rfl := Option.some.inj (named.symm.trans wordNamed)
  exact unlike _

theorem taken_of_grown (grown : Grown tree parent node later) (forest : tree.Forest)
    (reachable : later.Reachable) (bound : parent < tree.size)
    (named : node.selector? = some command) : Taken tree parent [command] later := by
  refine ⟨reachable, by simp [grown.size], ?_, ?_⟩
  · intro name member
    rw [List.mem_singleton.mp member]
    exact grown.taken forest reachable.forest bound named
  · intro name unlike
    exact grown.spared forest reachable.forest bound named (isUnlike_cons.mp unlike).1

theorem Taken.grow (known : Taken tree parent names middle) (bound : parent < tree.size)
    (grown : Grown middle parent node later) (reachable : later.Reachable)
    (named : node.selector? = some command) : Taken tree parent (command :: names) later := by
  have forest := known.reachable.forest
  have laterForest := reachable.forest
  have stored : parent < middle.size := Nat.lt_trans bound known.size
  refine ⟨reachable, ?_, ?_, ?_⟩
  · rw [grown.size]
    exact Nat.lt_succ_of_lt known.size
  · intro name member
    rcases List.mem_cons.mp member with same | earlier
    · rw [same]
      exact grown.taken forest laterForest stored named
    · intro free
      exact known.taken name earlier
        ((grown.child?_eq_none_iff forest laterForest stored).mp free).1
  · intro name unlike
    obtain ⟨differs, others⟩ := isUnlike_cons.mp unlike
    rw [grown.spared forest laterForest stored named differs, known.spared name others]

theorem Taken.elsewhere (known : Taken tree parent names middle) (bound : parent < tree.size)
    (grown : Grown middle menu node later) (reachable : later.Reachable) (other : parent ≠ menu) :
    Taken tree parent names later := by
  have stored : parent < middle.size := Nat.lt_trans bound known.size
  have free_iff (word : String) :
      later.child? parent word = none ↔ middle.child? parent word = none := by
    rw [grown.child?_eq_none_iff known.reachable.forest reachable.forest stored]
    simp [other]
  refine ⟨reachable, ?_, ?_, ?_⟩
  · rw [grown.size]
    exact Nat.lt_succ_of_lt known.size
  · intro name member
    rw [Ne, free_iff]
    exact known.taken name member
  · intro name unlike
    rw [free_iff, known.spared name unlike]

theorem climb_modify {change : Node (Action Host) → Node (Action Host)}
    (above : ∀ node, (change node).parent? = node.parent?) (place : NodeId) (bound : Nat)
    (id : NodeId) : (tree.modify place change).climb bound id = tree.climb bound id := by
  induction bound generalizing id with
  | zero => rfl
  | succ bound ih =>
      rw [climb, climb, field_modify Node.parent? above]
      cases (tree.node id).parent? with
      | none => rfl
      | some parent => simp only [ih]

theorem child?_setAction (place : NodeId) (action : Action Host) (id : NodeId) (word : String) :
    (tree.modify place fun node => { node with action? := some action }).child? id word =
      tree.child? id word := by
  let change (node : Node (Action Host)) : Node (Action Host) :=
    { node with action? := some action }
  have selectors (node : Node (Action Host)) : (change node).selector? = node.selector? := rfl
  have modes (node : Node (Action Host)) : (change node).comparison? = node.comparison? := rfl
  have children (node : Node (Action Host)) : (change node).children = node.children := rfl
  have above (node : Node (Action Host)) : (change node).parent? = node.parent? := rfl
  change (tree.modify place change).child? id word = tree.child? id word
  simp only [child?, comparison, lineage, size_modify, climb_modify above,
    field_modify Node.selector? selectors, field_modify Node.comparison? modes,
    field_modify Node.children children]

theorem Taken.setAction (known : Taken tree parent names middle) (stored : menu < middle.size)
    (action : Action Host) :
    (Builder.setAction menu action).Leaves middle (fun _ later => Taken tree parent names later)
      fun _ => False := by
  have built : (Builder.setAction menu action).build middle =
      (.ok (), middle.modify menu fun node => { node with action? := some action }) := rfl
  have within : (Edit.setAction menu (some action)).Within middle := stored
  unfold Builder.Leaves
  rw [built]
  refine ⟨?_, by simp [isOk_ok]⟩
  rintro _ -
  obtain ⟨mode, reaches⟩ := known.reachable
  refine ⟨⟨mode, reaches.step within⟩, ?_, ?_, ?_⟩
  · rw [size_modify]
    exact known.size
  · intro name member
    rw [child?_setAction]
    exact known.taken name member
  · intro name unlike
    rw [child?_setAction, known.spared name unlike]

theorem Taken.companion (known : Taken tree parent names middle) (bound : parent < tree.size)
    (named : node.selector? = some command) (word : isWord command = true)
    (unlike : isUnlike names command = true) :
    (discard (Builder.add parent node)).Leaves middle
      (fun _ later => tree.child? parent command = none ∧ Taken tree parent (command :: names) later)
      (fun later => tree.child? parent command ≠ none ∧ Taken tree parent names later) := by
  have stored : parent < middle.size := Nat.lt_trans bound known.size
  have admits_iff : middle.Admits parent node.selector? ↔ tree.child? parent command = none := by
    rw [named, Admits, known.spared command unlike]
    exact and_iff_right word
  apply Builder.Leaves.discard
  apply (leaves_add known.reachable stored node).mono
  · rintro _ later ⟨-, admits, grown, reachable⟩
    exact ⟨admits_iff.mp admits, known.grow bound grown reachable named⟩
  · rintro later ⟨taken, rfl⟩
    exact ⟨mt admits_iff.mpr taken, known⟩

theorem child?_of_childless {id : NodeId} (childless : (tree.node id).children = [])
    (word : String) : tree.child? id word = none := by
  rw [child?, childless, List.find?_nil]

theorem leaves_installCapture (reachable : tree.Reachable) (bound : parent < tree.size)
    (named : node.selector? = some command) (word : isWord command = true)
    (free : tree.child? parent command = none) :
    (Commands.installCapture parent node endWord).Leaves tree
      (fun menu later => menu = tree.size ∧ isWord endWord = true ∧
        Taken tree parent [command] later)
      (fun later => isWord endWord = false ∧ Taken tree parent [command] later) := by
  have other : parent ≠ tree.size := Nat.ne_of_lt bound
  refine .bind ((leaves_add reachable bound node).mono (fun _ _ known => known) ?_) ?_
  · rintro later ⟨refused, -⟩
    rw [named] at refused
    exact absurd ⟨word, free⟩ refused
  rintro menu first ⟨rfl, -, menuGrown, firstReachable⟩
  have taken := taken_of_grown menuGrown reachable.forest firstReachable bound named
  have childless : (first.node tree.size).children = [] := by
    rw [menuGrown.new]
    rfl
  have admits_iff : first.Admits tree.size (some endWord) ↔ isWord endWord = true :=
    and_iff_left (child?_of_childless childless endWord)
  have keyword : (discard (Builder.add tree.size
      ((Node.leaf endWord fun _ => .done .quit).withHelp "Finishes recording."))).Leaves first
      (fun _ second => isWord endWord = true ∧ Taken tree parent [command] second ∧
        (second.node tree.size).defaultChild? = none)
      (fun second => isWord endWord = false ∧ Taken tree parent [command] second) := by
    apply Builder.Leaves.discard
    apply (leaves_add firstReachable taken.size _).mono
    · rintro _ second ⟨-, admits, keywordGrown, secondReachable⟩
      refine ⟨admits_iff.mp admits, taken.elsewhere bound keywordGrown secondReachable other, ?_⟩
      rw [keywordGrown.upper, menuGrown.new]
      rfl
    · rintro second ⟨refused, rfl⟩
      exact ⟨Bool.eq_false_iff.mpr (mt admits_iff.mpr refused), taken⟩
  refine .bind keyword ?_
  rintro _ second ⟨endIsWord, taken, vacant⟩
  have sink : (discard (Builder.add tree.size
      (Node.defaultItem fun line => .andThen (.note tree.size line) (.done .normal)))).Leaves second
      (fun _ third => Taken tree parent [command] third)
      (fun third => isWord endWord = false ∧ Taken tree parent [command] third) := by
    apply Builder.Leaves.discard
    apply (leaves_add taken.reachable taken.size _).mono
    · rintro _ third ⟨-, -, sinkGrown, thirdReachable⟩
      exact taken.elsewhere bound sinkGrown thirdReachable other
    · rintro third ⟨refused, -⟩
      exact absurd vacant refused
  exact .bind sink fun _ third taken => .pure ⟨rfl, endIsWord, taken⟩

theorem installCapture_taken (forest : tree.Forest) (bound : parent < tree.size)
    (named : node.selector? = some command) (word : isWord command = true)
    (taken : tree.child? parent command ≠ none) :
    (Commands.installCapture parent node endWord).build tree =
      (.error (.duplicateSelector command), tree) := by
  have refused : (Builder.add parent node).build tree =
      (.error (.duplicateSelector command), tree) := add_taken forest bound named word taken
  rw [Commands.installCapture, Builder.build_bind, refused]

theorem leaves_addMenu (reachable : tree.Reachable) (bound : parent < tree.size)
    (node : Node (Action Host)) :
    (Commands.addMenu parent node).Leaves tree
      (fun _ _ => tree.Admits parent node.selector?)
      (fun later => ¬ tree.Admits parent node.selector? ∧ later = tree) := by
  refine .bind (leaves_add reachable bound node) ?_
  rintro menu first ⟨rfl, admits, menuGrown, firstReachable⟩
  have stored : tree.size < first.size := by simp [menuGrown.size]
  have childless : (first.node tree.size).children = [] := by
    rw [menuGrown.new]
    rfl
  have help : (discard (Builder.add tree.size (Commands.helpNode tree.size))).Leaves first
      (fun _ second => tree.size < second.size ∧ second.Reachable ∧
        second.child? tree.size "quit" = none)
      (fun later => ¬ tree.Admits parent node.selector? ∧ later = tree) := by
    apply Builder.Leaves.discard
    apply (leaves_add firstReachable stored _).mono
    · rintro _ second ⟨-, -, grown, secondReachable⟩
      refine ⟨by simp [grown.size, Nat.lt_succ_of_lt stored], secondReachable, ?_⟩
      have unlike : ∀ mode, Comparison.same mode "help" "quit" = false := by
        intro mode
        cases mode <;> decide
      exact (grown.spared firstReachable.forest secondReachable.forest stored rfl unlike).mpr
        (child?_of_childless childless "quit")
    · rintro later ⟨refused, -⟩
      exact absurd ⟨by decide, child?_of_childless childless "help"⟩ refused
  have quit (second : Tree (Action Host)) (stored : tree.size < second.size)
      (secondReachable : second.Reachable) (free : second.child? tree.size "quit" = none) :
      (discard (Builder.add tree.size Commands.quitNode)).Leaves second
        (fun _ _ => tree.Admits parent node.selector?)
        (fun later => ¬ tree.Admits parent node.selector? ∧ later = tree) := by
    apply Builder.Leaves.discard
    apply (leaves_add secondReachable stored _).mono
    · exact fun _ _ _ => admits
    · rintro later ⟨refused, -⟩
      exact absurd ⟨by decide, free⟩ refused
  refine .bind (.bind help ?_) fun _ _ holds => .pure holds
  rintro _ second ⟨stored, secondReachable, free⟩
  exact quit second stored secondReachable free

theorem leaves_installIf (reachable : tree.Reachable) (bound : parent < tree.size) :
    (Commands.installIf parent).Leaves tree (fun _ _ => tree.child? parent "if" = none)
      (fun later => tree.child? parent "if" ≠ none ∧ later = tree) := by
  apply Builder.Leaves.discard
  apply (leaves_add reachable bound _).mono
  · rintro _ later ⟨-, admits, -⟩
    exact admits.2
  · rintro later ⟨refused, same⟩
    exact ⟨fun free => refused ⟨by decide, free⟩, same⟩

end Tree

namespace Capture

variable {Host : Type} {tree : Tree (Action Host)} {parent : NodeId} {settings : Settings}

def companions : Capture → List String
  | procedure =>
    [Commands.callSpec.command, Commands.returnSpec.command, Commands.gotoSpec.command]
  | record => [Commands.replaySpec.command]

/-- Once the capturing command has been hung, nothing is left that can stop the rest. -/
structure Completes (capture : Capture) (settings : Settings) (tree : Tree (Action Host))
    (parent : NodeId) : Prop where
  word : Tree.isWord (capture.endWord settings) = true
  free : ∀ name ∈ capture.companions, tree.child? parent name = none

def Strands (capture : Capture) (settings : Settings) (tree : Tree (Action Host))
    (parent : NodeId) (later : Tree (Action Host)) : Prop :=
  ¬ capture.Completes settings tree parent ∧
    ∃ names, capture.spec.command ∈ names ∧ tree.Taken parent names later

theorem leaves_menu (capture : Capture) (settings : Settings) (reachable : tree.Reachable)
    (bound : parent < tree.size) (free : tree.child? parent capture.spec.command = none)
    {node : Node (Action Host)} (named : node.selector? = some capture.spec.command) :
    (Commands.installCapture parent node (capture.endWord settings)).Leaves tree
      (fun menu later => menu < later.size ∧ Tree.isWord (capture.endWord settings) = true ∧
        tree.Taken parent [capture.spec.command] later)
      (capture.Strands settings tree parent) := by
  have word : Tree.isWord capture.spec.command = true := by cases capture <;> decide
  apply (Tree.leaves_installCapture reachable bound named word free).mono
  · rintro menu later ⟨rfl, endIsWord, taken⟩
    exact ⟨taken.size, endIsWord, taken⟩
  · rintro later ⟨blank, taken⟩
    refine ⟨?_, _, List.mem_singleton_self _, taken⟩
    intro completes
    simp [completes.word] at blank

theorem leaves_companion (capture : Capture) {middle : Tree (Action Host)} {names : List String}
    {node : Node (Action Host)} {name : String}
    (known : tree.Taken parent names middle) (bound : parent < tree.size)
    (member : capture.spec.command ∈ names) (belongs : name ∈ capture.companions)
    (named : node.selector? = some name) (word : Tree.isWord name = true)
    (unlike : Tree.isUnlike names name = true) :
    (discard (Builder.add parent node)).Leaves middle
      (fun _ later => tree.child? parent name = none ∧ tree.Taken parent (name :: names) later)
      (capture.Strands settings tree parent) := by
  apply (known.companion bound named word unlike).mono
  · exact fun _ _ holds => holds
  · rintro later ⟨taken, stays⟩
    exact ⟨fun completes => taken (completes.free name belongs), names, member, stays⟩

theorem leaves_install (capture : Capture) (settings : Settings) (reachable : tree.Reachable)
    (bound : parent < tree.size) (free : tree.child? parent capture.spec.command = none) :
    (capture.install settings parent).Leaves tree
      (fun _ _ => capture.Completes settings tree parent)
      (capture.Strands settings tree parent) := by
  have stays {menu : NodeId} {middle : Tree (Action Host)} {names : List String}
      (known : tree.Taken parent names middle) (stored : menu < middle.size)
      (action : Action Host) : (Builder.setAction menu action).Leaves middle
        (fun _ later => tree.Taken parent names later) (capture.Strands settings tree parent) :=
    (known.setAction stored action).mono (fun _ _ holds => holds) fun _ => False.elim
  cases capture with
  | procedure =>
      refine .bind (leaves_menu .procedure settings reachable bound free rfl) ?_
      rintro menu first ⟨stored, word, known⟩
      refine .bind (stays known stored _) ?_
      intro _ second known
      refine .bind (leaves_companion .procedure known bound (by simp) (by decide) rfl (by decide)
        (by decide)) ?_
      rintro _ third ⟨call, known⟩
      refine .bind (leaves_companion .procedure known bound (by simp) (by decide) rfl (by decide)
        (by decide)) ?_
      rintro _ fourth ⟨leave, known⟩
      apply (leaves_companion .procedure known bound (by simp) (by decide) rfl (by decide)
        (by decide)).mono
      · rintro _ later ⟨jump, -⟩
        exact ⟨word, by simp only [companions, List.forall_mem_cons]; simp [call, leave, jump]⟩
      · exact fun _ strands => strands
  | record =>
      refine .bind (leaves_menu .record settings reachable bound free rfl) ?_
      rintro menu first ⟨stored, word, known⟩
      refine .bind (stays known stored _) ?_
      intro _ second known
      apply (leaves_companion .record known bound (by simp) (by decide) rfl (by decide)
        (by decide)).mono
      · rintro _ later ⟨replay, -⟩
        exact ⟨word, by simp only [companions, List.forall_mem_cons]; simp [replay]⟩
      · exact fun _ strands => strands

theorem install_taken (capture : Capture) (settings : Settings) (forest : tree.Forest)
    (bound : parent < tree.size) (taken : tree.child? parent capture.spec.command ≠ none) :
    (capture.install settings parent).build tree =
      (.error (.duplicateSelector capture.spec.command), tree) := by
  cases capture with
  | procedure =>
      rw [install, Commands.installProcedures, Builder.build_bind,
        Tree.installCapture_taken forest bound rfl (by decide) taken]
  | record =>
      rw [install, Commands.installRecording, Builder.build_bind,
        Tree.installCapture_taken forest bound rfl (by decide) taken]

end Capture

namespace Tree

variable {Host : Type} {tree : Tree (Action Host)} {parent : NodeId}

/-- A menu and the command `if` are installed as a whole or not at all, and so is a capturing command
whose own name is taken. If that is free, it is hung before it turns out whether the end keyword is a
word and the names of its companions are free; if they are not, it stays, and no other try succeeds. -/
theorem captures_stay_halfway (reachable : tree.Reachable) (bound : parent < tree.size) :
    (∀ node : Node (Action Host), ((Commands.addMenu parent node).build tree).1.isOk = false →
      ((Commands.addMenu parent node).build tree).2 = tree) ∧
    (((Commands.installIf parent).build tree).1.isOk = false →
      ((Commands.installIf parent).build tree).2 = tree) ∧
    ∀ (capture : Capture) (settings : Settings),
      let command := capture.spec.command
      let installed := (capture.install settings parent).build tree
      (tree.child? parent command ≠ none →
        installed = (.error (.duplicateSelector command), tree)) ∧
      (tree.child? parent command = none →
        (installed.1.isOk = true ↔ capture.Completes settings tree parent) ∧
        (installed.1.isOk = false → installed.2 ≠ tree ∧
          (capture.install settings parent).build installed.2 =
            (.error (.duplicateSelector command), installed.2))) := by
  refine ⟨?_, ?_, ?_⟩
  · intro node failed
    exact ((leaves_addMenu reachable bound node).2 failed).2
  · intro failed
    exact ((leaves_installIf reachable bound).2 failed).2
  · intro capture settings command installed
    refine ⟨capture.install_taken settings reachable.forest bound, ?_⟩
    intro free
    obtain ⟨done, stuck⟩ := capture.leaves_install settings reachable bound free
    refine ⟨⟨?_, ?_⟩, ?_⟩
    · intro succeeded
      cases result : ((capture.install settings parent).build tree).1 with
      | ok value => exact done value result
      | error error => simp [installed, result, Except.isOk, Except.toBool] at succeeded
    · intro completes
      by_contra failed
      exact (stuck (Bool.eq_false_iff.mpr failed)).1 completes
    · intro failed
      obtain ⟨-, names, member, known⟩ := stuck failed
      have taken := known.taken command member
      refine ⟨?_, ?_⟩
      · intro same
        have unchanged : ((capture.install settings parent).build tree).2 = tree := same
        rw [unchanged] at taken
        exact taken free
      · exact capture.install_taken settings known.reachable.forest
          (Nat.lt_trans bound known.size) taken

theorem proc_stays_where_call_is_taken :
    let leaf : Node (Action Unit) := .leaf "call" fun _ => .done .normal
    let tree := (empty .insensitive : Tree (Action Unit)).applyAll [.add 0 leaf]
    let installed := (Commands.installProcedures {} 0).build tree
    let again := (Commands.installProcedures {} 0).build (installed.2.detach 1).2
    tree.Reachable ∧ installed.1.isOk = false ∧ installed.2 ≠ tree ∧
      tree.visibleChildren 0 = [1] ∧ installed.2.visibleChildren 0 = [1, 2] ∧
      installed.2.selector 2 = "proc" ∧ again.1.isOk = false := by
  intro leaf tree installed again
  refine ⟨⟨.insensitive, Reaches.refl.applyAll (by decide)⟩, by decide, ?_, by decide, by decide,
    by decide, by decide⟩
  intro same
  have sizes : installed.2.size = tree.size := congrArg size same
  exact absurd sizes (by decide)

theorem captures_stay_halfway_of_two_words :
    let tree : Tree (Action Unit) := empty .sensitive
    let settings : Settings := { endRecord := "end record" }
    let installed := (Commands.installRecording settings 0).build tree
    tree.child? 0 "record" = none ∧ installed.1.isOk = false ∧
      (installed.2.node 1).action?.isNone ∧ installed.2 ≠ tree ∧
      (Commands.installRecording settings 0).build installed.2 =
        (.error (.duplicateSelector "record"), installed.2) := by
  intro tree settings installed
  have reachable : tree.Reachable := ⟨.sensitive, .refl⟩
  obtain ⟨-, -, captures⟩ := captures_stay_halfway reachable (show 0 < tree.size by decide)
  have free : tree.child? 0 "record" = none := by decide
  have failed : installed.1.isOk = false := by decide
  exact ⟨free, failed, by decide, ((captures .record settings).2 free).2 failed⟩

end Tree

end MenuShell

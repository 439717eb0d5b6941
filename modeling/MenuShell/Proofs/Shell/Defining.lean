import MenuShell.Proofs.Input.Requests
import MenuShell.Proofs.Procedure.Body
import MenuShell.Proofs.Shell.Capturing
import MenuShell.Proofs.Shell.Conduct

/-!
Defining a procedure and calling it. What is typed after `proc` and a name is known under that name
for good; a call gives its commands before anything that was there to be read, and a jump within the
call goes on with the commands at and behind the last declaration of the label.
-/

namespace MenuShell

def Text.Invokes (line command name : String) : Prop :=
  (splitFirstWord line).1 = command ∧ words (splitFirstWord line).2 = [name]

def ArgumentSpec.IsPlain (word : String) : Prop :=
  isHelp word = false ∧ isDashed word = false

instance (line command name : String) : Decidable (Text.Invokes line command name) :=
  inferInstanceAs (Decidable (_ ∧ _))

instance (word : String) : Decidable (ArgumentSpec.IsPlain word) :=
  inferInstanceAs (Decidable (_ ∧ _))

theorem ArgumentSpec.parse_plain {spec : ArgumentSpec} {positional : PositionalSpec} {word : String}
    (plain : IsPlain word) (one : spec.positionals = [positional]) :
    spec.parse [word] = .ok { positionals := [word] } := by
  obtain ⟨helpless, undashed⟩ := plain
  simp [parse, readWords, helpless, undashed, takePositional, nextPositional?, one, missing]

theorem Text.visible_of_splitFirstWord {line : String} (some : (splitFirstWord line).1 ≠ "") :
    isBlank line = false := by
  rw [← Bool.not_eq_true, isBlank_iff_trim]
  intro none
  rw [← splitFirstWord_trim, none] at some
  exact some rfl

theorem nonBlank_cons {line : String} (visible : Text.isBlank line = false) (lines : List String) :
    nonBlank (line :: lines) = line :: nonBlank lines := by
  simp [nonBlank, visible]

namespace Tree

variable {Host : Type} {tree middle next later : Tree (Action Host)} {parent outer : NodeId}
  {word : String}

/-- In the menu, lines that begin with the word lead to a command that does this. -/
def Knows (tree : Tree (Action Host)) (outer : NodeId) (word : String) (action : Action Host) :
    Prop :=
  ∃ id, (tree.node id).action? = some action ∧
    ∀ line rest, Text.splitFirstWord line = (word, rest) →
      tree.dispatchRoute? outer line = some (.act id rest)

structure Defines (tree : Tree (Action Host)) (outer menu stop sink : NodeId) (endWord : String) :
    Prop where
  captures : tree.Captures .procedure menu stop sink endWord
  proc : ∀ line rest, Text.splitFirstWord line = ("proc", rest) →
    tree.dispatchRoute? outer line = some (.act menu rest)
  call : tree.Knows outer "call" (Script.withArguments Commands.callSpec Commands.runCall)
  goto : tree.Knows outer "goto" (Script.withArguments Commands.gotoSpec Commands.runGoto)

theorem knows_of_grown {node : Node (Action Host)} {action : Action Host}
    (bound : parent < middle.size) (grown : Grown middle parent node next)
    (below : GrownBelow next parent later) (reachable : later.Reachable)
    (connected : root ∈ later.lineage parent) (named : node.selector? = some word)
    (shown : node.switch? = none) (acts : node.action? = some action) :
    later.Knows parent word action := by
  have size := grown.size
  have known : later.node middle.size = { node.unlinked with parent? := some parent } := by
    rw [below.others _ (by omega) (Nat.ne_of_gt bound), grown.new]
  have action : (later.node middle.size).action? = some action := by rw [known]; exact acts
  refine ⟨middle.size, action, ?_⟩
  intro line rest split
  exact route_of_selector reachable connected (by rw [known]; exact named)
    (by rw [known]; exact shown) (by rw [known]) (by simp [action]) split

theorem knows_of_added {spec : ArgumentSpec} {help : String} {run : Arguments → Script Host}
    (bound : parent < middle.size) (grown : Grown middle parent (Node.ofSpec spec help run) next)
    (below : GrownBelow next parent later) (reachable : later.Reachable)
    (connected : root ∈ later.lineage parent) :
    later.Knows parent spec.command (Script.withArguments spec run) :=
  knows_of_grown bound grown below reachable connected rfl rfl rfl

theorem installProcedures_ok {settings : Settings} (reachable : tree.Reachable)
    (bound : parent < tree.size) (connected : root ∈ later.lineage parent)
    (built : (Commands.installProcedures settings parent).build tree = (.ok (), later)) :
    ∃ menu stop sink, later.Defines parent menu stop sink settings.endProc := by
  obtain ⟨laterReachable, captures, named, shown, hung⟩ :=
    @install_ok _ _ _ _ .procedure _ reachable bound built
  have acts : (later.node tree.size).action?.isSome := by simp [captures.action]
  have proc : ∀ line rest, Text.splitFirstWord line = ("proc", rest) →
      later.dispatchRoute? parent line = some (.act tree.size rest) :=
    fun _ _ split => route_of_selector laterReachable connected named shown hung acts split
  obtain ⟨_, first, captured, built⟩ := Builder.bind_ok built
  obtain ⟨rfl, laid⟩ := installCapture_ok reachable bound captured
  obtain ⟨_, second, acted, built⟩ := Builder.bind_ok built
  obtain ⟨-, rfl⟩ := Prod.mk.inj acted
  obtain ⟨secondReachable, secondBound⟩ := laid.capturing_ok bound .procedure
  obtain ⟨_, third, call, built⟩ := Builder.bind_ok built
  obtain ⟨callGrown, thirdReachable⟩ := add_discard_ok secondReachable secondBound call
  have thirdBound := Nat.lt_of_lt_of_le secondBound callGrown.below.size
  obtain ⟨_, fourth, leave, goto⟩ := Builder.bind_ok built
  obtain ⟨leaveGrown, fourthReachable⟩ := add_discard_ok thirdReachable thirdBound leave
  have fourthBound := Nat.lt_of_lt_of_le thirdBound leaveGrown.below.size
  obtain ⟨gotoGrown, -⟩ := add_discard_ok fourthReachable fourthBound goto
  refine ⟨_, _, _, captures, proc, ?_, ?_⟩
  · exact knows_of_added secondBound callGrown (leaveGrown.below.trans gotoGrown.below)
      laterReachable connected
  · exact knows_of_added fourthBound gotoGrown (GrownBelow.refl _ _) laterReachable connected

end Tree

theorem ProcedureStore.get?_record {store later : ProcedureStore} {name other : String}
    {lines : List String} {body : Procedure} (stored : store.record name lines = .ok later)
    (known : store.get? other = some body) : later.get? other = some body := by
  unfold record at stored
  split at stored
  · contradiction
  · split at stored
    · contradiction
    · rename_i unknown
      cases stored
      have different : other ≠ name := by
        rintro rfl
        simp [known] at unknown
      rw [get?, List.lookup_cons, beq_false_of_ne different]
      exact known

theorem ProcedureStore.record_new {store : ProcedureStore} {name : String} (named : name ≠ "")
    (unknown : store.get? name = none) (lines : List String) :
    ∃ later, store.record name lines = .ok later ∧
      later.get? name = some (Procedure.parse store.marker lines) ∧
      ∀ other ≠ name, later.get? other = store.get? other := by
  refine ⟨{ store with
    procedures := (name, Procedure.parse store.marker lines) :: store.procedures }, ?_, ?_, ?_⟩
  · simp [record, named, unknown]
  · simp [get?]
  · intro other different
    rw [get?, List.lookup_cons, beq_false_of_ne different]
    rfl

theorem ProcedureStore.record_duplicate {store : ProcedureStore} {name : String} {body : Procedure}
    (named : name ≠ "") (known : store.get? name = some body) (lines : List String) :
    store.record name lines = .error (.duplicateProcedure name) := by
  simp [record, named, known]

namespace Shell

open Procedure (lines_ofTyped given_commands)

variable {Host : Type} {shell final : Shell Host} {task sub : Task Host} {name : String}
  {body : Procedure}

def anything : Conduct Host where
  allows _ := True
  enters _ := True
  bears _ := True

theorem keeps_anything : ∀ script : Script Host, anything.Keeps script
  | .done signal => .done signal
  | .fail _ => .fail trivial
  | .consult next => .consult fun host => keeps_anything (next host)
  | .remember _ next => .remember (keeps_anything next)
  | .perform _ next =>
    .perform trivial (fun value => keeps_anything (next (.ok value)))
      fun failure _ => keeps_anything (next (.error failure))
  | .visit _ next =>
    .visit trivial (fun signal => keeps_anything (next (.ok signal)))
      fun failure _ => keeps_anything (next (.error failure))

theorem admits_anything : ∀ task : Task Host, anything.Admits task
  | .visit _ | .loop _ => trivial
  | .script script => keeps_anything script

theorem guards_anything (name : String) (body : Procedure) :
    (anything : Conduct Host).Guards (fun shell => shell.procedures.get? name = some body)
      fun _ => False where
  dispatches _ _ := trivial
  same := by
    intro shell later known same
    rw [same]
    exact known
  behaves := fun _ _ _ => keeps_anything _
  bound _ _ _ := trivial
  asks := by
    intro shell step asked known next
    refine ⟨?_, fun _ _ => trivial⟩
    rcases next_cases next with rfl | ⟨text, rfl⟩ <;> exact known
  serves := by
    intro shell answer request known _
    refine .inr ⟨?_, fun _ _ => trivial⟩
    have effect := effect_serve shell request
    generalize (shell.serve request).2 = served at effect
    cases effect with
    | defined stored => exact ProcedureStore.get?_record stored known
    | recorded records =>
        obtain ⟨source, kept⟩ := shell.keepRecords_cases records
        rw [kept]
        exact known
    | _ => exact known

theorem Comes.get?_procedure {loops : List Opened} (points : Comes task shell loops sub final)
    (known : shell.procedures.get? name = some body) :
    final.procedures.get? name = some body := by
  rcases (guards_anything name body).comes points known (admits_anything task) with
    ⟨_, _, _, -, wrong⟩ | good
  · exact wrong.elim
  · exact good.1

/-! ### Lines at work -/

variable {outer menu stop sink : NodeId} {endWord line entry last label : String}
  {lines before behind : List String} {later : InputStack} {post : Shell Host → Prop}

theorem loop_goes_on (gives : shell.input.Gives (line :: lines) later)
    (dispatches : ∀ asked, asked.input.Gives lines later → SameButReading asked shell →
      ∃ after, post after ∧
        Ends (.visit (.dispatch outer (Text.trim line))) asked (.ok .normal, after)) :
    ∃ after, post after ∧
      ∀ outcome, Ends (.loop outer) shell outcome ↔ Ends (.loop outer) after outcome := by
  obtain ⟨asked, left, same, -, loop⟩ := loop_reads gives
  obtain ⟨after, known, dispatched⟩ := dispatches asked left same
  refine ⟨after, known, fun outcome => ?_⟩
  exact (loop outer outcome).trans dispatched.exists_and_iff

def texts (shell : Shell Host) : List String :=
  shell.transcript.toList.filterMap fun
    | .wrote text => some text
    | _ => none

theorem splitFirstWord_of_invokes {command : String} (invokes : Text.Invokes line command name) :
    Text.splitFirstWord (Text.trim line) = (command, (Text.splitFirstWord line).2) := by
  rw [Text.splitFirstWord_trim, ← invokes.1]

theorem dispatch_invoked {spec : ArgumentSpec} {positional : PositionalSpec}
    {run : Arguments → Script Host}
    (knows : shell.tree.Knows outer spec.command (Script.withArguments spec run))
    (invokes : Text.Invokes line spec.command name) (plain : ArgumentSpec.IsPlain name)
    (one : spec.positionals = [positional]) :
    ∃ begun, begun.input = shell.input ∧ SameButReading begun shell ∧
      ∀ outcome, Ends (.script (run { positionals := [name] })) begun outcome →
        Ends (.visit (.dispatch outer (Text.trim line))) shell (absorb outcome) := by
  obtain ⟨id, acts, routes⟩ := knows
  have route := routes _ _ (splitFirstWord_of_invokes invokes)
  let started := shell.note (.dispatched outer (Text.trim line))
  let begun := started.note (.acted id (Text.splitFirstWord line).2)
  refine ⟨begun, rfl, rfl, fun outcome ends => ?_⟩
  refine ((Leads.dispatch route).ends_act acts).mpr ⟨_, ?_, rfl⟩
  rw [Script.withArguments, invokes.2, ArgumentSpec.parse_plain plain one]
  exact ends

theorem dispatch_request {spec : ArgumentSpec} {positional : PositionalSpec}
    {run : Arguments → Script Host} {request : Request (Action Host) .nothing}
    (knows : shell.tree.Knows outer spec.command (Script.withArguments spec run))
    (invokes : Text.Invokes line spec.command name) (plain : ArgumentSpec.IsPlain name)
    (one : spec.positionals = [positional])
    (asks : run { positionals := [name] } = .andThen request (.done .normal)) :
    ∃ begun, begun.input = shell.input ∧ SameButReading begun shell ∧
      Ends (.visit (.dispatch outer (Text.trim line))) shell
        (absorb ((begun.serve request).1.map fun _ => .normal, (begun.serve request).2)) := by
  obtain ⟨begun, input, same, dispatched⟩ := dispatch_invoked knows invokes plain one
  refine ⟨begun, input, same, dispatched _ ?_⟩
  rw [asks, ends_andThen_done]

theorem delivers_call {procedures : ProcedureStore} (known : procedures.get? name = some body)
    (input : InputStack) :
    ∃ running, procedures.call name = .ok running ∧
      (input.pushCall running).Delivers (given body.lines) input := by
  let running : Call := { name, procedure := body }
  have made : procedures.call name = .ok running := by simp [ProcedureStore.call, known, running]
  refine ⟨running, made, ?_⟩
  have idle : running.Idle := (Call.Asked.fresh made).idle
  have answers : (Frame.call running).answers = given body.lines :=
    Frame.Settled.answers_eq (show (Frame.call running).Settled from idle)
  rw [← answers]
  exact InputStack.delivers_frame (Frame.finite_call running) input.frames input.source

theorem delivers_jump {marker : Char} {above : List (List String)} {running : Call}
    {below : List Frame} {source : Source} (asked : running.Asked) (named : label ≠ "")
    (body : running.procedure = Procedure.parse marker (before ++ line :: behind))
    (declares : Procedure.declared? marker line = some label)
    (final : ∀ other ∈ behind, Procedure.declared? marker other ≠ some label) :
    (InputStack.around above (running.requestJump label) below source).Delivers
      (given above.flatten ++ given ((line :: behind).filterMap (Procedure.command? marker)))
      { frames := below, source } := by
  obtain ⟨index, place, rest⟩ := Procedure.parse_from_label named declares final
  have settled : (Frame.call (running.requestJump label)).answers =
      given (running.procedure.lines.drop index) := by
    have heeded := asked.idle.answers_heedAll [.jump label]
    rw [← body] at place
    simpa [Call.heedAll, Call.heed, Call.aftermath, Demand.label?, place] using heeded
  rw [← rest, ← body, ← settled]
  exact InputStack.delivers_around above _ below source

theorem requestJump_around (above : List (List String)) (running : Call) (below : List Frame)
    (source : Source) (label : String) :
    (InputStack.around above running below source).requestJump label =
      .ok (InputStack.around above (running.requestJump label) below source) := by
  rw [InputStack.requestJump, InputStack.requestOfCall, InputStack.around,
    InputStack.onInnermostCall?_lines]
  rfl

theorem dispatch_capture {capture : Capture}
    (captures : shell.tree.Captures capture menu stop sink endWord)
    (routes : ∀ line rest, Text.splitFirstWord line = (capture.spec.command, rest) →
      shell.tree.dispatchRoute? outer line = some (.act menu rest))
    (invokes : Text.Invokes entry capture.spec.command name) (plain : ArgumentSpec.IsPlain name)
    (gives : shell.input.Gives (lines ++ [last]) later)
    (data : ∀ line ∈ lines,
      (shell.tree.comparison menu).begins endWord (Text.splitFirstWord line).1 = false)
    (ended : Text.trim last = endWord) :
    ∃ collected, collected.input = later ∧ SameButReading collected shell ∧
      Ends (.visit (.dispatch outer (Text.trim entry))) shell
        (.ok .normal, capture.keep collected name (lines.map Text.trim)) := by
  have named : name ≠ "" := Text.ne_empty_of_mem_words (invokes.2 ▸ List.mem_singleton_self name)
  have keyword : (Text.splitFirstWord last).1 = endWord := by
    rw [← Text.splitFirstWord_trim, ended, Text.fst_splitFirstWord_of_isWord captures.word]
  have ends : (shell.tree.comparison menu).begins endWord (Text.splitFirstWord last).1 = true := by
    rw [keyword]
    exact Comparison.begins_of_same (Tree.same_self _ _)
  have knows : shell.tree.Knows outer capture.spec.command
      (Script.withArguments capture.spec (capture.run menu)) := ⟨menu, captures.action, routes⟩
  obtain ⟨positional, one⟩ : ∃ positional, capture.spec.positionals = [positional] := by
    cases capture <;> exact ⟨_, rfl⟩
  obtain ⟨begun, input, sameBegun, dispatched⟩ := dispatch_invoked knows invokes plain one
  rw [← sameBegun.tree_eq] at captures data ends
  rw [← input] at gives
  obtain ⟨collected, left, same, script⟩ := ends_run captures gives data ends
  refine ⟨collected, left, same.trans sameBegun, ?_⟩
  rw [← absorb_serve named collected (lines.map Text.trim) capture]
  exact dispatched _ ((script _).mpr ((ends_andThen_done _ _ _).mpr rfl))

theorem loop_capture {capture : Capture}
    (captures : shell.tree.Captures capture menu stop sink endWord)
    (routes : ∀ line rest, Text.splitFirstWord line = (capture.spec.command, rest) →
      shell.tree.dispatchRoute? outer line = some (.act menu rest))
    (invokes : Text.Invokes entry capture.spec.command name) (plain : ArgumentSpec.IsPlain name)
    (gives : shell.input.Gives (nonBlank (entry :: lines ++ [last])) later)
    (data : ∀ line ∈ nonBlank lines,
      (shell.tree.comparison menu).begins endWord (Text.splitFirstWord line).1 = false)
    (ended : Text.trim last = endWord) :
    ∃ collected, collected.input = later ∧ SameButReading collected shell ∧
      ∀ outcome, Ends (.loop outer) shell outcome ↔ Ends (.loop outer)
        (capture.keep collected name ((nonBlank lines).map Text.trim)) outcome := by
  have entryVisible : Text.isBlank entry = false := by
    apply Text.visible_of_splitFirstWord
    rw [invokes.1]
    cases capture <;> decide
  have lastVisible : Text.isBlank last = false := by
    rw [← Text.isBlank_trim, ended]
    apply Text.visible_of_splitFirstWord
    have word := captures.word
    rw [Text.fst_splitFirstWord_of_isWord word]
    rintro rfl
    simp [Tree.isWord] at word
  rw [List.cons_append, nonBlank_cons entryVisible, nonBlank_append, nonBlank_cons lastVisible,
    nonBlank_nil] at gives
  obtain ⟨asked, left, same, -, loop⟩ := loop_reads gives
  rw [← same.tree_eq] at captures routes data
  obtain ⟨collected, input, collectedSame, dispatched⟩ :=
    dispatch_capture captures routes invokes plain left data ended
  refine ⟨collected, input, collectedSame.trans same, fun outcome => ?_⟩
  exact (loop outer outcome).trans dispatched.exists_and_iff

theorem loop_proc (defines : shell.tree.Defines outer menu stop sink endWord)
    (invokes : Text.Invokes entry "proc" name) (plain : ArgumentSpec.IsPlain name)
    (gives : shell.input.Gives (nonBlank (entry :: lines ++ [last])) later)
    (data : ∀ line ∈ nonBlank lines,
      (shell.tree.comparison menu).begins endWord (Text.splitFirstWord line).1 = false)
    (ended : Text.trim last = endWord) :
    ∃ collected, collected.input = later ∧ SameButReading collected shell ∧
      ∀ outcome, Ends (.loop outer) shell outcome ↔ Ends (.loop outer)
        (Capture.procedure.keep collected name ((nonBlank lines).map Text.trim)) outcome :=
  loop_capture defines.captures defines.proc invokes plain gives data ended

theorem loop_call {marker : Char} (defines : shell.tree.Defines outer menu stop sink endWord)
    (invokes : Text.Invokes line "call" name) (plain : ArgumentSpec.IsPlain name)
    (known : shell.procedures.get? name = some (.ofTyped marker lines))
    (gives : shell.input.Gives [line] later) :
    ∃ called, (called.input.Delivers (Procedure.replies marker lines) later ∧
        SameButReading called shell) ∧
      ∀ outcome, Ends (.loop outer) shell outcome ↔ Ends (.loop outer) called outcome := by
  refine loop_goes_on gives fun asked left same => ?_
  cases left
  have asks : Commands.runCall { positionals := [name] } =
      (.andThen (.call name) (.done .normal) : Script Host) := rfl
  have knows := defines.call
  rw [← same.tree_eq] at knows
  obtain ⟨begun, input, begunSame, dispatched⟩ := dispatch_request knows invokes plain rfl asks
  have procedures : begun.procedures = shell.procedures := by rw [begunSame, same]
  rw [← procedures] at known
  obtain ⟨running, made, delivers⟩ := delivers_call known begun.input
  rw [lines_ofTyped, given_commands] at delivers
  simp only [serve, call, made, Except.map, update] at dispatched
  rw [← input]
  have sameCalled : SameButReading { begun with input := begun.input.pushCall running } begun := rfl
  exact ⟨_, ⟨delivers, (sameCalled.trans begunSame).trans same⟩, dispatched⟩

theorem loop_goto {marker : Char} {declaration : String} {above : List (List String)}
    {running : Call} {below : List Frame} {source : Source}
    (defines : shell.tree.Defines outer menu stop sink endWord)
    (invokes : Text.Invokes line "goto" label) (plain : ArgumentSpec.IsPlain label)
    (asked : running.Asked)
    (body : running.procedure = .ofTyped marker (before ++ declaration :: behind))
    (declares : Procedure.declared? marker (Text.trim declaration) = some label)
    (final : ∀ other ∈ behind, Procedure.declared? marker (Text.trim other) ≠ some label)
    (gives : shell.input.Gives [line] (.around above running below source)) :
    ∃ jumped, (jumped.input.Delivers
          (given above.flatten ++ Procedure.replies marker (declaration :: behind))
          { frames := below, source } ∧ SameButReading jumped shell) ∧
      ∀ outcome, Ends (.loop outer) shell outcome ↔ Ends (.loop outer) jumped outcome := by
  refine loop_goes_on gives fun started left same => ?_
  generalize stack : InputStack.around above running below source = input at left
  cases left
  have asks : Commands.runGoto { positionals := [label] } =
      (.andThen (.requestJump label) (.done .normal) : Script Host) := rfl
  have knows := defines.goto
  rw [← same.tree_eq] at knows
  obtain ⟨begun, input, begunSame, dispatched⟩ := dispatch_request knows invokes plain rfl asks
  have named : label ≠ "" :=
    Text.ne_empty_of_mem_words (invokes.2 ▸ List.mem_singleton_self label)
  have visible := Procedure.visible_of_declared declares
  have others : ∀ other ∈ (nonBlank behind).map Text.trim,
      Procedure.declared? marker other ≠ some label := by
    intro other member
    obtain ⟨raw, kept, rfl⟩ := List.mem_map.mp member
    exact final raw (List.mem_filter.mp kept).1
  rw [Procedure.ofTyped, nonBlank_append, nonBlank_cons visible, List.map_append, List.map_cons]
    at body
  have delivers : (InputStack.around above (running.requestJump label) below source).Delivers _ _ :=
    delivers_jump asked named body declares others
  have commands : ((Text.trim declaration) :: (nonBlank behind).map Text.trim).filterMap
      (Procedure.command? marker) = Procedure.commands marker (declaration :: behind) := by
    rw [Procedure.commands, nonBlank_cons visible, List.map_cons]
  rw [commands, given_commands] at delivers
  have jumped := requestJump_around above running below source label
  rw [stack, ← input] at jumped
  simp only [serve, jumped, Except.map, update] at dispatched
  let left := InputStack.around above (running.requestJump label) below source
  have sameJumped : SameButReading { begun with input := left } begun := rfl
  exact ⟨_, ⟨delivers, (sameJumped.trans begunSame).trans same⟩, dispatched⟩

/-- What is typed between `proc` with a name and the end keyword is kept under the name for good,
unless the name is taken, which is reported. A call of it gives the commands on the lines, in order,
before anything that was there to be read; where a label is declared, a jump to it within the call
goes on with the commands at and behind its last declaration. -/
theorem procedures_deliver_their_commands {Host : Type} :
    (∀ (settings : Settings) (tree grown : Tree (Action Host)) (parent : NodeId),
      tree.Reachable → parent < tree.size → Tree.root ∈ grown.lineage parent →
      (Commands.installProcedures settings parent).build tree = (.ok (), grown) →
      ∃ menu stop sink, grown.Defines parent menu stop sink settings.endProc) ∧
    (∀ (shell : Shell Host) (outer menu stop sink : NodeId) (endWord name entry last : String)
      (lines : List String) (later : InputStack),
      shell.tree.Defines outer menu stop sink endWord →
      Text.Invokes entry "proc" name → ArgumentSpec.IsPlain name →
      shell.input.Gives (nonBlank (entry :: lines ++ [last])) later →
      (∀ line ∈ nonBlank lines,
        (shell.tree.comparison menu).begins endWord (Text.splitFirstWord line).1 = false) →
      Text.trim last = endWord →
      ∃ collected, collected.input = later ∧ SameButReading collected shell ∧
        (shell.procedures.get? name = none → ∃ procedures : ProcedureStore,
          procedures.get? name = some (.ofTyped shell.procedures.marker lines) ∧
          (∀ other ≠ name, procedures.get? other = shell.procedures.get? other) ∧
          ∀ outcome, Ends (.loop outer) shell outcome ↔
            Ends (.loop outer) { collected with procedures } outcome) ∧
        ∀ body, shell.procedures.get? name = some body →
          collected.procedures.get? name = some body ∧
          ∀ outcome, Ends (.loop outer) shell outcome ↔
            Ends (.loop outer) (collected.report (.duplicateProcedure name)) outcome) ∧
    (∀ (task sub : Task Host) (shell reached : Shell Host) (loops : List Opened) (name : String)
      (body : Procedure), Comes task shell loops sub reached →
      shell.procedures.get? name = some body → reached.procedures.get? name = some body) ∧
    (∀ (shell : Shell Host) (outer menu stop sink : NodeId) (endWord name line : String)
      (marker : Char) (lines : List String) (later : InputStack),
      shell.tree.Defines outer menu stop sink endWord →
      Text.Invokes line "call" name → ArgumentSpec.IsPlain name →
      shell.procedures.get? name = some (.ofTyped marker lines) →
      shell.input.Gives [line] later →
      ∃ called, (called.input.Delivers (Procedure.replies marker lines) later ∧
          SameButReading called shell) ∧
        ∀ outcome, Ends (.loop outer) shell outcome ↔ Ends (.loop outer) called outcome) ∧
    ∀ (shell : Shell Host) (outer menu stop sink : NodeId) (endWord label line declaration : String)
      (marker : Char) (before behind : List String) (above : List (List String)) (running : Call)
      (below : List Frame) (source : Source),
      shell.tree.Defines outer menu stop sink endWord →
      Text.Invokes line "goto" label → ArgumentSpec.IsPlain label →
      running.Asked → running.procedure = .ofTyped marker (before ++ declaration :: behind) →
      Procedure.declared? marker (Text.trim declaration) = some label →
      (∀ other ∈ behind, Procedure.declared? marker (Text.trim other) ≠ some label) →
      shell.input.Gives [line] (.around above running below source) →
      ∃ jumped, (jumped.input.Delivers
            (given above.flatten ++ Procedure.replies marker (declaration :: behind))
            { frames := below, source } ∧ SameButReading jumped shell) ∧
        ∀ outcome, Ends (.loop outer) shell outcome ↔ Ends (.loop outer) jumped outcome := by
  refine ⟨?_, ?_, ?_, ?_, ?_⟩
  · intro settings tree grown parent reachable bound connected built
    exact Tree.installProcedures_ok reachable bound connected built
  · intro shell outer menu stop sink endWord name entry last lines later defines invokes plain gives
      data ended
    have named : name ≠ "" := Text.ne_empty_of_mem_words (invokes.2 ▸ List.mem_singleton_self name)
    obtain ⟨collected, input, same, loop⟩ := loop_proc defines invokes plain gives data ended
    have stores : collected.procedures = shell.procedures := by rw [same]
    refine ⟨collected, input, same, ?_, ?_⟩
    · intro unknown
      rw [← stores] at unknown ⊢
      obtain ⟨procedures, stored, new, others⟩ :=
        ProcedureStore.record_new named unknown ((nonBlank lines).map Text.trim)
      refine ⟨procedures, new, others, fun outcome => ?_⟩
      rw [loop, Capture.keep, stored]
    · intro body known
      rw [← stores] at known
      have refused := ProcedureStore.record_duplicate named known ((nonBlank lines).map Text.trim)
      refine ⟨known, fun outcome => ?_⟩
      rw [loop, Capture.keep, refused]
  · intro task sub shell reached loops name body points known
    exact points.get?_procedure known
  · intro shell outer menu stop sink endWord name line marker lines later defines invokes plain
      known gives
    exact loop_call defines invokes plain known gives
  · intro shell outer menu stop sink endWord label line declaration marker before behind above
      running below source defines invokes plain asked body declares final gives
    exact loop_goto defines invokes plain asked body declares final gives

theorem procedures_deliver_their_commands_of_labels :
    let installed := (Commands.installProcedures {} 0).build (Tree.empty .insensitive)
    let lines := ["goto end", " ", ":start echo no", " :end  echo yes "]
    let shell : Shell Unit :=
      { tree := installed.2, input := {}, procedures := {}, conditions := [], prompts := {},
        settings := {}, records := .empty, notebooks := [], transcript := #[], host := () }
    let typing : Shell Unit :=
      { shell with
        input := { frames := [.lines ("proc p" :: lines), .lines ["endproc", "after"]] } }
    let calling : Shell Unit :=
      { shell with
        procedures := { procedures := [("p", .ofTyped ':' lines)] }
        input := { frames := [.lines ["call p", "after"]] } }
    let running : Call := { name := "p", procedure := .ofTyped ':' lines }
    let jumping : Shell Unit :=
      { shell with input := { frames := [.call running, .lines ["after"]] } }
    (∃ (collected : Shell Unit) (procedures : ProcedureStore),
      procedures.get? "p" = some (.ofTyped ':' lines) ∧
      ∀ outcome, Ends (.loop 0) typing outcome ↔
        Ends (.loop 0) { collected with procedures } outcome) ∧
    (∃ called : Shell Unit, called.input.Delivers
        [.ok (some "goto end"), .ok (some "echo no"), .ok (some "echo yes")]
        { frames := [.lines ["after"]] } ∧
      ∀ outcome, Ends (.loop 0) calling outcome ↔ Ends (.loop 0) called outcome) ∧
    ∃ jumped : Shell Unit,
      jumped.input.Delivers [.ok (some "echo yes")] { frames := [.lines ["after"]] } ∧
      ∀ outcome, Ends (.loop 0) jumping outcome ↔ Ends (.loop 0) jumped outcome := by
  intro installed lines shell typing calling running jumping
  obtain ⟨install, define, -, call, goto⟩ := @procedures_deliver_their_commands Unit
  obtain ⟨menu, stop, sink, defines⟩ := install {} (Tree.empty .insensitive) installed.2 0
    ⟨_, .refl⟩ (by decide) (by decide) rfl
  refine ⟨?_, ?_, ?_⟩
  · have settled : typing.input.Settled := by
      simp [InputStack.Settled, Frame.Settled, typing]
    have pending : typing.input.pending =
        nonBlank ("proc p" :: lines ++ ["endproc"]) ++ ["after"] := by decide
    obtain ⟨later, gives, -, -⟩ := InputStack.gives_of_pending settled pending
    have data (mode : Comparison) : ∀ line ∈ nonBlank lines,
        mode.begins "endproc" (Text.splitFirstWord line).1 = false := by
      cases mode <;> decide
    obtain ⟨collected, -, -, new, -⟩ := define typing 0 menu stop sink "endproc" "p" "proc p"
      "endproc" lines later defines (by decide) (by decide) gives (data _) (by decide)
    obtain ⟨procedures, known, -, loop⟩ := new rfl
    exact ⟨collected, procedures, known, loop⟩
  · have first : (calling.input.query none).outcome =
        (.ok (some "call p"), { frames := [.lines ["after"]] }) := rfl
    obtain ⟨called, ⟨delivers, -⟩, loop⟩ := call calling 0 menu stop sink "endproc" "p" "call p" ':'
      lines _ defines (by decide) (by decide) rfl (.line first (.nothing _))
    exact ⟨called, delivers, loop⟩
  · let asked : Call := { running with position := 1 }
    have drawn : (Frame.call running).draw = .line "goto end" (.call asked) := by decide
    have first : (jumping.input.query none).outcome =
        (.ok (some "goto end"), .around [] asked [.lines ["after"]] default) := rfl
    obtain ⟨jumped, ⟨delivers, -⟩, loop⟩ := goto jumping 0 menu stop sink "endproc" "end" "goto end"
      " :end  echo yes " ':' ["goto end", " ", ":start echo no"] [] [] asked [.lines ["after"]]
      default defines (by decide) (by decide) (.drawn drawn) rfl (by decide) (by simp)
      (.line first (.nothing _))
    exact ⟨jumped, delivers, loop⟩

end Shell

end MenuShell

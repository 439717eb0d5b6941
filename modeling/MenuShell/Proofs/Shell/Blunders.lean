import MenuShell.Proofs.Shell.Gathering

/-!
User errors. A line that is not understood, and a built-in command that is used wrongly or asked for
what is not there, write one message and change nothing else. A capture under a name that will not do
has read its lines when that is found out, and then it writes one message and changes nothing else; if
its menu has only what was installed, the lines are all that is gone, and no command gets them.
-/

namespace MenuShell

/-- The commands that fail if what they are told to use is not there, as installed in a menu. -/
inductive Commands.Builtin {Host : Type} (menu : NodeId) : Action Host → Prop
  | call : Builtin menu (Script.withArguments callSpec runCall)
  | leave : Builtin menu (Script.withArguments returnSpec fun _ =>
      .andThen .requestReturn (.done .normal))
  | goto : Builtin menu (Script.withArguments gotoSpec runGoto)
  | replay : Builtin menu (Script.withArguments replaySpec runReplay)
  | test : Builtin menu (runIf menu)

def Capture.Refuses {Host : Type} (shell : Shell Host) (name : String) (failure : Failure) :
    Capture → Prop
  | procedure =>
    shell.procedures.get? name ≠ none ∧ failure = .ofError (.duplicateProcedure name)
  | record => RecordName.check name = .error failure

namespace Shell

variable {Host : Type} {shell started later final : Shell Host} {visit : Visit}
  {id menu stop sink : NodeId} {line name endWord : String} {action : Action Host}
  {arguments : Arguments} {failure : Failure} {signal : Signal} {capture : Capture}

def OnlySays (shell : Shell Host) (visit : Visit) (text : String) : Prop :=
  ∃ final, Ends (.visit visit) shell (.ok .normal, final) ∧ Says shell final text

theorem absorb_error (user : failure.isProgrammingError = false) (shell : Shell Host) :
    absorb (.error failure, shell) = (.ok .normal, shell.writeLine failure.message) := by
  simp [absorb, user]

theorem failed_of_andThen {request : Request (Action Host) .nothing}
    (ends : Ends (.script (.andThen request (.done signal))) shell (.error failure, final)) :
    (shell.serve request).1 = .error failure ∧ (shell.serve request).2 = final := by
  rw [ends_andThen_done] at ends
  obtain ⟨result, rfl⟩ := Prod.mk.inj ends
  cases served : (shell.serve request).1 with
  | ok value => simp [served, Except.map] at result
  | error other => simpa [served, Except.map, eq_comm] using result

theorem failed_of_withArguments {spec : ArgumentSpec} {run : Arguments → Script Host}
    (ends : Ends (.script (Script.withArguments spec run line)) shell (.error failure, final)) :
    ∃ arguments, Ends (.script (run arguments)) shell (.error failure, final) := by
  unfold Script.withArguments at ends
  split at ends
  · exact ⟨_, ends⟩
  · obtain ⟨refused, -⟩ := failed_of_andThen ends
    simp [serve] at refused

theorem serve_update_failed {Error : Type} {wrap : Error → Failure}
    {result : Except Error (Shell Host)} (failed : (shell.update wrap result).1 = .error failure) :
    (shell.update wrap result).2 = shell := by
  cases result with
  | ok updated => simp [update] at failed
  | error error => rfl

theorem isProgrammingError_of_call
    (failed : (shell.update .ofError (shell.call name)).1 = .error failure) :
    failure.isProgrammingError = false := by
  unfold call ProcedureStore.call at failed
  split at failed
  · simp [Except.map, update] at failed
  · rw [← show _ = failure from Except.error.inj failed]
    rfl

theorem failed_of_runReplay
    (ends : Ends (.script (Commands.runReplay arguments)) shell (.error failure, final)) :
    final = shell ∧ failure.isProgrammingError = false := by
  unfold Commands.runReplay at ends
  split at ends
  · rw [ends_ask rfl] at ends
    obtain ⟨refused, -⟩ := failed_of_andThen ends
    simp [serve] at refused
  · rename_i name _ _
    rw [ends_ask rfl] at ends
    cases known : shell.records.get name with
    | ok lines =>
        have got : shell.serve (.getRecord name) = (.ok lines, shell) := by rw [serve, known]
        rw [ends_ask got] at ends
        obtain ⟨refused, -⟩ := failed_of_andThen ends
        simp [serve] at refused
    | error missing =>
        have got : shell.serve (.getRecord name) = (.error missing, shell) := by rw [serve, known]
        rw [Script.ask, ends_perform, got] at ends
        obtain ⟨same, rfl⟩ := Prod.mk.inj ((ends_fail missing).mp ends)
        rw [Except.error.inj same]
        exact ⟨rfl, isProgrammingError_of_get known⟩

theorem failed_of_runIf
    (ends : Ends (.script (Commands.runIf menu line)) shell (.error failure, final)) :
    final = shell ∧ failure.isProgrammingError = false := by
  unfold Commands.runIf at ends
  rw [ends_ask rfl] at ends
  dsimp only at ends
  generalize Commands.stripNegations _ _ _ = stripped at ends
  rcases tested : shell.test (Text.splitFirstWord stripped.2).1 (shell.tree.comparison menu) with
    ⟨verdict, after⟩
  have looked : shell.serve (.test (Text.splitFirstWord stripped.2).1 (shell.tree.comparison menu)) =
      (.ok verdict, after) := by
    rw [serve, tested]
  rw [ends_ask looked] at ends
  cases verdict with
  | none =>
      obtain ⟨same, rfl⟩ := Prod.mk.inj ((ends_fail _).mp ends)
      rw [Except.error.inj same]
      refine ⟨?_, rfl⟩
      unfold test at tested
      split at tested
      · exact (Prod.mk.inj tested).2.symm
      · simp at tested
  | some verdict =>
      dsimp only at ends
      split at ends
      · obtain ⟨refused, -⟩ := failed_of_andThen ends
        simp [serve] at refused
      · simp [ends_done] at ends

theorem failed_of_builtin (builtin : Commands.Builtin menu action)
    (ends : Ends (.script (action line)) shell (.error failure, final)) :
    final = shell ∧ failure.isProgrammingError = false := by
  cases builtin with
  | call =>
      obtain ⟨arguments, ends⟩ := failed_of_withArguments ends
      obtain ⟨refused, rfl⟩ := failed_of_andThen ends
      exact ⟨serve_update_failed refused, isProgrammingError_of_call refused⟩
  | leave =>
      obtain ⟨arguments, ends⟩ := failed_of_withArguments ends
      obtain ⟨refused, rfl⟩ := failed_of_andThen ends
      exact ⟨serve_update_failed refused, isProgrammingError_of_demand refused⟩
  | goto =>
      obtain ⟨arguments, ends⟩ := failed_of_withArguments ends
      obtain ⟨refused, rfl⟩ := failed_of_andThen ends
      exact ⟨serve_update_failed refused, isProgrammingError_of_demand refused⟩
  | replay =>
      obtain ⟨arguments, ends⟩ := failed_of_withArguments ends
      exact failed_of_runReplay ends
  | test => exact failed_of_runIf ends

/-- The external source has not missed anything that was written to its file. -/
def InStep (shell : Shell Host) : Prop :=
  ∀ files, shell.records.files? = some files → shell.input.source.Agrees files

theorem inStep_keepRecords (shell : Shell Host) (records : RecordStore) :
    (shell.keepRecords records).InStep := by
  intro files known
  rw [records_keepRecords] at known
  unfold keepRecords
  rw [known]
  exact Source.agrees_refresh files _

theorem InStep.keepRecords_eq (inStep : shell.InStep) :
    shell.keepRecords shell.records = shell := by
  unfold keepRecords
  split
  · rename_i files known
    rw [inStep files known]
  · rfl

theorem guards_inStep : (anything : Conduct Host).Guards InStep fun _ => False where
  dispatches _ _ := trivial
  same := by
    intro shell later inStep same
    rw [same]
    exact inStep
  behaves := fun _ _ _ => keeps_anything _
  bound _ _ _ := trivial
  asks := by
    intro shell step asked inStep next
    refine ⟨fun files known => ?_, fun _ _ => trivial⟩
    have read (prompt? : Option String) (known : shell.records.files? = some files) :=
      (shell.input.query_keeps (Source.keeps_agrees files) prompt? (inStep files known)).1
    rcases next_cases next with rfl | ⟨text, rfl⟩
    · exact read _ known
    · exact read _ known
  serves := by
    intro shell answer request inStep _
    refine .inr ⟨?_, fun _ _ => trivial⟩
    have effect := effect_serve shell request
    generalize (shell.serve request).2 = served at effect
    cases effect with
    | queried prompt? =>
        intro files known
        exact (shell.input.query_keeps (Source.keeps_agrees files) prompt? (inStep files known)).1
    | read prompt? =>
        intro files known
        exact (Source.keeps_agrees files _ _ _ (inStep files known) rfl).1
    | recorded records => exact inStep_keepRecords shell records
    | _ => exact inStep

theorem inStep_of_ends {task : Task Host} {result : Except Failure Signal} (inStep : shell.InStep)
    (ends : Ends task shell (result, final)) : final.InStep := by
  rcases guards_inStep.runs (ends_iff_runs.mp ends) inStep (admits_anything task) with
    ⟨_, _, _, -, wrong⟩ | good
  · exact wrong.elim
  · exact good.1

/-! ### Captures -/

theorem keep_of_refuses (named : name ≠ "") (inStep : shell.InStep)
    (refuses : capture.Refuses shell name failure) (lines : List String) :
    capture.keep shell name lines = shell.writeLine failure.message := by
  cases capture with
  | procedure =>
      obtain ⟨taken, rfl⟩ := refuses
      obtain ⟨body, known⟩ := Option.ne_none_iff_exists'.mp taken
      simp only [Capture.keep, ProcedureStore.record_duplicate named known]
      rfl
  | record =>
      have refused : shell.records.add name lines = (.error failure, shell.records) := by
        unfold RecordStore.add
        rw [show RecordName.check name = .error failure from refuses]
      simp only [Capture.keep, refused, inStep.keepRecords_eq]

theorem ends_run_captured (first : arguments.positionals.head? = some name)
    (captured : Ends (.visit (.menu menu)) (capture.opened menu shell) (.ok signal, later))
    (outcome : Outcome Host) :
    Ends (.script (capture.run menu arguments)) shell outcome ↔
      Ends (.script (.andThen (capture.request name (later.notes menu)) (.done .normal)))
        (later.setNotes menu []) outcome := by
  obtain ⟨others, positionals⟩ := List.head?_eq_some_iff.mp first
  cases capture with
  | procedure =>
      simp only [Capture.run, Commands.runProc, positionals]
      rw [ends_ask rfl, Script.say, Script.andThen, ends_ask rfl]
      exact ends_captured captured
  | record =>
      simp only [Capture.run, Commands.runRecord, positionals]
      exact ends_captured captured

theorem ends_refused {spec : ArgumentSpec} {refusal : Refusal} {run : Arguments → Script Host}
    (leads : Leads shell visit (.act id line) started)
    (known : (shell.tree.node id).action? = some (Script.withArguments spec run))
    (refused : spec.parse (Text.words line) = .error refusal) :
    OnlySays shell visit (Text.trimEnd refusal.text ++ "\n") := by
  refine ⟨_, leads.ends_of_script known ?_, leads.acts.write _⟩
  rw [Script.withArguments, refused]
  exact (ends_andThen_done _ _ _).mpr rfl

theorem ends_help_lost {error : MenuError} (leads : Leads shell visit (.act id line) started)
    (known : (shell.tree.node id).action? = (Commands.helpNode menu).action?)
    (parsed : Commands.helpSpec.parse (Text.words line) = .ok arguments)
    (lost : shell.tree.descend menu (Tree.topicWords (" ".intercalate arguments.positionals)) =
      .error error) :
    OnlySays shell visit (error.message ++ "\n") := by
  have shown : shell.tree.help menu (" ".intercalate arguments.positionals) =
      error.message ++ "\n" := by
    unfold Tree.help
    split
    · rename_i none
      simp [none, Tree.descend] at lost
    · rw [lost]
      rfl
  rw [Commands.action_helpNode] at known
  refine ⟨_, leads.ends_of_script known ?_, leads.acts.write _⟩
  rw [Script.withArguments, parsed, ← shown, ← leads.tree_eq]
  exact (ends_andThen_done _ _ _).mpr rfl

theorem ends_capture_refused (leads : Leads shell visit (.act id line) started)
    (known : (shell.tree.node id).action? =
      some (Script.withArguments capture.spec (capture.run menu)))
    (parsed : capture.spec.parse (Text.words line) = .ok arguments)
    (first : arguments.positionals.head? = some name) (inStep : shell.InStep)
    (captured : Ends (.visit (.menu menu)) (capture.opened menu (started.note (.acted id line)))
      (.ok signal, later))
    (refuses : capture.Refuses later name failure) :
    Ends (.visit visit) shell
      (.ok .normal, (later.setNotes menu []).writeLine failure.message) := by
  have named : name ≠ "" := Text.ne_empty_of_mem_words
    (ArgumentSpec.mem_words_of_parse parsed (List.mem_of_head? first))
  have begun : (started.note (.acted id line)).InStep := by
    rw [leads.acts.same]
    exact inStep
  have opened : (capture.opened menu (started.note (.acted id line))).InStep := by
    cases capture <;> exact begun
  have left : later.InStep := inStep_of_ends opened captured
  have stored : (later.setNotes menu []).InStep := left
  have refusesLater : capture.Refuses (later.setNotes menu []) name failure := by
    cases capture <;> exact refuses
  -- However the menu is furnished, the store is asked last and by itself changes nothing.
  have absorbed := absorb_serve named (later.setNotes menu []) (later.notes menu) capture
  rw [keep_of_refuses named stored refusesLater] at absorbed
  refine (leads.ends_act known).mpr ⟨_, ?_, absorbed⟩
  rw [Script.withArguments, parsed]
  exact (ends_run_captured first captured _).mpr ((ends_andThen_done _ _ _).mpr rfl)

theorem ends_collect_refused (leads : Leads shell visit (.act id line) started)
    (known : (shell.tree.node id).action? =
      some (Script.withArguments capture.spec (capture.run menu)))
    (parsed : capture.spec.parse (Text.words line) = .ok arguments)
    (first : arguments.positionals.head? = some name) (inStep : shell.InStep)
    (collects : shell.tree.Collects menu stop sink endWord)
    (captured : Ends (.visit (.menu menu)) (capture.opened menu (started.note (.acted id line)))
      (.ok signal, later))
    (refuses : capture.Refuses shell name failure) :
    ∃ final lines complaints, Ends (.visit visit) shell (.ok .normal, final) ∧
      Gathers menu shell final lines complaints
        ((capture.announcement shell.settings).map (· ++ "\n") ++ complaints ++
          [failure.message ++ "\n"]) ∧
      final.notes menu = [] := by
  have began : Gathers menu shell (started.note (.acted id line)) [] [] [] := leads.acts.gathers
  rw [← began.same.tree_eq] at collects
  obtain ⟨lines, complaints, gathers⟩ := captured_gathers collects captured
  have same := gathers.same.trans began.same
  have refusesLater : capture.Refuses later name failure := by
    rw [same]
    cases capture <;> exact refuses
  have refused := ends_capture_refused leads known parsed first inStep captured refusesLater
  refine ⟨_, lines, complaints, refused, ?_, notes_setNotes _ _ _⟩
  have settings : (started.note (.acted id line)).settings = shell.settings := by
    rw [began.same]
  rw [settings] at gathers
  have forgotten := gathers_setNotes later menu []
  have told := gathers_write menu (later.setNotes menu []) (failure.message ++ "\n")
  simpa [writeLine] using ((began.trans gathers).trans forgotten).trans told

/-- A user error writes one message and changes nothing else: a word that is unknown or ambiguous, a
command line that is refused, a built-in command that fails, a topic of `help` that leads nowhere. A
capture whose name is refused does so after its loop, whatever commands have been run in that loop. If
its menu has only what was installed, what is gone besides is what has been read; `proc` says in
advance that it reads, and the input complains of labels that it does not find. A shell that is in step
stays so, which matters only where a record may be written over the script that is being read. -/
theorem user_errors_change_nothing {Host : Type} :
    (∀ (shell started : Shell Host) (visit : Visit) (error : MenuError),
      Leads shell visit (.report error) started →
      OnlySays shell visit (error.message ++ "\n")) ∧
    (∀ (shell started : Shell Host) (visit : Visit) (id : NodeId) (line : String)
      (action : Action Host), Leads shell visit (.act id line) started →
      (shell.tree.node id).action? = some action →
      (∀ spec run refusal, action = Script.withArguments spec run →
        spec.parse (Text.words line) = .error refusal →
        OnlySays shell visit (Text.trimEnd refusal.text ++ "\n")) ∧
      (∀ menu arguments error, some action = (Commands.helpNode menu).action? →
        Commands.helpSpec.parse (Text.words line) = .ok arguments →
        shell.tree.descend menu (Tree.topicWords (" ".intercalate arguments.positionals)) =
          .error error →
        OnlySays shell visit (error.message ++ "\n")) ∧
      ∀ menu failure after, Commands.Builtin menu action →
        Ends (.script (action line)) (started.note (.acted id line)) (.error failure, after) →
        OnlySays shell visit (failure.message ++ "\n")) ∧
    (∀ (capture : Capture) (shell started later : Shell Host) (visit : Visit) (id menu : NodeId)
      (line name : String) (arguments : Arguments) (failure : Failure) (signal : Signal),
      Leads shell visit (.act id line) started →
      (shell.tree.node id).action? =
        some (Script.withArguments capture.spec (capture.run menu)) →
      capture.spec.parse (Text.words line) = .ok arguments →
      arguments.positionals.head? = some name → shell.InStep →
      Ends (.visit (.menu menu)) (capture.opened menu (started.note (.acted id line)))
        (.ok signal, later) →
      (capture.Refuses later name failure →
        ∃ final, Ends (.visit visit) shell (.ok .normal, final) ∧
          Says (later.setNotes menu []) final (failure.message ++ "\n")) ∧
      ∀ stop sink endWord, shell.tree.Collects menu stop sink endWord →
        capture.Refuses shell name failure →
        ∃ final lines complaints, Ends (.visit visit) shell (.ok .normal, final) ∧
          Gathers menu shell final lines complaints
            ((capture.announcement shell.settings).map (· ++ "\n") ++ complaints ++
              [failure.message ++ "\n"]) ∧
          shell.input.Advanced final.input ∧ final.notes menu = []) ∧
    ∀ (task : Task Host) (shell final : Shell Host) (result : Except Failure Signal),
      Ends task shell (result, final) → shell.InStep → final.InStep := by
  refine ⟨?_, ?_, ?_, ?_⟩
  · intro shell started visit error leads
    exact ⟨_, leads.ends_report.mpr rfl, leads.stepsTo.write _⟩
  · intro shell started visit id line action leads known
    refine ⟨?_, ?_, ?_⟩
    · rintro spec run refusal rfl refused
      exact ends_refused leads known refused
    · intro menu arguments error action parsed lost
      exact ends_help_lost leads (known.trans action) parsed lost
    · intro menu failure after builtin ends
      obtain ⟨rfl, user⟩ := failed_of_builtin builtin ends
      exact ⟨_, (leads.ends_act known).mpr ⟨_, ends, absorb_error user _⟩, leads.acts.write _⟩
  · intro capture shell started later visit id menu line name arguments failure signal leads known
      parsed first inStep captured
    refine ⟨?_, ?_⟩
    · intro refuses
      exact ⟨_, ends_capture_refused leads known parsed first inStep captured refuses,
        (StepsTo.refl _).write _⟩
    · intro stop sink endWord collects refuses
      obtain ⟨final, lines, complaints, ends, gathers, forgotten⟩ :=
        ends_collect_refused leads known parsed first inStep collects captured refuses
      exact ⟨final, lines, complaints, ends, gathers, gathers.input.advanced, forgotten⟩
  · intro task shell final result ends inStep
    exact inStep_of_ends inStep ends

theorem user_errors_change_nothing_of_record :
    let built := (Capture.record.install {} 0).build (Tree.empty .insensitive)
    let place : Place := ["script"]
    let bytes := Text.encode "endrecord\nafter\n"
    let shell : Shell Unit :=
      { tree := built.2
        input := { source := .bytes (.ofFile place bytes), frames := [.call {
          name := "q", procedure := { lines := ["x"] }, jump? := some "gone" }] }
        procedures := {}, conditions := [], prompts := {}, settings := {}
        records := .folder "records" { here := [], entries := [(place, .file bytes)] }
        notebooks := [(1, ["old"])], transcript := #[], host := () }
    OnlySays shell (.dispatch 0 "replay n") "Unknown record: n\n" ∧
    OnlySays shell (.dispatch 0 "re n") "Command <re> not unique. Candidates: record, replay\n" ∧
    ∃ final lines complaints, Ends (.visit (.dispatch 0 "record ..")) shell (.ok .normal, final) ∧
      Gathers 1 shell final lines complaints
        (complaints ++ ["invalid record name: \"..\"\n"]) ∧
      shell.input.Advanced final.input ∧ final.notes 1 = [] := by
  intro built place bytes shell
  obtain ⟨reports, acts, captures, -⟩ := @user_errors_change_nothing Unit
  have reachable : (Tree.empty .insensitive : Tree (Action Unit)).Reachable := ⟨_, .refl⟩
  have installed : built = (.ok (), built.2) := rfl
  obtain ⟨-, captured, -⟩ := Tree.install_ok reachable (by decide) installed
  have inStep : shell.InStep := by
    rintro files ⟨⟩
    rfl
  refine ⟨?_, ?_, ?_⟩
  · have leads : Leads shell (.dispatch 0 "replay n") (.act 4 "n") _ := .dispatch (by decide)
    obtain ⟨-, -, fails⟩ := acts _ _ _ _ _ _ leads rfl
    let begun := (shell.note (.dispatched 0 "replay n")).note (.acted 4 "n")
    have missing : (run 10 (.script (Script.withArguments Commands.replaySpec Commands.runReplay "n"))
        begun).map Prod.fst = some (.error (.ofError (.recordNotFound "n"))) := by decide +kernel
    obtain ⟨⟨_, after⟩, ends, rfl⟩ := exists_ends_of_run missing
    exact fails 0 _ after .replay ends
  · have leads : Leads shell (.dispatch 0 "re n")
        (.report (.ambiguous "re" ["record", "replay"])) _ := .dispatch (by decide)
    exact reports _ _ _ _ leads
  · have leads : Leads shell (.dispatch 0 "record ..") (.act 1 "..") _ := .dispatch (by decide)
    let begun := (shell.note (.dispatched 0 "record ..")).note (.acted 1 "..")
    have left : (run 20 (.visit (.menu 1)) (Capture.record.opened 1 begun)).map Prod.fst =
        some (.ok .normal) := by decide +kernel
    obtain ⟨⟨_, later⟩, ends, rfl⟩ := exists_ends_of_run left
    have parsed : Capture.record.spec.parse (Text.words "..") = .ok { positionals := [".."] } := by
      decide
    obtain ⟨-, collects⟩ :=
      captures .record _ _ _ _ _ _ _ _ _ _ _ leads captured.action parsed rfl inStep ends
    have refused : RecordName.check ".." =
        .error (.ofMessage "invalid record name: \"..\"") := by decide +kernel
    exact collects _ _ _ captured.toCollects refused

/-- `proc` writes what it is about to do besides the refusal. A call that has been told to jump to an
unknown label ends when it is asked for a line. A command put into the capturing menu is carried out
there and keeps what it has changed. -/
theorem captures_announce_complain_and_obey :
    let installed := (Capture.procedure.install {} 0).build (Tree.empty .insensitive)
    let furnished : Tree (Action Unit) := installed.2.applyAll
      [.add 1 (.leaf "forget" fun _ => .ask (.edit (.detach 4)) fun _ => .done .normal)]
    let within (tree : Tree (Action Unit)) (frames : List Frame) : Shell Unit :=
      { tree, input := { frames }, procedures := { procedures := [("p", {})] }, conditions := [],
        prompts := {}, settings := {}, records := .empty, notebooks := [], transcript := #[],
        host := () }
    let lost : Frame := .call { name := "q", procedure := { lines := ["x"] }, jump? := some "gone" }
    let said := "Recording started. Enter \"endproc\" to finish.\n"
    let refused := "Procedure \"p\" is already defined.\n"
    let ends (tree : Tree (Action Unit)) (frames : List Frame) (final : Shell Unit) :=
      Ends (.visit (.dispatch 0 "proc p")) (within tree frames) (.ok .normal, final)
    installed.1 = .ok () ∧
    (∃ final, ends installed.2 [.lines ["endproc"]] final ∧ final.texts = [said, refused]) ∧
    (∃ final, ends installed.2 [lost, .lines ["endproc"]] final ∧
      final.input.frames = [.lines []] ∧
      final.texts = [said, "Unknown label: gone\n", refused]) ∧
    ∃ final, ends furnished [.lines ["forget", "endproc"]] final ∧
      furnished.child? 0 "call" = some 4 ∧ final.tree.child? 0 "call" = none := by
  intro installed furnished within lost said refused ends
  have announced : (run 20 (.visit (.dispatch 0 "proc p"))
      (within installed.2 [.lines ["endproc"]])).map (fun outcome =>
        (outcome.1, outcome.2.texts)) = some (.ok .normal, [said, refused]) := by decide +kernel
  have complained : (run 20 (.visit (.dispatch 0 "proc p"))
      (within installed.2 [lost, .lines ["endproc"]])).map (fun outcome =>
        (outcome.1, outcome.2.input.frames, outcome.2.texts)) =
          some (.ok .normal, [.lines []], [said, "Unknown label: gone\n", refused]) := by
    decide +kernel
  have obeyed : (run 20 (.visit (.dispatch 0 "proc p"))
      (within furnished [.lines ["forget", "endproc"]])).map (fun outcome =>
        (outcome.1, outcome.2.tree.child? 0 "call")) = some (.ok .normal, none) := by
    decide +kernel
  obtain ⟨⟨_, first⟩, firstEnds, firstSeen⟩ := exists_ends_of_run announced
  obtain ⟨⟨_, second⟩, secondEnds, secondSeen⟩ := exists_ends_of_run complained
  obtain ⟨⟨_, third⟩, thirdEnds, thirdSeen⟩ := exists_ends_of_run obeyed
  simp only [Prod.mk.injEq] at firstSeen secondSeen thirdSeen
  obtain ⟨rfl, texts⟩ := firstSeen
  obtain ⟨rfl, frames, complaints⟩ := secondSeen
  obtain ⟨rfl, gone⟩ := thirdSeen
  exact ⟨rfl, ⟨first, firstEnds, texts⟩, ⟨second, secondEnds, frames, complaints⟩,
    third, thirdEnds, by decide +kernel, gone⟩

end Shell

end MenuShell

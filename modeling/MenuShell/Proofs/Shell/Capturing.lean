import MenuShell.Proofs.Shell.Installing

/-!
Capturing lines. What is typed after `proc` or `record` and a name is handed, up to the end keyword, to
the store of procedures or of records, and the loop in which the command was typed goes on behind the
end keyword. A line whose first word abbreviates the end keyword ends the capture too.
-/

namespace MenuShell

namespace ArgumentSpec

variable {spec : ArgumentSpec} {words : List String}

theorem positionals_takePositional {progress next : Progress} {word : String}
    (taken : spec.takePositional progress word = .ok next) :
    next.found.positionals = progress.found.positionals ++ [word] := by
  unfold takePositional at taken
  split at taken
  · simp [unrecognized] at taken
  · rw [← Except.ok.inj taken]

theorem mem_of_readWords {progress last : Progress} {name : String}
    (read : spec.readWords progress words = .ok last) (member : name ∈ last.found.positionals) :
    name ∈ progress.found.positionals ∨ name ∈ words := by
  fun_induction readWords spec progress words with
  | case1 progress =>
      rw [Except.ok.inj read]
      exact .inl member
  | case2 progress word others _ next taken ih =>
      rcases ih read with before | later
      · rw [positionals_takePositional taken, List.mem_append, List.mem_singleton] at before
        rcases before with before | rfl
        · exact .inl before
        · exact .inr List.mem_cons_self
      · exact .inr (List.mem_cons_of_mem _ later)
  | case4 | case5 | case8 =>
      rename_i ih
      exact (ih read).imp_right (List.mem_cons_of_mem _)
  | case11 =>
      rename_i ih
      exact (ih read).imp_right fun later =>
        List.mem_cons_of_mem _ (List.mem_cons_of_mem _ later)
  | case3 | case6 | case7 | case9 | case10 => simp [unrecognized] at read

theorem mem_words_of_parse {arguments : Arguments} {name : String}
    (parsed : spec.parse words = .ok arguments) (member : name ∈ arguments.positionals) :
    name ∈ words := by
  unfold parse at parsed
  split at parsed
  · simp at parsed
  · rename_i progress read
    split at parsed
    · simp at parsed
    · dsimp only at parsed
      split at parsed
      · rw [← Except.ok.inj parsed] at member
        simpa using mem_of_readWords read member
      · simp at parsed

end ArgumentSpec

namespace Shell

variable {Host : Type} {shell : Shell Host} {menu stop sink outer : NodeId}
  {endWord name entry rest last : String} {lines : List String} {later : InputStack}
  {capture : Capture}

theorem eq_duplicate_of_record {store : ProcedureStore} {error : MenuError} (named : name ≠ "")
    (refused : store.record name lines = .error error) : error = .duplicateProcedure name := by
  unfold ProcedureStore.record at refused
  rw [if_neg (by simpa using named)] at refused
  split at refused
  · exact (Except.error.inj refused).symm
  · simp at refused

theorem isProgrammingError_of_add {store records : RecordStore} {failure : Failure}
    (refused : store.add name lines = (.error failure, records)) :
    failure.isProgrammingError = false := by
  unfold RecordStore.add at refused
  split at refused
  · rename_i reason checked
    unfold RecordName.check at checked
    split at checked
    · simp at checked
    · cases checked
      cases refused
      rfl
  · split at refused
    · simp at refused
    · split at refused
      · cases refused
        rfl
      · dsimp only at refused
        split at refused
        · cases refused
          rfl
        · simp at refused

theorem ends_andThen_done (request : Request (Action Host) .nothing) (signal : Signal)
    (outcome : Outcome Host) :
    Ends (.script (.andThen request (.done signal))) shell outcome ↔
      outcome = ((shell.serve request).1.map fun _ => signal, (shell.serve request).2) := by
  rw [Script.andThen, Script.ask, ends_perform]
  cases (shell.serve request).1 with
  | ok value => exact ends_done signal
  | error failure => exact ends_fail failure

theorem absorb_serve (named : name ≠ "") (shell : Shell Host) (lines : List String)
    (capture : Capture) :
    absorb ((shell.serve (capture.request name lines)).1.map fun _ => .normal,
      (shell.serve (capture.request name lines)).2) =
        (.ok .normal, capture.keep shell name lines) := by
  cases capture with
  | procedure =>
      cases stored : shell.procedures.record name lines with
      | ok procedures =>
          simp only [Capture.request, serve, stored, Capture.keep]
          rfl
      | error error =>
          rw [eq_duplicate_of_record named stored] at stored
          simp only [Capture.request, serve, stored, Capture.keep]
          rfl
  | record =>
      rcases stored : shell.records.add name lines with ⟨result, records⟩
      cases result with
      | ok done =>
          simp only [Capture.request, serve, addRecord, stored, Capture.keep]
          rfl
      | error failure =>
          have absorbed := isProgrammingError_of_add stored
          simp only [Capture.request, serve, addRecord, stored, Capture.keep, Except.map, absorb,
            absorbed]
          rfl

theorem ends_run (captures : shell.tree.Captures capture menu stop sink endWord)
    (gives : shell.input.Gives (lines ++ [last]) later)
    (data : ∀ line ∈ lines,
      (shell.tree.comparison menu).begins endWord (Text.splitFirstWord line).1 = false)
    (ends : (shell.tree.comparison menu).begins endWord (Text.splitFirstWord last).1 = true) :
    ∃ collected, collected.input = later ∧ SameButReading collected shell ∧
      ∀ outcome, Ends (.script (capture.run menu { positionals := [name] })) shell outcome ↔
        Ends (.script (.andThen (capture.request name (lines.map Text.trim)) (.done .normal)))
          collected outcome := by
  cases capture with
  | procedure =>
      let announced := shell.writeLine
        ("Recording started. Enter \"" ++ shell.settings.endProc ++ "\" to finish.")
      have collects : announced.tree.Collects menu stop sink endWord := captures.toCollects
      obtain ⟨collected, input, same, script⟩ := ends_capture collects gives data ends
      have sameAnnounced : SameButReading announced shell := rfl
      refine ⟨collected, input, same.trans sameAnnounced, ?_⟩
      intro outcome
      have asked : shell.serve .settings = (.ok shell.settings, shell) := rfl
      have said : shell.serve (.write
          ("Recording started. Enter \"" ++ shell.settings.endProc ++ "\" to finish." ++ "\n")) =
          (.ok (), announced) := rfl
      simp only [Capture.run, Commands.runProc]
      rw [ends_ask asked, Script.say, Script.andThen, ends_ask said, script]
      rfl
  | record =>
      obtain ⟨collected, input, same, script⟩ := ends_capture captures.toCollects gives data ends
      refine ⟨collected, input, same, ?_⟩
      intro outcome
      simp only [Capture.run, Commands.runRecord]
      rw [script]
      rfl

/-- Lines whose first words are no beginnings of the end keyword are kept, trimmed and in order, and the
loop in which the command was typed goes on with the line after the end keyword. An installed command
is one that captures. -/
theorem capture_keeps_lines_up_to_end_word {Host : Type} (capture : Capture) :
    (∀ (settings : Settings) (tree grown : Tree (Action Host)) (parent : NodeId),
      tree.Reachable → parent < tree.size → Tree.root ∈ grown.lineage parent →
      (capture.install settings parent).build tree = (.ok (), grown) →
      ∃ menu stop sink, grown.Captures capture menu stop sink (capture.endWord settings) ∧
        ∀ line rest, Text.splitFirstWord line = (capture.spec.command, rest) →
          grown.dispatchRoute? parent line = some (.act menu rest)) ∧
    ∀ (shell : Shell Host) (outer menu stop sink : NodeId)
      (endWord name entry rest last : String) (lines : List String) (later : InputStack),
      shell.tree.Captures capture menu stop sink endWord →
      shell.tree.dispatchRoute? outer (Text.trim entry) = some (.act menu rest) →
      capture.spec.parse (Text.words rest) = .ok { positionals := [name] } →
      shell.input.Gives (entry :: lines ++ [last]) later →
      (∀ line ∈ lines,
        (shell.tree.comparison menu).begins endWord (Text.splitFirstWord line).1 = false) →
      Text.trim last = endWord →
      ∃ collected, collected.input = later ∧ SameButReading collected shell ∧
        ∀ outcome, Ends (.loop outer) shell outcome ↔
          Ends (.loop outer) (capture.keep collected name (lines.map Text.trim)) outcome := by
  refine ⟨?_, ?_⟩
  · intro settings tree grown parent reachable bound connected built
    obtain ⟨grownReachable, captures, named, shown, below⟩ :=
      Tree.install_ok reachable bound built
    refine ⟨_, _, _, captures, ?_⟩
    intro line rest split
    have acts : (grown.node tree.size).action?.isSome := by simp [captures.action]
    exact Tree.route_of_selector grownReachable connected named shown below acts split
  · intro shell outer menu stop sink endWord name entry rest last lines later captures route parsed
      gives data ended
    have named : name ≠ "" :=
      Text.ne_empty_of_mem_words (ArgumentSpec.mem_words_of_parse parsed List.mem_cons_self)
    have keyword : (Text.splitFirstWord last).1 = endWord := by
      rw [← Text.splitFirstWord_trim, ended, Text.fst_splitFirstWord_of_isWord captures.word]
    have ends : (shell.tree.comparison menu).begins endWord (Text.splitFirstWord last).1 = true := by
      rw [keyword]
      exact Comparison.begins_of_same (Tree.same_self _ _)
    obtain ⟨asked, left, same, -, loop⟩ := loop_reads gives
    rw [← same.tree_eq] at captures route data ends
    let started := asked.note (.dispatched outer (Text.trim entry))
    let begun := started.note (.acted menu rest)
    have begunCaptures : begun.tree.Captures capture menu stop sink endWord := captures
    obtain ⟨collected, input, begunSame, script⟩ := ends_run begunCaptures left data ends
    have sameBegun : SameButReading begun asked := rfl
    refine ⟨collected, input, (begunSame.trans sameBegun).trans same, ?_⟩
    intro outcome
    have leads : Leads asked (.dispatch outer (Text.trim entry)) (.act menu rest) started :=
      .dispatch route
    have dispatched : Ends (.visit (.dispatch outer (Text.trim entry))) asked
        (.ok .normal, capture.keep collected name (lines.map Text.trim)) := by
      refine (leads.ends_act captures.action).mpr ⟨_, ?_, absorb_serve named _ _ _⟩
      rw [Script.withArguments, parsed]
      exact (script _).mpr ((ends_andThen_done _ _ _).mpr rfl)
    exact (loop outer outcome).trans dispatched.exists_and_iff

theorem capture_keeps_near_miss :
    let installed := (Capture.procedure.install {} 0).build (Tree.empty .insensitive)
    let shell : Shell Unit :=
      { tree := installed.2
        input := { frames := [.lines ["proc p", " echo one "], .lines ["", "endless x"],
          .lines ["endproc", "after"]] }
        procedures := {}, conditions := [], prompts := {}, settings := {}, records := .empty,
        notebooks := [], transcript := #[], host := () }
    ∃ collected, collected.input.pending = ["after"] ∧ SameButReading collected shell ∧
      ∀ outcome, Ends (.loop 0) shell outcome ↔
        Ends (.loop 0) (Capture.procedure.keep collected "p" ["echo one", "endless x"])
          outcome := by
  intro installed shell
  obtain ⟨leads, keeps⟩ := @capture_keeps_lines_up_to_end_word Unit .procedure
  obtain ⟨menu, stop, sink, captures, routes⟩ := leads {} (Tree.empty .insensitive) installed.2 0
    ⟨_, .refl⟩ (by decide) (by decide) rfl
  have settled : shell.input.Settled := by
    simp [InputStack.Settled, Frame.Settled, shell]
  have pending : shell.input.pending =
      ["proc p", " echo one ", "endless x", "endproc"] ++ ["after"] := by decide
  obtain ⟨later, gives, left, -⟩ := InputStack.gives_of_pending settled pending
  have data (mode : Comparison) : ∀ line ∈ [" echo one ", "endless x"],
      mode.begins "endproc" (Text.splitFirstWord line).1 = false := by
    cases mode <;> decide
  obtain ⟨collected, input, same, ends⟩ := keeps shell 0 menu stop sink "endproc" "p" "proc p" "p"
    "endproc" [" echo one ", "endless x"] later captures (routes _ _ (by decide)) (by decide) gives
    (data _) (by decide)
  exact ⟨collected, input ▸ left, same, ends⟩

theorem abbreviation_ends_capture :
    let installed := (Capture.procedure.install {} 0).build (Tree.empty .insensitive)
    let shell : Shell Unit :=
      { tree := installed.2, input := { frames := [.lines ["proc p", "e x", "endproc"]] }
        procedures := {}, conditions := [], prompts := {}, settings := {}, records := .empty,
        notebooks := [], transcript := #[], host := () }
    installed.1 = .ok () ∧ shell.tree.Captures .procedure 1 2 3 "endproc" ∧
      (shell.tree.comparison 1).same "endproc" (Text.splitFirstWord "e x").1 = false ∧
      ∃ final, Ends (.loop 0) shell (.ok .normal, final) ∧
        final.procedures.get? "p" = some { lines := [] } ∧
        final.procedures.get? "p" ≠ some (Procedure.parse ':' ["e x"]) := by
  intro installed shell
  have bound : 0 < (Tree.empty .insensitive : Tree (Action Unit)).size := by decide
  have built : (Capture.procedure.install {} 0).build (Tree.empty .insensitive) =
      (.ok (), shell.tree) := rfl
  have captures : shell.tree.Captures .procedure 1 2 3 "endproc" :=
    (Tree.install_ok ⟨.insensitive, .refl⟩ bound built).2.1
  have kept : (run 20 (.loop 0) shell).map (fun outcome =>
      (outcome.1, outcome.2.procedures.get? "p")) = some (.ok .normal, some { lines := [] }) := by
    decide +kernel
  obtain ⟨⟨result, final⟩, ended, same⟩ := Option.map_eq_some_iff.mp kept
  obtain ⟨rfl, stored⟩ := Prod.mk.inj same
  refine ⟨rfl, captures, by decide, final, ⟨20, ended⟩, stored, ?_⟩
  rw [stored]
  decide

end Shell

end MenuShell

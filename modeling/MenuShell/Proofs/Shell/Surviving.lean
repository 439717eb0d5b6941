import MenuShell.Proofs.Input.Legible
import MenuShell.Proofs.Shell.Outfit

/-!
No line ends the program. In the tree of the whole program every failure of a command is written
out and the loop goes on; only a reading of the external source can fail, and only where the script
is no text any more because a record has been written over it.
-/

namespace MenuShell

def Request.IsCivil {Action : Type} {answer : Answer} : Request Action answer → Prop
  | .readExternal _ => True
  | request => request.IsUsual

namespace Shell

variable {Host : Type} {shell asked final : Shell Host} {menu : NodeId} {failure : Failure}

theorem next_keeps {fine : Source → Prop} {bears : Failure → Prop} {step : Next}
    (keeps : Source.Keeps fine bears) (next : shell.next = (step, asked))
    (holds : fine shell.input.source) :
    fine asked.input.source ∧ ∀ failure, step = .failed failure → bears failure := by
  obtain ⟨later, failed⟩ := shell.input.query_keeps keeps shell.prompts.current? holds
  refine ⟨?_, ?_⟩
  · rcases next_cases next with rfl | ⟨text, rfl⟩
    · exact later
    · exact later
  · rintro failure rfl
    unfold Shell.next query receive at next
    split at next
    · cases next
    · cases next
    · rename_i answered
      obtain ⟨result, -⟩ := Prod.mk.inj answered
      rcases failed _ result with ⟨label, rfl⟩ | borne
      · simp [Failure.menuError?, Failure.ofError, MenuError.isUserError] at next
      · split at next
        · split at next
          · cases next
          · cases next
            exact borne
        · cases next
          exact borne

theorem isProgrammingError_of_get {store : RecordStore} {name : String}
    (failed : store.get name = .error failure) : failure.isProgrammingError = false := by
  unfold RecordStore.get at failed
  split at failed
  · cases failed
    rfl
  · split at failed
    · contradiction
    · unfold RecordStore.readFile at failed
      dsimp only at failed
      split at failed
      · cases failed
        rfl
      · split at failed
        · contradiction
        · cases failed
          rfl

theorem isProgrammingError_of_demand {command : String} {change : Call → Call}
    (failed : (shell.update .ofError ((shell.input.requestOfCall command change).map
      fun input => { shell with input })).1 = .error failure) :
    failure.isProgrammingError = false := by
  unfold InputStack.requestOfCall at failed
  split at failed
  · cases failed
  · cases failed
    rfl

theorem serve_civil {fine : Source → Prop} {bears : Failure → Prop} {answer : Answer}
    {request : Request (Action Host) answer} (keeps : Source.Keeps fine bears)
    (borne : ∀ failure, bears failure → failure.isProgrammingError = false)
    (civil : request.IsCivil) (holds : fine shell.input.source)
    (failed : (shell.serve request).1 = .error failure) : failure.isProgrammingError = false := by
  cases request with
  | edit _ | resolve _ _ _ | resolveNamed _ _ _ => exact civil.elim
  | write _ | report _ | showHelp _ _ | pushLines _ | child _ _ | defaultChild _ | comparison _
  | test _ _ | settings | recordNames | clearNotes _ | note _ _ | notes _ => cases failed
  | call procedure =>
      simp only [serve, call, ProcedureStore.call] at failed
      cases known : shell.procedures.get? procedure with
      | some running => simp [known, Except.map, update] at failed
      | none =>
          simp only [known, Except.map, update, Except.error.injEq] at failed
          exact failed ▸ rfl
  | requestReturn => exact isProgrammingError_of_demand failed
  | requestJump label => exact isProgrammingError_of_demand failed
  | query prompt? =>
      rcases (shell.input.query_keeps keeps prompt? holds).2 failure failed with ⟨label, rfl⟩ | read
      · rfl
      · exact borne failure read
  | readExternal prompt? =>
      exact borne failure ((keeps _ _ _ holds rfl).2 failure failed)
  | recordProcedure name lines =>
      simp only [serve] at failed
      cases stored : shell.procedures.record name lines with
      | ok procedures => simp [stored, Except.map, update] at failed
      | error error =>
          rw [eq_duplicate_of_record civil stored] at stored
          simp only [stored, Except.map, update, Except.error.injEq] at failed
          exact failed ▸ rfl
  | addRecord name lines =>
      rcases stored : shell.records.add name lines with ⟨result, records⟩
      simp only [serve, addRecord, stored] at failed
      rw [failed] at stored
      exact isProgrammingError_of_add stored
  | getRecord name => exact isProgrammingError_of_get failed

theorem source_serve {fine : Source → Prop} {bears : Failure → Prop} {answer : Answer}
    {request : Request (Action Host) answer} (keeps : Source.Keeps fine bears)
    (civil : request.IsCivil) (holds : fine shell.input.source) :
    (shell.serve request).2.tree = shell.tree ∧
      (fine (shell.serve request).2.input.source ∨
        ∃ records, (shell.serve request).2 = shell.keepRecords records) := by
  have effect := effect_serve shell request
  generalize (shell.serve request).2 = served at effect
  cases effect with
  | edited tree => exact civil.elim
  | queried prompt? => exact ⟨rfl, .inl (shell.input.query_keeps keeps prompt? holds).1⟩
  | read prompt? => exact ⟨rfl, .inl (keeps _ _ _ holds rfl).1⟩
  | recorded records =>
      obtain ⟨source, kept⟩ := shell.keepRecords_cases records
      exact ⟨by rw [kept], .inr ⟨records, rfl⟩⟩
  | _ => exact ⟨rfl, .inl holds⟩

def civil : Conduct Host where
  allows request := request.IsCivil
  enters
    | .execute _ _ => False
    | _ => True
  bears failure := failure.isProgrammingError = false

theorem usual_civil : (civil : Conduct Host).Usual where
  allows := by
    intro answer request usual
    cases request with
    | readExternal _ => exact trivial
    | _ => exact usual
  enters _ := trivial
  bears _ borne := borne

theorem keeps_civil {id : NodeId} {tree : Tree (Action Host)} {idle : List NodeId}
    {action : Action Host} (equipped : tree.Equipped idle)
    (known : (tree.node id).action? = some action) (line : String) :
    civil.Keeps (action line) := by
  rcases equipped.usual id action known with rfl | usual
  · exact Conduct.keeps_ask trivial fun _ => .done .normal
  · exact usual civil usual_civil line

theorem guards_civil {tree : Tree (Action Host)} {fine : Source → Prop} {bears : Failure → Prop}
    {astray : Shell Host → Prop} (equipped : tree.Equipped [Tree.root])
    (keeps : Source.Keeps fine bears)
    (borne : ∀ failure, bears failure → failure.isProgrammingError = false)
    (written : ∀ (shell : Shell Host) records, fine shell.input.source →
      astray (shell.keepRecords records) ∨ fine (shell.keepRecords records).input.source) :
    civil.Guards (fun shell => shell.tree = tree ∧ fine shell.input.source) astray where
  dispatches _ _ := trivial
  same := by
    rintro shell later ⟨tree, holds⟩ same
    rw [same]
    exact ⟨tree, holds⟩
  behaves := by
    rintro shell id action ⟨rfl, -⟩ known line
    exact keeps_civil equipped known line
  bound := by
    rintro shell started visit name ⟨rfl, -⟩ entered leads
    cases leads with
    | execute found => exact entered.elim
    | dispatch found => exact absurd found (equipped.dispatchRoute?_ne_unbound _ _ _)
  asks := by
    rintro shell step asked ⟨rfl, holds⟩ next
    obtain ⟨later, failed⟩ := next_keeps keeps next holds
    refine ⟨⟨?_, later⟩, fun failure same => borne failure (failed failure same)⟩
    rcases next_cases next with rfl | ⟨text, rfl⟩ <;> rfl
  serves := by
    rintro shell answer request ⟨rfl, holds⟩ civil
    have answered : ∀ failure, (shell.serve request).1 = .error failure →
        failure.isProgrammingError = false := fun _ => serve_civil keeps borne civil holds
    obtain ⟨kept, read | ⟨records, served⟩⟩ := source_serve keeps civil holds
    · exact .inr ⟨⟨kept, read⟩, answered⟩
    · rw [served] at kept
      rw [served]
      exact (written shell records holds).imp_right fun later => ⟨⟨kept, later⟩, answered⟩

/-! ### How a loop ends -/

theorem Runs.loop_cases {result : Except Failure Signal}
    (runs : Runs (.loop menu) shell result final) :
    result = .ok .normal ∨ ∃ failure, result = .error failure ∧
      (failure.isProgrammingError = true ∨
        ∃ loops asking asked, Comes (.loop menu) shell loops (.loop menu) asking ∧
          asking.next = (.failed failure, asked)) := by
  generalize task : Task.loop menu = looped at runs
  induction runs with
  | ended | quit => exact .inl rfl
  | failed next =>
      cases task
      exact .inr ⟨_, rfl, .inr ⟨_, _, _, .here, next⟩⟩
  | again next _ ih =>
      cases task
      refine (ih rfl).imp_right ?_
      rintro ⟨failure, rfl, mistake | ⟨loops, asking, asked, points, failed⟩⟩
      · exact ⟨_, rfl, .inl mistake⟩
      · exact ⟨_, rfl, .inr ⟨_, _, _, (Turn.again next).then points, failed⟩⟩
  | normal next dispatched _ _ ih =>
      cases task
      refine (ih rfl).imp_right ?_
      rintro ⟨failure, rfl, mistake | ⟨loops, asking, asked, points, failed⟩⟩
      · exact ⟨_, rfl, .inl mistake⟩
      · exact ⟨_, rfl, .inr ⟨_, _, _, (Turn.later next dispatched.ends).then points, failed⟩⟩
  | broken next dispatched =>
      exact .inr ⟨_, rfl, .inl (mistake_of_ends dispatched.ends (by simp))⟩
  | _ => cases task

theorem keepRecords_tame (shell : Shell Host) (records : RecordStore)
    (tame : shell.input.source.Tame) : (shell.keepRecords records).input.source.Tame := by
  unfold keepRecords
  split
  · exact Source.tame_refresh tame _
  · exact tame

/-- A script is being read, and its file does not hold its bytes any more. -/
def Overwritten (script? : Option (Place × List UInt8)) (shell : Shell Host) : Prop :=
  ∃ script ∈ script?,
    shell.records.files?.bind (fun files => files.entry? script.1) ≠ some (.file script.2)

theorem keepRecords_legible {script? : Option (Place × List UInt8)} (shell : Shell Host)
    (records : RecordStore) (legible : shell.input.source.Legible script?) :
    (shell.keepRecords records).Overwritten script? ∨
      (shell.keepRecords records).input.source.Legible script? := by
  by_cases overwritten : (shell.keepRecords records).Overwritten script?
  · exact .inl overwritten
  · refine .inr ?_
    unfold Overwritten keepRecords at *
    split
    · rename_i files known
      refine legible.refresh fun place bytes script => ?_
      simp only [known, not_exists, not_and, not_not] at overwritten
      exact overwritten (place, bytes) script
    · exact legible

theorem undecodable_borne (failure : Failure) (same : failure = Source.undecodable) :
    failure.isProgrammingError = false :=
  same ▸ rfl

theorem ends_menu_cases {result : Except Failure Signal}
    (equipped : shell.tree.Equipped [Tree.root]) (tame : shell.input.source.Tame)
    (ends : Ends (.visit (.menu menu)) shell (result, final)) :
    result = .ok .normal ∨ result = .error Source.undecodable ∧
      ∃ loops asking asked, Comes (.visit (.menu menu)) shell loops (.loop menu) asking ∧
        asking.next = (.failed Source.undecodable, asked) := by
  have guards : civil.Guards (fun reached => reached.tree = shell.tree ∧ reached.input.source.Tame)
      fun _ => False :=
    guards_civil equipped Source.keeps_tame undecodable_borne
      fun shell records tame => .inr (keepRecords_tame shell records tame)
  have astray {task : Task Host} : ¬ Strays (fun _ => False) task shell := by
    rintro ⟨_, _, _, -, wrong⟩
    exact wrong
  have runs := ends_iff_runs.mp ends
  have borne := ((guards.runs runs ⟨rfl, tame⟩ trivial).resolve_left astray).2
  cases runs with
  | menu looped =>
      refine looped.loop_cases.imp_right ?_
      rintro ⟨failure, rfl, mistake | ⟨loops, asking, asked, points, failed⟩⟩
      · rw [borne failure rfl] at mistake
        contradiction
      · have reached := (Turn.menu menu shell).then points
        have known := ((guards.comes reached ⟨rfl, tame⟩ trivial).resolve_left astray).1.2
        obtain rfl := (next_keeps Source.keeps_tame failed known).2 failure rfl
        exact ⟨rfl, _, _, _, reached, failed⟩
  | act leads _ _ | report leads | unbound leads => cases leads

theorem strays_of_failed {script? : Option (Place × List UInt8)} {task : Task Host}
    {loops : List Opened} {asking : Shell Host} (equipped : shell.tree.Equipped [Tree.root])
    (legible : shell.input.source.Legible script?) (admits : civil.Admits task)
    (points : Comes task shell loops (.loop menu) asking)
    (failed : asking.next = (.failed failure, asked)) :
    Strays (Overwritten script?) task shell := by
  have guards : civil.Guards (fun reached => reached.tree = shell.tree ∧
      reached.input.source.Legible script?) (Overwritten script?) :=
    guards_civil equipped (Source.keeps_legible _) (fun _ => False.elim) keepRecords_legible
  rcases guards.comes points ⟨rfl, legible⟩ admits with strays | ⟨⟨-, known⟩, -⟩
  · exact strays
  · exact ((next_keeps (Source.keeps_legible _) failed known).2 failure rfl).elim

theorem ends_menu_legible {script? : Option (Place × List UInt8)} {result : Except Failure Signal}
    (equipped : shell.tree.Equipped [Tree.root]) (legible : shell.input.source.Legible script?)
    (ends : Ends (.visit (.menu menu)) shell (result, final)) :
    result = .ok .normal ∨ result = .error Source.undecodable ∧
      Strays (Overwritten script?) (.visit (.menu menu)) shell := by
  refine (ends_menu_cases equipped legible.tame ends).imp_right ?_
  rintro ⟨failed, loops, asking, asked, points, next⟩
  exact ⟨failed, strays_of_failed equipped legible trivial points next⟩

end Shell

namespace CommandLine

variable {arguments : Arguments} {surroundings : Surroundings}

theorem prepare_ok {lines : Source} (known : source arguments surroundings = .ok lines) :
    ∃ shell, prepare arguments surroundings = .ok shell ∧ shell.tree.Equipped [Tree.root] ∧
      shell.input.source = lines := by
  let chosen := settings arguments surroundings.valueOf
  have endProc : Tree.isWord chosen.endProc = true := (by decide : Tree.isWord "endproc" = true)
  have endRecord : Tree.isWord chosen.endRecord = true :=
    (by decide : Tree.isWord "endrecord" = true)
  obtain ⟨_, tree, built, stocked⟩ := Tree.stocked_installAll chosen endProc endRecord
  have installed : (installAll chosen).build (Shell.initialTree chosen) = (.ok (), tree) := built
  let records := RecordStore.folder chosen.recordFolder surroundings.files
  let shell : Shell Unit := { Shell.start chosen lines records () with tree }
  have built :
      (Shell.start chosen lines records ()).build (installAll chosen) = (.ok (), shell) := by
    rw [Shell.build, Shell.start, installed]
    rfl
  refine ⟨if arguments.positionals.isEmpty then shell
    else { shell with input := shell.input.pushLines arguments.positionals }, ?_, ?_, ?_⟩
  · rw [prepare, known]
    dsimp only [bind, Except.bind]
    rw [built]
  · split <;> exact stocked.toEquipped
  · split <;> rfl

/-- Whatever lines it is given, the program is set up, and when it ends it has not failed. There is
one exception: a record can be written over the very script that is being read, and then what is
fetched of the file may be no text. -/
theorem lines_never_fail_program (arguments : Arguments) (surroundings : Surroundings) :
    (∀ path place bytes, arguments.value? "script" = some path →
      surroundings.files.find path = .ok (place, .file bytes) → Text.IsText bytes →
      ∃ shell, prepare arguments surroundings = .ok shell ∧
        ∀ result final, Shell.Ends (.visit (.menu Tree.root)) shell (result, final) →
          result = .ok .normal ∨ result = .error Source.undecodable ∧
            ∃ loops task reached, Shell.Comes (.visit (.menu Tree.root)) shell loops task reached ∧
              reached.records.files?.bind (fun files => files.entry? place) ≠ some (.file bytes)) ∧
    (arguments.value? "script" = none → Text.IsText surroundings.typed →
      ∃ shell, prepare arguments surroundings = .ok shell ∧
        ∀ result final, Shell.Ends (.visit (.menu Tree.root)) shell (result, final) →
          result = .ok .normal) := by
  refine ⟨?_, ?_⟩
  · intro path place bytes script found text
    have known : source arguments surroundings = .ok (.bytes (.ofFile place bytes)) := by
      simp only [source, script, scriptSource, found]
    obtain ⟨shell, prepared, equipped, lines⟩ := prepare_ok known
    have legible : shell.input.source.Legible (some (place, bytes)) :=
      lines ▸ .script rfl (ByteStream.follows_ofFile text)
    refine ⟨shell, prepared, fun result final ends => ?_⟩
    refine (Shell.ends_menu_legible equipped legible ends).imp_right ?_
    rintro ⟨failed, loops, task, reached, points, _, ⟨⟩, overwritten⟩
    exact ⟨failed, loops, task, reached, points, overwritten⟩
  · intro script text
    have known : source arguments surroundings = .ok (Source.ofTerminal surroundings.typed) := by
      simp only [source, script]
    obtain ⟨shell, prepared, equipped, lines⟩ := prepare_ok known
    have legible : shell.input.source.Legible none := lines ▸ Source.legible_ofTerminal text none
    refine ⟨shell, prepared, fun result final ends => ?_⟩
    rcases Shell.ends_menu_legible equipped legible ends with done | ⟨-, _, _, _, -, _, ⟨⟩, -⟩
    exact done

theorem lines_never_fail_program_of_mistakes :
    let text := "proc p\ngoto x\nendproc\ncall p\nif never quit\nreplay r\nrecord a/b\nendrecord\n"
    let bytes := Text.encode text
    let surroundings : Surroundings :=
      { words := [], valueOf := fun _ => none, typed := bytes
        files := { entries := [(["script"], .file bytes)] } }
    let scripted : Arguments := { options := [("script", "/script")] }
    (∃ shell, prepare scripted surroundings = .ok shell ∧
      ∀ result final, Shell.Ends (.visit (.menu Tree.root)) shell (result, final) →
        result = .ok .normal ∨ result = .error Source.undecodable ∧
          ∃ loops task reached, Shell.Comes (.visit (.menu Tree.root)) shell loops task reached ∧
            reached.records.files?.bind (fun files => files.entry? ["script"]) ≠
              some (.file bytes)) ∧
    ∃ shell, prepare {} surroundings = .ok shell ∧
      ∀ result final, Shell.Ends (.visit (.menu Tree.root)) shell (result, final) →
        result = .ok .normal := by
  intro text bytes surroundings scripted
  have decodes : Text.IsText bytes := Text.isText_encode text
  refine ⟨?_, ?_⟩
  · have found : surroundings.files.find "/script" = .ok (["script"], .file bytes) := by
      decide +kernel
    exact (lines_never_fail_program scripted surroundings).1 _ _ _ rfl found decodes
  · exact (lines_never_fail_program {} surroundings).2 rfl decodes

/-- A script of one letter is read by `pause`, which fetches all of it. Then a record of two
letters, each of two bytes, is written over it, and what follows its first byte is no text. -/
theorem overwritten_script_fails :
    let surroundings : Surroundings :=
      { words := ["--records", ".", "--script", "script.txt", "pause", "record script.txt", "éé",
          "endrecord"]
        valueOf := fun _ => none, typed := []
        files := { entries := [(["script.txt"], .file (Text.encode "x"))] } }
    Text.IsText (Text.encode "x") ∧
      (run 30 surroundings).map Report.succeeded = some false := by
  intro surroundings
  exact ⟨Text.isText_encode "x", by decide +kernel⟩

end CommandLine

end MenuShell

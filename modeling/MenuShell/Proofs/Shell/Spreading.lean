import MenuShell.Proofs.Input.Spreading
import MenuShell.Proofs.Shell.Prompting
import MenuShell.Proofs.Shell.Surviving

/-!
Where lines come from does not matter. Two shells in which the same lines are spread over plain
frames and the external source in different ways do the same, step by step, as long as nothing but
the loops and the queries of scripts reads the source.
-/

namespace MenuShell

def Event.isReading : Event → Bool
  | .read _ => true
  | _ => false

namespace Shell

variable {Host : Type} {first second final middle : Shell Host} {task sub : Task Host}
  {all : List String} {result : Except Failure Signal}

def doings (shell : Shell Host) : List Event :=
  shell.transcript.toList.filter (!·.isReading)

theorem Adds.doings_eq {events : List Event} (adds : first.Adds final events) :
    final.doings = first.doings ++ events.filter (!·.isReading) := by
  rw [doings, adds, List.filter_append]
  rfl

theorem doings_query (shell : Shell Host) (prompt? : Option String) :
    (shell.query prompt?).2.doings = shell.doings := by
  rw [(adds_query shell prompt?).doings_eq]
  simp [Event.isReading]

/-- The source is left to the loops and to queries: a request neither reads it nor, by writing a
record over its file, replaces what it gives. -/
def Spared (shell : Shell Host) {answer : Answer} : Request (Action Host) answer → Prop
  | .readExternal _ => False
  | .addRecord name lines =>
    (shell.addRecord name lines).2.input.source = shell.input.source
  | _ => True

theorem source_keepRecords (unbacked : first.input.source.Unbacked) (records : RecordStore) :
    (first.keepRecords records).input.source = first.input.source := by
  unfold keepRecords
  split
  · exact unbacked.refresh _
  · rfl

theorem addRecord_of_spared {name : String} {lines : List String}
    (spared : (first.addRecord name lines).2.input.source = first.input.source) :
    first.addRecord name lines = ((first.records.add name lines).1,
      { first with records := (first.records.add name lines).2 }) := by
  obtain ⟨source, kept⟩ := first.keepRecords_cases (first.records.add name lines).2
  simp only [addRecord, kept] at spared ⊢
  rw [spared]

/-- The shells are the same but for how the lines that are left of all the lines are spread, and for
the readings that have been made of the external source. -/
inductive Alike (all : List String) (first : Shell Host) : Shell Host → Prop
  | intro {input : InputStack} {transcript : Array Event} {supply : Supply} :
      supply.lines <:+ all → first.input.Carries supply → input.Carries supply →
      doings { first with transcript } = first.doings →
      Alike all first { first with input, transcript }

namespace Alike

theorem tree_eq (alike : Alike all first second) : second.tree = first.tree := by
  cases alike
  rfl

theorem host_eq (alike : Alike all first second) : second.host = first.host := by
  cases alike
  rfl

theorem prompts_eq (alike : Alike all first second) : second.prompts = first.prompts := by
  cases alike
  rfl

theorem doings_eq (alike : Alike all first second) : second.doings = first.doings := by
  obtain ⟨-, -, -, doings⟩ := alike
  exact doings

theorem note (alike : Alike all first second) (event : Event) :
    Alike all (first.note event) (second.note event) := by
  obtain ⟨suffix, carries, others, doings⟩ := alike
  refine .intro suffix carries others ?_
  have noted : ∀ shell : Shell Host,
      (shell.note event).doings = shell.doings ++ [event].filter (!·.isReading) :=
    fun shell => (adds_note shell event).doings_eq
  rw [noted, ← doings]
  exact noted _

theorem query (alike : Alike all first second) (prompt? : Option String) :
    (second.query prompt?).1 = (first.query prompt?).1 ∧
      Alike all (first.query prompt?).2 (second.query prompt?).2 := by
  obtain ⟨suffix, carries, others, doings⟩ := alike
  obtain ⟨answered, left⟩ := carries.query prompt?
  obtain ⟨otherAnswered, otherLeft⟩ := others.query prompt?
  refine ⟨otherAnswered.trans answered.symm, ?_⟩
  refine .intro ((Supply.query_suffix _).trans suffix) left otherLeft ?_
  rw [doings_query, ← doings]
  exact doings_query _ prompt?

theorem next (alike : Alike all first second) :
    second.next.1 = first.next.1 ∧ Alike all first.next.2 second.next.2 := by
  obtain ⟨answered, asked⟩ := alike.query first.prompts.current?
  unfold Shell.next
  rw [alike.prompts_eq]
  rcases firstAsks : first.query first.prompts.current? with ⟨result, firstAsked⟩
  rcases secondAsks : second.query first.prompts.current? with ⟨same, secondAsked⟩
  rw [firstAsks, secondAsks] at answered asked
  obtain rfl : same = result := answered
  cases same with
  | ok line? => cases line? <;> exact ⟨rfl, asked⟩
  | error failure =>
      dsimp only
      cases failure.menuError? with
      | none => exact ⟨rfl, asked⟩
      | some error =>
          dsimp only
          split
          · exact ⟨rfl, asked.note _⟩
          · exact ⟨rfl, asked⟩

theorem asks {step : Next} (alike : Alike all first second) (next : first.next = (step, middle)) :
    ∃ asked, second.next = (step, asked) ∧ Alike all middle asked := by
  obtain ⟨same, asked⟩ := alike.next
  rw [next] at same asked
  exact ⟨second.next.2, Prod.ext same rfl, asked⟩

theorem enterLoop (alike : Alike all first second) (menu : NodeId) :
    Alike all (first.enterLoop menu) (second.enterLoop menu) := by
  obtain ⟨suffix, carries, others, doings⟩ := alike
  exact .intro suffix carries others doings

theorem leaveLoop (alike : Alike all first second) :
    Alike all first.leaveLoop second.leaveLoop := by
  obtain ⟨suffix, carries, others, doings⟩ := alike
  exact .intro suffix carries others doings

theorem remember (alike : Alike all first second) (change : Host → Host) :
    Alike all { first with host := change first.host }
      { second with host := change second.host } := by
  obtain ⟨suffix, carries, others, doings⟩ := alike
  exact .intro suffix carries others doings

theorem absorb (alike : Alike all first second) (result : Except Failure Signal) :
    (absorb (result, second)).1 = (absorb (result, first)).1 ∧
      Alike all (Shell.absorb (result, first)).2 (Shell.absorb (result, second)).2 := by
  cases result with
  | ok signal => exact ⟨rfl, alike⟩
  | error failure =>
      simp only [Shell.absorb]
      split
      · exact ⟨rfl, alike⟩
      · exact ⟨rfl, alike.note _⟩

theorem leads {started : Shell Host} {visit : Visit} {route : Route}
    (alike : Alike all first second) (leads : Leads first visit route started) :
    ∃ begun, Leads second visit route begun ∧ Alike all started begun := by
  cases leads with
  | execute found => exact ⟨second, .execute (alike.tree_eq ▸ found), alike⟩
  | dispatch found => exact ⟨_, .dispatch (alike.tree_eq ▸ found), alike.note _⟩

theorem push (alike : Alike all first second) (frame : Frame) :
    Alike all { first with input := first.input.push frame }
      { second with input := second.input.push frame } := by
  obtain ⟨suffix, carries, others, doings⟩ := alike
  refine .intro ?_ (carries.push frame) (others.push frame) doings
  exact suffix

theorem demand (alike : Alike all first second) (command : String) (change : Call → Call) :
    let update (shell : Shell Host) := shell.update Failure.ofError
      ((shell.input.requestOfCall command change).map fun input => { shell with input })
    (update second).1 = (update first).1 ∧ Alike all (update first).2 (update second).2 := by
  obtain ⟨suffix, carries, others, doings⟩ := alike
  have requested := carries.requestOfCall command change
  have otherRequested := others.requestOfCall command change
  dsimp only
  split at requested
  · rename_i upper known
    rw [known] at otherRequested
    obtain ⟨later, changed, left⟩ := requested
    obtain ⟨otherLater, otherChanged, otherLeft⟩ := otherRequested
    rw [changed, otherChanged]
    refine ⟨rfl, .intro ?_ left otherLeft doings⟩
    exact suffix
  · rename_i none
    rw [none] at otherRequested
    rw [requested, otherRequested]
    exact ⟨rfl, .intro suffix carries others doings⟩

theorem serve {answer : Answer} {request : Request (Action Host) answer}
    (alike : Alike all first second) (spared : Spared first request)
    (otherSpared : Spared second request) :
    (second.serve request).1 = (first.serve request).1 ∧
      Alike all (first.serve request).2 (second.serve request).2 := by
  cases request with
  | write text => exact ⟨rfl, alike.note _⟩
  | report error => exact ⟨rfl, alike.note _⟩
  | showHelp menu topic =>
      rw [Shell.serve, Shell.serve, alike.tree_eq]
      exact ⟨rfl, alike.note _⟩
  | query prompt? => exact alike.query prompt?
  | readExternal prompt? => exact spared.elim
  | requestReturn => exact alike.demand _ _
  | requestJump label => exact alike.demand _ _
  | pushLines lines => exact ⟨rfl, alike.push _⟩
  | call procedure =>
      have known : second.procedures.call procedure = first.procedures.call procedure := by
        cases alike
        rfl
      rw [Shell.serve, Shell.serve, Shell.call, Shell.call, known]
      cases first.procedures.call procedure with
      | ok running => exact ⟨rfl, alike.push (.call running)⟩
      | error error => exact ⟨rfl, alike⟩
  | recordProcedure name lines =>
      obtain ⟨suffix, carries, others, doings⟩ := alike
      simp only [Shell.serve]
      cases first.procedures.record name lines with
      | ok running => exact ⟨rfl, .intro suffix carries others doings⟩
      | error error => exact ⟨rfl, .intro suffix carries others doings⟩
  | test condition mode =>
      obtain ⟨suffix, carries, others, doings⟩ := alike
      simp only [Shell.serve, Shell.test, Shell.setCondition]
      split
      · exact ⟨rfl, .intro suffix carries others doings⟩
      · split
        · exact ⟨rfl, .intro suffix carries others doings⟩
        · exact ⟨rfl, .intro suffix carries others doings⟩
  | addRecord name lines =>
      obtain ⟨suffix, carries, others, doings⟩ := alike
      rw [Shell.serve, Shell.serve, addRecord_of_spared spared, addRecord_of_spared otherSpared]
      exact ⟨rfl, .intro suffix carries others doings⟩
  | _ =>
      obtain ⟨suffix, carries, others, doings⟩ := alike
      exact ⟨rfl, .intro suffix carries others doings⟩

end Alike

/-! ### Runs -/

def Spares (task : Task Host) (shell : Shell Host) : Prop :=
  ∀ (loops : List Opened) (answer : Answer) (request : Request (Action Host) answer)
    (next : Except Failure answer.Value → Script Host) (reached : Shell Host),
    Comes task shell loops (.script (.perform request next)) reached → Spared reached request

theorem Spares.turn {opened : List Opened} (spares : Spares task first)
    (turn : Turn task first opened sub middle) : Spares sub middle :=
  fun _ _ _ _ _ points => spares _ _ _ _ _ (turn.then points)

theorem Runs.alike (runs : Runs task first result final) (alike : Alike all first second)
    (spares : Spares task first) (others : Spares task second) :
    ∃ last, Runs task second result last ∧ Alike all final last := by
  -- By induction on the rules, each of which carries over to the other shell.
  induction runs generalizing second with
  | done signal shell => exact ⟨second, .done signal second, alike⟩
  | fail failure shell => exact ⟨second, .fail failure second, alike⟩
  | @consult shell _ next _ _ ih =>
      have turn := Turn.consult next second
      rw [alike.host_eq] at turn
      obtain ⟨last, runs, same⟩ := ih alike (spares.turn (.consult _ _)) (others.turn turn)
      rw [← alike.host_eq] at runs
      exact ⟨last, .consult runs, same⟩
  | remember _ ih =>
      obtain ⟨last, runs, same⟩ := ih (alike.remember _) (spares.turn (.remember _ _ _))
        (others.turn (.remember _ _ _))
      exact ⟨last, .remember runs, same⟩
  | perform _ ih =>
      obtain ⟨answered, served⟩ :=
        alike.serve (spares _ _ _ _ _ .here) (others _ _ _ _ _ .here)
      have turn := others.turn (.perform _ _ _)
      rw [answered] at turn
      obtain ⟨last, runs, same⟩ := ih served (spares.turn (.perform _ _ _)) turn
      rw [← answered] at runs
      exact ⟨last, .perform runs, same⟩
  | visit visited _ inner outer =>
      obtain ⟨after, visits, afterSame⟩ := inner alike (spares.turn (.visit _ _ _))
        (others.turn (.visit _ _ _))
      obtain ⟨last, runs, same⟩ := outer afterSame (spares.turn (.visited visited.ends))
        (others.turn (.visited visits.ends))
      exact ⟨last, .visit visits runs, same⟩
  | menu _ ih =>
      obtain ⟨left, runs, same⟩ := ih (alike.enterLoop _) (spares.turn (.menu _ _))
        (others.turn (.menu _ _))
      exact ⟨_, .menu runs, same.leaveLoop⟩
  | act leads known _ ih =>
      obtain ⟨begun, way, startedSame⟩ := alike.leads leads
      have knows := known
      rw [← alike.tree_eq] at knows
      obtain ⟨after, runs, afterSame⟩ := ih (startedSame.note _) (spares.turn (.act leads known))
        (others.turn (.act way knows))
      obtain ⟨answered, absorbed⟩ := afterSame.absorb _
      have acts := Runs.act way knows runs
      rw [answered] at acts
      exact ⟨_, acts, absorbed⟩
  | report leads =>
      obtain ⟨begun, way, same⟩ := alike.leads leads
      exact ⟨_, .report way, same.note _⟩
  | unbound leads =>
      obtain ⟨begun, way, same⟩ := alike.leads leads
      exact ⟨_, .unbound way, same⟩
  | ended next =>
      obtain ⟨asked, nexts, same⟩ := alike.asks next
      exact ⟨asked, .ended nexts, same⟩
  | failed next =>
      obtain ⟨asked, nexts, same⟩ := alike.asks next
      exact ⟨asked, .failed nexts, same⟩
  | again next _ ih =>
      obtain ⟨asked, nexts, askedSame⟩ := alike.asks next
      obtain ⟨last, runs, same⟩ := ih askedSame (spares.turn (.again next))
        (others.turn (.again nexts))
      exact ⟨last, .again nexts runs, same⟩
  | normal next dispatched _ inner outer =>
      obtain ⟨asked, nexts, askedSame⟩ := alike.asks next
      obtain ⟨after, dispatches, afterSame⟩ := inner askedSame (spares.turn (.line next))
        (others.turn (.line nexts))
      obtain ⟨last, runs, same⟩ := outer afterSame (spares.turn (.later next dispatched.ends))
        (others.turn (.later nexts dispatches.ends))
      exact ⟨last, .normal nexts dispatches runs, same⟩
  | quit next _ ih =>
      obtain ⟨asked, nexts, askedSame⟩ := alike.asks next
      obtain ⟨after, dispatches, same⟩ := ih askedSame (spares.turn (.line next))
        (others.turn (.line nexts))
      exact ⟨after, .quit nexts dispatches, same⟩
  | broken next _ ih =>
      obtain ⟨asked, nexts, askedSame⟩ := alike.asks next
      obtain ⟨after, dispatches, same⟩ := ih askedSame (spares.turn (.line next))
        (others.turn (.line nexts))
      exact ⟨after, .broken nexts dispatches, same⟩

theorem Alike.round {menu : NodeId} {line : String} (alike : Alike all first second)
    (spares : Spares (.loop menu) first) (others : Spares (.loop menu) second)
    (next : first.next = (.line line, middle))
    (ends : Ends (.visit (.dispatch menu (Text.trim line))) middle (result, final)) :
    ∃ asked after, second.next = (.line line, asked) ∧
      Ends (.visit (.dispatch menu (Text.trim line))) asked (result, after) ∧
      Alike all final after := by
  obtain ⟨asked, nexts, askedSame⟩ := alike.asks next
  obtain ⟨after, runs, same⟩ := (ends_iff_runs.mp ends).alike askedSame (spares.turn (.line next))
    (others.turn (.line nexts))
  exact ⟨asked, after, nexts, runs.ends, same⟩

theorem Turn.alike {opened : List Opened} (turn : Turn task first opened sub middle)
    (alike : Alike all first second) (spares : Spares task first) (others : Spares task second) :
    ∃ met, Turn task second opened sub met ∧ Alike all middle met := by
  cases turn with
  | menu id =>
      rw [← alike.tree_eq]
      exact ⟨_, .menu id second, alike.enterLoop id⟩
  | act leads known =>
      obtain ⟨begun, way, same⟩ := alike.leads leads
      rw [← alike.tree_eq] at known
      exact ⟨_, .act way known, same.note _⟩
  | consult next =>
      rw [← alike.host_eq]
      exact ⟨_, .consult next second, alike⟩
  | remember change next => exact ⟨_, .remember change next second, alike.remember change⟩
  | perform request next =>
      obtain ⟨answered, served⟩ :=
        alike.serve (spares _ _ _ _ _ .here) (others _ _ _ _ _ .here)
      rw [← answered]
      exact ⟨_, .perform request next second, served⟩
  | visit stop next => exact ⟨_, .visit stop next second, alike⟩
  | visited ends =>
      obtain ⟨met, runs, same⟩ := (ends_iff_runs.mp ends).alike alike
        (spares.turn (.visit _ _ _)) (others.turn (.visit _ _ _))
      exact ⟨met, .visited runs.ends, same⟩
  | again next =>
      obtain ⟨asked, nexts, same⟩ := alike.asks next
      exact ⟨asked, .again nexts, same⟩
  | line next =>
      obtain ⟨asked, nexts, same⟩ := alike.asks next
      exact ⟨asked, .line nexts, same⟩
  | later next ends =>
      obtain ⟨asked, after, nexts, carried, same⟩ := alike.round spares others next ends
      exact ⟨after, .later nexts carried, same⟩

theorem Comes.alike {loops : List Opened} (points : Comes task first loops sub middle)
    (alike : Alike all first second) (spares : Spares task first) (others : Spares task second) :
    ∃ met, Comes task second loops sub met ∧ Alike all middle met := by
  induction points with
  | here => exact ⟨second, .here, alike⟩
  | turn points turn ih =>
      obtain ⟨reached, reaches, same⟩ := ih
      obtain ⟨met, turns, metSame⟩ := turn.alike same
        (fun _ _ _ _ _ later => spares _ _ _ _ _ (points.trans later))
        (fun _ _ _ _ _ later => others _ _ _ _ _ (reaches.trans later))
      exact ⟨met, reaches.turn turns, metSame⟩

/-- The loop reads these lines, none of them blank, and dispatches each one, trimmed, before it
reads the next; it stops at the end of the input, at its first quit or at a failure, and with no
more read. -/
inductive Rounds (menu : NodeId) :
    Shell Host → List String → Except Failure Signal → Shell Host → Prop
  | ended {shell asked : Shell Host} :
      shell.next = (.ended, asked) → Rounds menu shell [] (.ok .normal) asked
  | failed {shell asked : Shell Host} {failure : Failure} :
      shell.next = (.failed failure, asked) → Rounds menu shell [] (.error failure) asked
  | again {shell asked final : Shell Host} {lines : List String} {result : Except Failure Signal} :
      shell.next = (.again, asked) → Rounds menu asked lines result final →
      Rounds menu shell lines result final
  | normal {shell asked after final : Shell Host} {line : String} {lines : List String}
      {result : Except Failure Signal} : shell.next = (.line line, asked) →
      Text.isBlank line = false →
      Ends (.visit (.dispatch menu (Text.trim line))) asked (.ok .normal, after) →
      Rounds menu after lines result final → Rounds menu shell (line :: lines) result final
  | quit {shell asked after : Shell Host} {line : String} : shell.next = (.line line, asked) →
      Text.isBlank line = false →
      Ends (.visit (.dispatch menu (Text.trim line))) asked (.ok .quit, after) →
      Rounds menu shell [line] (.ok .normal) after
  | broken {shell asked after : Shell Host} {line : String} {failure : Failure} :
      shell.next = (.line line, asked) → Text.isBlank line = false →
      Ends (.visit (.dispatch menu (Text.trim line))) asked (.error failure, after) →
      Rounds menu shell [line] (.error failure) after

theorem visible_of_next {line : String} (next : first.next = (.line line, middle)) :
    Text.isBlank line = false := by
  unfold Shell.next at next
  split at next
  · rename_i answered
    cases next
    exact InputStack.query_visible (congrArg Prod.fst answered)
  · cases next
  · split at next
    · split at next <;> cases next
    · cases next

theorem Runs.rounds {menu : NodeId} (runs : Runs (.loop menu) first result final) :
    ∃ lines, Rounds menu first lines result final := by
  generalize task : Task.loop menu = looped at runs
  induction runs with
  | ended next => exact ⟨[], .ended next⟩
  | failed next => exact ⟨[], .failed next⟩
  | again next _ ih =>
      obtain ⟨lines, rounds⟩ := ih task
      exact ⟨lines, .again next rounds⟩
  | normal next dispatched _ _ ih =>
      cases task
      obtain ⟨lines, rounds⟩ := ih rfl
      exact ⟨_, .normal next (visible_of_next next) dispatched.ends rounds⟩
  | quit next dispatched =>
      cases task
      exact ⟨_, .quit next (visible_of_next next) dispatched.ends⟩
  | broken next dispatched =>
      cases task
      exact ⟨_, .broken next (visible_of_next next) dispatched.ends⟩
  | _ => cases task

theorem Rounds.alike {menu : NodeId} {lines : List String}
    (rounds : Rounds menu first lines result final) (alike : Alike all first second)
    (spares : Spares (.loop menu) first) (others : Spares (.loop menu) second) :
    ∃ last, Rounds menu second lines result last ∧ Alike all final last := by
  induction rounds generalizing second with
  | ended next =>
      obtain ⟨asked, nexts, same⟩ := alike.asks next
      exact ⟨asked, .ended nexts, same⟩
  | failed next =>
      obtain ⟨asked, nexts, same⟩ := alike.asks next
      exact ⟨asked, .failed nexts, same⟩
  | again next _ ih =>
      obtain ⟨asked, nexts, askedSame⟩ := alike.asks next
      obtain ⟨last, rounds, same⟩ := ih askedSame (spares.turn (.again next))
        (others.turn (.again nexts))
      exact ⟨last, .again nexts rounds, same⟩
  | normal next visible ends _ ih =>
      obtain ⟨asked, after, nexts, carried, afterSame⟩ := alike.round spares others next ends
      obtain ⟨last, rounds, same⟩ := ih afterSame (spares.turn (.later next ends))
        (others.turn (.later nexts carried))
      exact ⟨last, .normal nexts visible carried rounds, same⟩
  | quit next visible ends =>
      obtain ⟨asked, after, nexts, carried, same⟩ := alike.round spares others next ends
      exact ⟨after, .quit nexts visible carried, same⟩
  | broken next visible ends =>
      obtain ⟨asked, after, nexts, carried, same⟩ := alike.round spares others next ends
      exact ⟨after, .broken nexts visible carried, same⟩

/-! ### Commands that spare the source -/

def quiet : Conduct Host where
  allows request := request.IsUsual
  enters _ := True
  bears _ := True

theorem usual_quiet : (quiet : Conduct Host).Usual :=
  ⟨id, fun _ => trivial, fun _ _ => trivial⟩

theorem spared_of_unbacked {answer : Answer} {request : Request (Action Host) answer}
    (unbacked : first.input.source.Unbacked) (usual : request.IsUsual) : Spared first request := by
  cases request with
  | readExternal _ => exact usual
  | addRecord name lines => exact source_keepRecords unbacked _
  | _ => exact trivial

theorem guards_quiet {tree : Tree (Action Host)}
    (usual : ∀ id action, (tree.node id).action? = some action → IsUsual action) :
    quiet.Guards (fun shell => shell.tree = tree ∧ shell.input.source.Unbacked) fun _ => False where
  dispatches _ _ := trivial
  same := by
    rintro shell later ⟨tree, unbacked⟩ same
    rw [same]
    exact ⟨tree, unbacked⟩
  behaves := by
    rintro shell id action ⟨rfl, -⟩ known line
    exact usual id action known quiet usual_quiet line
  bound _ _ _ := trivial
  asks := by
    rintro shell step asked ⟨rfl, unbacked⟩ next
    refine ⟨⟨?_, (next_keeps Source.keeps_unbacked next unbacked).1⟩, fun _ _ => trivial⟩
    rcases next_cases next with rfl | ⟨text, rfl⟩ <;> rfl
  serves := by
    rintro shell answer request ⟨rfl, unbacked⟩ allowed
    have civil := usual_civil.allows allowed
    refine .inr ⟨?_, fun _ _ => trivial⟩
    obtain ⟨kept, read | ⟨records, served⟩⟩ := source_serve Source.keeps_unbacked civil unbacked
    · exact ⟨kept, read⟩
    · refine ⟨kept, ?_⟩
      rw [served, source_keepRecords unbacked]
      exact unbacked

theorem spares_of_usual {visit : Visit}
    (usual : ∀ id action, (first.tree.node id).action? = some action → IsUsual action)
    (unbacked : first.input.source.Unbacked) : Spares (.visit visit) first := by
  intro loops answer request next reached points
  rcases (guards_quiet usual).comes points ⟨rfl, unbacked⟩ trivial with ⟨_, _, _, -, wrong⟩ | good
  · exact wrong.elim
  · obtain ⟨⟨-, still⟩, admits⟩ := good
    cases admits with
    | perform allowed _ _ => exact spared_of_unbacked still allowed

def fed (shell : Shell Host) (plain : List (List String)) (source : Source) : Shell Host :=
  { shell with input := { frames := plain.map .lines, source } }

/-- However all the lines are spread over plain frames and the source, a task that spares the source
comes to the same points on its way, and its loops read the same lines and leave the same. This is so
for every task of a shell that reads no file if its commands are usual; among the commands of the
program there is no other than those but `pause`. -/
theorem spreading_makes_no_difference {Host : Type} :
    (∀ (shell : Shell Host) (task : Task Host) (plain otherPlain : List (List String))
      (source otherSource : Source) (own otherOwn all : List String),
      source.Lists own → otherSource.Lists otherOwn →
      plain.flatten ++ own = all → otherPlain.flatten ++ otherOwn = all →
      let first := shell.fed plain source
      let second := shell.fed otherPlain otherSource
      Spares task first → Spares task second →
      (∀ result final, Ends task first (result, final) →
        ∃ last, Ends task second (result, last) ∧ Alike all final last) ∧
      (∀ loops sub reached, Comes task first loops sub reached →
        ∃ met, Comes task second loops sub met ∧ Alike all reached met) ∧
      ∀ loops menu asking result left, Comes task first loops (.loop menu) asking →
        Ends (.loop menu) asking (result, left) →
        ∃ lines met last, Rounds menu asking lines result left ∧
          Comes task second loops (.loop menu) met ∧ Rounds menu met lines result last ∧
          Alike all left last) ∧
    (∀ (shell : Shell Host) (visit : Visit),
      (∀ id action, (shell.tree.node id).action? = some action → IsUsual action) →
      shell.input.source.Unbacked → Spares (.visit visit) shell) ∧
    ∀ (settings : Settings), Tree.isWord settings.endProc = true →
      Tree.isWord settings.endRecord = true →
      ∃ tree, (CommandLine.installAll settings).build (initialTree settings) = (.ok (), tree) ∧
        ∀ id action, (tree.node id).action? = some action →
          action = Commands.runPause ∨ IsUsual action := by
  refine ⟨?_, fun _ _ => spares_of_usual, ?_⟩
  · intro shell task plain otherPlain source otherSource own otherOwn all lists otherLists spread
      otherSpread first second spares others
    have alike : Alike all first second := by
      have carries := InputStack.carries_lines plain lists
      have otherCarries := InputStack.carries_lines otherPlain otherLists
      rw [spread] at carries
      rw [otherSpread] at otherCarries
      exact .intro List.suffix_rfl carries otherCarries rfl
    refine ⟨?_, ?_, ?_⟩
    · intro result final ends
      obtain ⟨last, runs, same⟩ := (ends_iff_runs.mp ends).alike alike spares others
      exact ⟨last, runs.ends, same⟩
    · intro loops sub reached points
      exact points.alike alike spares others
    · intro loops menu asking result left points ends
      obtain ⟨met, reaches, metSame⟩ := points.alike alike spares others
      obtain ⟨lines, rounds⟩ := (ends_iff_runs.mp ends).rounds
      obtain ⟨last, otherRounds, same⟩ := rounds.alike metSame
        (fun _ _ _ _ _ later => spares _ _ _ _ _ (points.trans later))
        (fun _ _ _ _ _ later => others _ _ _ _ _ (reaches.trans later))
      exact ⟨lines, met, last, rounds, reaches, otherRounds, same⟩
  · intro settings endProc endRecord
    obtain ⟨_, tree, built, stocked⟩ := Tree.stocked_installAll settings endProc endRecord
    exact ⟨tree, built, stocked.usual⟩

theorem spreading_makes_no_difference_of_sub_menu :
    let sub : Action Unit := fun _ => .enter (.menu 1) fun _ => .done .normal
    let tree : Tree (Action Unit) :=
      { nodes := #[{ comparison? := some .sensitive, children := [1, 2, 4] },
          { Node.leaf "sub" sub with children := [3], parent? := some 0 },
          { Node.leaf "repeat" Commands.runRepeat with parent? := some 0 },
          { Node.leaf "quit" fun _ => .done .quit with parent? := some 1 },
          { Node.leaf "quit" fun _ => .done .quit with parent? := some 0 }] }
    let shell : Shell Unit :=
      { tree, input := {}, procedures := {}, conditions := [], prompts := {}, settings := {},
        records := .empty, notebooks := [], transcript := #[], host := () }
    let all := ["sub", " quit ", "", "repeat quit", "sub"]
    let source : Source := .listed [.ok "repeat quit", .ok "sub"]
    let otherSource : Source := .listed (all.map .ok)
    let doings : List Event :=
      [.dispatched 0 "sub", .acted 1 "", .dispatched 1 "quit", .acted 3 "",
        .dispatched 0 "repeat quit", .acted 2 "quit", .dispatched 0 "quit", .acted 4 ""]
    ∃ final last,
      Ends (.visit (.menu 0)) (shell.fed [["sub", " quit "], [""]] source)
        (.ok .normal, final) ∧
      Ends (.visit (.menu 0)) (shell.fed [] otherSource) (.ok .normal, last) ∧
      Alike all final last ∧
      last.doings = doings := by
  intro sub tree shell all source otherSource doings
  obtain ⟨spread, spares, -⟩ := @spreading_makes_no_difference Unit
  have usual : ∀ id action, (tree.node id).action? = some action → IsUsual action := by
    intro id action known
    match id, known with
    | 1, known =>
        cases known
        exact fun _ usual _ => Conduct.keeps_enter (usual.enters 1) fun _ => .done .normal
    | 2, known =>
        cases known
        exact isUsual_runRepeat
    | 3, known | 4, known =>
        cases known
        exact isUsual_quit
  obtain ⟨ends, -, -⟩ := spread shell (.visit (.menu 0)) [["sub", " quit "], [""]] []
    source otherSource _ all all (Source.lists_listed ["repeat quit", "sub"])
    (Source.lists_listed all) rfl rfl (spares _ _ usual trivial) (spares _ _ usual trivial)
  have ended : (run 20 (.visit (.menu 0)) (shell.fed [["sub", " quit "], [""]] source)).map
      (fun outcome => (outcome.1, outcome.2.doings)) = some (.ok .normal, doings) := by
    rfl
  obtain ⟨⟨result, final⟩, ended, same⟩ := Option.map_eq_some_iff.mp ended
  obtain ⟨rfl, known⟩ := Prod.mk.inj same
  obtain ⟨last, others, alike⟩ := ends _ final ⟨20, ended⟩
  refine ⟨final, last, ⟨20, ended⟩, others, alike, ?_⟩
  rw [alike.doings_eq, known]

end Shell

end MenuShell

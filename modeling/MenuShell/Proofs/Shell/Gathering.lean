import MenuShell.Proofs.Input.Advancing
import MenuShell.Proofs.Shell.Advising
import MenuShell.Proofs.Shell.Between
import MenuShell.Proofs.Shell.Spreading

/-!
What is said and what is read. A line that has only been passed on has changed nothing yet. The loop of
a capturing menu as it was installed takes lines from the input and writes the complaints of the input,
and beyond the menu's notebook it changes nothing.
-/

namespace MenuShell

inductive Event.IsStep : Event → Prop
  | dispatched (menu : NodeId) (line : String) : IsStep (.dispatched menu line)
  | acted (id : NodeId) (line : String) : IsStep (.acted id line)

namespace Capture

variable {Host : Type}

def announcement (settings : Settings) : Capture → List String
  | procedure => ["Recording started. Enter \"" ++ settings.endProc ++ "\" to finish."]
  | record => []

/-- The shell in which the loop of the capturing menu begins, when the command is run in this one. -/
def opened (capture : Capture) (menu : NodeId) (shell : Shell Host) : Shell Host :=
  ((capture.announcement shell.settings).foldl Shell.writeLine shell).setNotes menu []

end Capture

namespace Shell

variable {Host : Type} {shell started middle later final : Shell Host} {visit : Visit}
  {id menu stop sink : NodeId} {line endWord : String} {capture : Capture}
  {result : Except Failure Signal}

structure StepsTo (shell later : Shell Host) : Prop where
  same : later = { shell with transcript := later.transcript }
  steps : ∃ steps, shell.Adds later steps ∧ ∀ step ∈ steps, step.IsStep

structure Says (shell later : Shell Host) (text : String) : Prop where
  same : later = { shell with transcript := later.transcript }
  steps : ∃ steps, shell.Adds later (steps ++ [.wrote text]) ∧ ∀ step ∈ steps, step.IsStep

theorem StepsTo.refl (shell : Shell Host) : StepsTo shell shell :=
  ⟨rfl, [], .nothing rfl, by simp⟩

theorem StepsTo.note (walked : StepsTo shell later) {event : Event} (step : event.IsStep) :
    StepsTo shell (later.note event) := by
  obtain ⟨same, steps, adds, known⟩ := walked
  refine ⟨?_, steps ++ [event], adds.trans (adds_note later event), ?_⟩
  · conv => lhs; rw [same]
    rfl
  · intro other member
    rcases List.mem_append.mp member with member | member
    · exact known other member
    · exact List.mem_singleton.mp member ▸ step

theorem StepsTo.write (walked : StepsTo shell later) (text : String) :
    Says shell (later.write text) text := by
  obtain ⟨same, steps, adds, known⟩ := walked
  refine ⟨?_, steps, adds.trans (adds_note later _), known⟩
  conv => lhs; rw [same]
  rfl

theorem Leads.stepsTo {route : Route} (leads : Leads shell visit route started) :
    StepsTo shell started := by
  cases leads with
  | execute => exact .refl shell
  | dispatch => exact (StepsTo.refl shell).note (.dispatched _ _)

theorem Leads.acts (leads : Leads shell visit (.act id line) started) :
    StepsTo shell (started.note (.acted id line)) :=
  leads.stepsTo.note (.acted id line)

theorem Adds.texts_eq {events : List Event} (adds : shell.Adds later events) :
    later.texts = shell.texts ++ events.filterMap fun
      | .wrote text => some text
      | _ => none := by
  rw [texts, adds, List.filterMap_append]
  rfl

def Next.line? : Next → Option String
  | .line line => some line
  | _ => none

/-- Lines have been taken for the menu's notebook. The input gave them, with these complaints in
between, and this was written. -/
structure Gathers (menu : NodeId) (shell later : Shell Host) (lines complaints said : List String) :
    Prop where
  same : SameButReading later shell
  input : shell.input.Reads lines complaints later.input
  texts : later.texts = shell.texts ++ said
  others : ∀ other, other ≠ menu → later.notes other = shell.notes other

theorem Gathers.trans {first second early late said more : List String}
    (gathers : Gathers menu shell middle first early said)
    (others : Gathers menu middle final second late more) :
    Gathers menu shell final (first ++ second) (early ++ late) (said ++ more) where
  same := others.same.trans gathers.same
  input := gathers.input.trans others.input
  texts := by rw [others.texts, gathers.texts, List.append_assoc]
  others other different := (others.others other different).trans (gathers.others other different)

theorem SameButReading.leaveLoop {inner : NodeId}
    (same : SameButReading later (shell.enterLoop inner)) : SameButReading later.leaveLoop shell := by
  rw [SameButReading, same]
  rfl

theorem Gathers.leaveLoop {lines complaints said : List String} {inner : NodeId}
    (gathers : Gathers menu (shell.enterLoop inner) later lines complaints said) :
    Gathers menu shell later.leaveLoop lines complaints said where
  same := gathers.same.leaveLoop
  input := gathers.input
  texts := gathers.texts
  others := gathers.others

theorem texts_query (shell : Shell Host) (prompt? : Option String) :
    (shell.query prompt?).2.texts = shell.texts := by
  simp [texts, query, receive]

theorem next_eq (shell : Shell Host) :
    shell.next.1.line? = (shell.input.query shell.prompts.current?).line? ∧
      shell.next.2 = (shell.input.query shell.prompts.current?).complaint?.elim
        (shell.query shell.prompts.current?).2 (shell.query shell.prompts.current?).2.write := by
  have given : (shell.query shell.prompts.current?).1 =
      (shell.input.query shell.prompts.current?).result := rfl
  unfold Shell.next Answered.line? Answered.complaint?
  rw [← given]
  rcases shell.query shell.prompts.current? with ⟨result, asked⟩
  cases result with
  | ok line? => cases line? <;> exact ⟨rfl, rfl⟩
  | error failure =>
      dsimp only
      cases failure.menuError? with
      | none => exact ⟨rfl, rfl⟩
      | some error =>
          by_cases user : error.isUserError = true
          · simp only [user, if_true]
            exact ⟨rfl, rfl⟩
          · simp only [user]
            exact ⟨rfl, rfl⟩

theorem texts_write (shell : Shell Host) (text : String) :
    (shell.write text).texts = shell.texts ++ [text] :=
  (adds_note shell _).texts_eq

theorem texts_next {step : Next} (next : shell.next = (step, middle)) :
    middle.texts =
      shell.texts ++ (shell.input.query shell.prompts.current?).complaint?.toList := by
  have asked := shell.next_eq.2
  rw [next] at asked
  have quiet := shell.texts_query shell.prompts.current?
  cases complaint : (shell.input.query shell.prompts.current?).complaint? with
  | none =>
      rw [complaint] at asked
      rw [show middle = (shell.query shell.prompts.current?).2 from asked, quiet, Option.toList_none,
        List.append_nil]
  | some text =>
      rw [complaint] at asked
      rw [show middle = (shell.query shell.prompts.current?).2.write text from asked, texts_write, quiet]
      rfl

theorem gathers_next {step : Next} (menu : NodeId) (next : shell.next = (step, middle)) :
    ∃ complaints, Gathers menu shell middle step.line?.toList complaints complaints := by
  refine ⟨(shell.input.query shell.prompts.current?).complaint?.toList, ?_⟩
  obtain ⟨line, asked⟩ := shell.next_eq
  have texts := texts_next next
  have reads : shell.input.Reads _ _ _ := .query shell.prompts.current? (.nothing _)
  rw [next] at line asked
  rw [List.append_nil, List.append_nil, ← line] at reads
  cases complaint : (shell.input.query shell.prompts.current?).complaint? with
  | none =>
      rw [complaint] at asked reads texts
      rw [show middle = (shell.query shell.prompts.current?).2 from asked] at texts ⊢
      exact ⟨rfl, reads, texts, fun _ _ => rfl⟩
  | some text =>
      rw [complaint] at asked reads texts
      rw [show middle = (shell.query shell.prompts.current?).2.write text from asked] at texts ⊢
      exact ⟨rfl, reads, texts, fun _ _ => rfl⟩

theorem StepsTo.texts_eq (walked : StepsTo shell later) : later.texts = shell.texts := by
  obtain ⟨-, steps, adds, known⟩ := walked
  have quiet : (steps.filterMap fun
      | .wrote text => some text
      | _ => none) = [] := by
    refine List.filterMap_eq_nil_iff.mpr fun step member => ?_
    cases known step member <;> rfl
  rw [adds.texts_eq, quiet, List.append_nil]

theorem StepsTo.input_eq (walked : StepsTo shell later) : later.input = shell.input := by
  rw [walked.same]

theorem StepsTo.notes_eq (walked : StepsTo shell later) (menu : NodeId) :
    later.notes menu = shell.notes menu := by
  have notebooks : later.notebooks = shell.notebooks := by rw [walked.same]
  rw [notes, notebooks, ← notes]

theorem StepsTo.gathers (walked : StepsTo shell later) : Gathers menu shell later [] [] [] where
  same := by rw [SameButReading, walked.same]
  input := walked.input_eq ▸ .nothing _
  texts := walked.texts_eq.trans (List.append_nil _).symm
  others other _ := walked.notes_eq other

theorem notes_setNotes_of_ne {other : NodeId} (different : other ≠ menu) (shell : Shell Host)
    (lines : List String) : (shell.setNotes menu lines).notes other = shell.notes other := by
  simp only [notes, setNotes, List.lookup_cons, beq_false_of_ne different,
    lookup_filter_ne different]

theorem gathers_setNotes (shell : Shell Host) (menu : NodeId) (lines : List String) :
    Gathers menu shell (shell.setNotes menu lines) [] [] [] where
  same := rfl
  input := .nothing _
  texts := (List.append_nil _).symm
  others _ different := notes_setNotes_of_ne different shell lines

theorem dispatch_gathers (collects : shell.tree.Collects menu stop sink endWord) (line : String) :
    ∃ signal after, Ends (.visit (.dispatch menu line)) shell (.ok signal, after) ∧
      Gathers menu shell after [] [] [] := by
  cases begins : (shell.tree.comparison menu).begins endWord (Text.splitFirstWord line).1 with
  | true =>
      have leads := Leads.dispatch (collects.route_keyword begins)
      exact ⟨_, _, leads.ends_of_script collects.quits ((ends_done _).mpr rfl), leads.acts.gathers⟩
  | false =>
      have leads := Leads.dispatch (collects.route_data begins)
      refine ⟨_, _, leads.ends_of_script collects.notes ((ends_andThen_done _ _ _).mpr rfl), ?_⟩
      exact leads.acts.gathers.trans (gathers_setNotes _ _ _)

theorem round_gathers (collects : shell.tree.Collects menu stop sink endWord)
    (next : shell.next = (.line line, middle))
    (ends : Ends (.visit (.dispatch menu (Text.trim line))) middle (result, later)) :
    ∃ complaints, Gathers menu shell later [line] complaints complaints := by
  obtain ⟨complaints, asked⟩ := gathers_next menu next
  rw [← asked.same.tree_eq] at collects
  obtain ⟨_, _, again, gathers⟩ := dispatch_gathers collects (Text.trim line)
  obtain ⟨-, rfl⟩ := Prod.mk.inj (ends.unique again)
  exact ⟨_, asked.trans gathers⟩

theorem Rounds.gathers {lines : List String} (rounds : Rounds menu shell lines result final)
    (collects : shell.tree.Collects menu stop sink endWord) :
    ∃ complaints, Gathers menu shell final lines complaints complaints := by
  induction rounds with
  | ended next => exact gathers_next menu next
  | failed next => exact gathers_next menu next
  | again next _ ih =>
      obtain ⟨first, asked⟩ := gathers_next menu next
      rw [← asked.same.tree_eq] at collects
      obtain ⟨complaints, others⟩ := ih collects
      exact ⟨_, asked.trans others⟩
  | normal next _ ends _ ih =>
      obtain ⟨first, gathers⟩ := round_gathers collects next ends
      rw [← gathers.same.tree_eq] at collects
      obtain ⟨complaints, others⟩ := ih collects
      exact ⟨_, gathers.trans others⟩
  | quit next _ ends => exact round_gathers collects next ends
  | broken next _ ends => exact round_gathers collects next ends

theorem gathers_write (menu : NodeId) (shell : Shell Host) (text : String) :
    Gathers menu shell (shell.write text) [] [] [text] :=
  ⟨rfl, .nothing _, texts_write shell text, fun _ _ => rfl⟩

theorem gathers_opened (capture : Capture) (menu : NodeId) (shell : Shell Host) :
    Gathers menu shell (capture.opened menu shell) [] []
      ((capture.announcement shell.settings).map (· ++ "\n")) := by
  cases capture with
  | procedure => exact (gathers_write menu shell _).trans (gathers_setNotes _ menu [])
  | record => exact gathers_setNotes shell menu []

theorem captured_gathers (collects : shell.tree.Collects menu stop sink endWord)
    (captured : Ends (.visit (.menu menu)) (capture.opened menu shell) (result, later)) :
    ∃ lines complaints, Gathers menu shell later lines complaints
      ((capture.announcement shell.settings).map (· ++ "\n") ++ complaints) := by
  have opened := gathers_opened capture menu shell
  obtain ⟨_, left, loop, same⟩ := (ends_menu menu).mp captured
  obtain ⟨rfl, rfl⟩ := Prod.mk.inj same
  obtain ⟨lines, rounds⟩ := (ends_iff_runs.mp loop).rounds
  rw [← opened.same.tree_eq] at collects
  obtain ⟨complaints, gathers⟩ := rounds.gathers collects
  exact ⟨lines, complaints, opened.trans gathers.leaveLoop⟩

end Shell

end MenuShell

import MenuShell.Proofs.Shell.Ending

/-!
Failures on their way out. A line that is executed or dispatched fails with a mistake in building the
menu or not at all: any other failure of the action that it leads to is written out there. A mistake
goes through all loops and lines around it, as far as the scripts between them pass it on, and nothing
but the prompts of those loops changes on the way.
-/

namespace MenuShell

inductive MenuError.IsMistake : MenuError → Prop
  | unbound (name : String) : IsMistake (.unbound name)
  | duplicateSelector (selector : String) : IsMistake (.duplicateSelector selector)
  | alreadyAttached (name : String) : IsMistake (.alreadyAttached name)
  | invalidArgument (reason : String) : IsMistake (.invalidArgument reason)

theorem MenuError.isMistake_iff {error : MenuError} :
    error.IsMistake ↔ error.isUserError = false := by
  constructor
  · rintro (_ | _ | _ | _) <;> rfl
  · intro mistake
    cases error with
    | unbound name => exact .unbound name
    | duplicateSelector selector => exact .duplicateSelector selector
    | alreadyAttached name => exact .alreadyAttached name
    | invalidArgument reason => exact .invalidArgument reason
    | _ => simp [isUserError] at mistake

theorem Failure.isProgrammingError_iff {failure : Failure} :
    failure.isProgrammingError = true ↔
      ∃ error, failure.cause = .menu error ∧ error.IsMistake := by
  rw [isProgrammingError]
  cases failure.cause with
  | menu error => simp [MenuError.isMistake_iff]
  | other message => simp

theorem Failure.isProgrammingError_congr {failure other : Failure}
    (cause : failure.cause = other.cause) :
    failure.isProgrammingError = other.isProgrammingError := by
  rw [isProgrammingError, cause]
  rfl

namespace Shell

variable {Host : Type} {shell started after : Shell Host} {visit : Visit} {failure : Failure}

theorem exists_leads {outcome : Outcome Host} (ends : Ends (.visit visit) shell outcome)
    (line : ∀ id, visit ≠ .menu id) : ∃ route started, Leads shell visit route started := by
  obtain ⟨bound, ended⟩ := (ends_iff_step _ _ _).mp ends
  cases visit with
  | menu id => exact absurd rfl (line id)
  | execute id text =>
      cases found : shell.tree.executeRoute? id text with
      | none => simp [run, found, follow] at ended
      | some route => exact ⟨route, _, .execute found⟩
  | dispatch menu text =>
      cases found : shell.tree.dispatchRoute? menu text with
      | none => simp [run, found, follow] at ended
      | some route => exact ⟨route, _, .dispatch found⟩

theorem absorb_mistake (mistake : failure.isProgrammingError = true) (shell : Shell Host) :
    absorb (.error failure, shell) = (.error failure, shell) := by
  simp [absorb, mistake]

theorem mistake_of_absorb {inner : Outcome Host} (absorbed : absorb inner = (.error failure, after)) :
    failure.isProgrammingError = true := by
  unfold absorb at absorbed
  split at absorbed
  · simp at absorbed
  · split at absorbed
    · rename_i mistake
      cases absorbed
      exact mistake
    · simp at absorbed

theorem mistake_of_ends (ends : Ends (.visit visit) shell (.error failure, after))
    (line : ∀ id, visit ≠ .menu id) : failure.isProgrammingError = true := by
  obtain ⟨route, started, leads⟩ := exists_leads ends line
  cases route with
  | act id text =>
      cases known : (shell.tree.node id).action? with
      | none =>
          obtain ⟨bound, ended⟩ := leads.ends_iff.mp ends
          simp [follow, leads.tree_eq, known] at ended
      | some action =>
          obtain ⟨inner, -, absorbed⟩ := (leads.ends_act known).mp ends
          exact mistake_of_absorb absorbed
  | report error =>
      have reported := leads.ends_report.mp ends
      simp at reported
  | unbound name =>
      have unbound := leads.ends_unbound.mp ends
      simp only [Prod.mk.injEq, Except.error.injEq] at unbound
      rw [unbound.1]
      rfl

/-- Carrying out a task comes, in the last shell, to the failure. From there on out every script
passes on what the visit it has made fails with, though it may add circumstances. -/
inductive Raises : Task Host → Shell Host → Failure → Shell Host → Prop
  | fail (failure : Failure) (shell : Shell Host) :
      Raises (.script (.fail failure)) shell failure shell
  | unbound {shell started : Shell Host} {visit : Visit} {name : String} :
      Leads shell visit (.unbound name) started →
      Raises (.visit visit) shell (.ofError (.unbound name)) started
  | input {shell asked : Shell Host} {menu : NodeId} {failure : Failure} :
      shell.next = (.failed failure, asked) → Raises (.loop menu) shell failure asked
  | consult {shell raised : Shell Host} {next : Host → Script Host} {failure : Failure} :
      Raises (.script (next shell.host)) shell failure raised →
      Raises (.script (.consult next)) shell failure raised
  | remember {shell raised : Shell Host} {change : Host → Host} {next : Script Host}
      {failure : Failure} :
      Raises (.script next) { shell with host := change shell.host } failure raised →
      Raises (.script (.remember change next)) shell failure raised
  | perform {shell raised : Shell Host} {answer : Answer} {request : Request (Action Host) answer}
      {next : Except Failure answer.Value → Script Host} {failure : Failure} :
      Raises (.script (next (shell.serve request).1)) (shell.serve request).2 failure raised →
      Raises (.script (.perform request next)) shell failure raised
  | visited {shell after raised : Shell Host} {stop : Visit} {result : Except Failure Signal}
      {next : Except Failure Signal → Script Host} {failure : Failure} :
      Ends (.visit stop) shell (result, after) →
      Raises (.script (next result)) after failure raised →
      Raises (.script (.visit stop next)) shell failure raised
  | again {shell asked raised : Shell Host} {menu : NodeId} {failure : Failure} :
      shell.next = (.again, asked) → Raises (.loop menu) asked failure raised →
      Raises (.loop menu) shell failure raised
  | later {shell asked after raised : Shell Host} {menu : NodeId} {line : String}
      {failure : Failure} : shell.next = (.line line, asked) →
      Ends (.visit (.dispatch menu (Text.trim line))) asked (.ok .normal, after) →
      Raises (.loop menu) after failure raised → Raises (.loop menu) shell failure raised
  | act {shell started raised : Shell Host} {visit : Visit} {id : NodeId} {line : String}
      {action : Action Host} {failure : Failure} : Leads shell visit (.act id line) started →
      (shell.tree.node id).action? = some action →
      Raises (.script (action line)) (started.note (.acted id line)) failure raised →
      Raises (.visit visit) shell failure raised
  | menu {shell raised : Shell Host} {id : NodeId} {failure : Failure} :
      Raises (.loop id) (shell.enterLoop id) failure raised →
      Raises (.visit (.menu id)) shell failure raised
  | line {shell asked raised : Shell Host} {menu : NodeId} {line : String} {failure : Failure} :
      shell.next = (.line line, asked) →
      Raises (.visit (.dispatch menu (Text.trim line))) asked failure raised →
      Raises (.loop menu) shell failure raised
  | passed {shell raised : Shell Host} {stop : Visit}
      {next : Except Failure Signal → Script Host} {failure passed : Failure} :
      Raises (.visit stop) shell failure raised → next (.error failure) = .fail passed →
      passed.cause = failure.cause → Raises (.script (.visit stop next)) shell passed raised

def SameButPrompts (shell other : Shell Host) : Prop :=
  shell = { other with prompts := shell.prompts }

theorem SameButPrompts.leaveLoop {other : Shell Host} (same : SameButPrompts shell other) :
    SameButPrompts shell.leaveLoop other := by
  rw [SameButPrompts, Shell.leaveLoop, same]

theorem Raises.ends {task : Task Host} {raised : Shell Host}
    (raises : Raises task shell failure raised) (mistake : failure.isProgrammingError = true) :
    ∃ final, Ends task shell (.error failure, final) ∧ SameButPrompts final raised := by
  -- By induction on the way to the mistake and out again: the step in and the step out of every
  -- visit and of every turn of a loop.
  induction raises with
  | fail failure shell => exact ⟨shell, (ends_fail failure).mpr rfl, rfl⟩
  | unbound leads => exact ⟨_, leads.ends_unbound.mpr rfl, rfl⟩
  | input next => exact ⟨_, (ends_loop_failed _ next).mpr rfl, rfl⟩
  | consult _ ih =>
      obtain ⟨final, ends, same⟩ := ih mistake
      exact ⟨final, (ends_consult _).mpr ends, same⟩
  | remember _ ih =>
      obtain ⟨final, ends, same⟩ := ih mistake
      exact ⟨final, (ends_remember _ _).mpr ends, same⟩
  | perform _ ih =>
      obtain ⟨final, ends, same⟩ := ih mistake
      exact ⟨final, (ends_perform _ _).mpr ends, same⟩
  | visited visit _ ih =>
      obtain ⟨final, ends, same⟩ := ih mistake
      exact ⟨final, (ends_enter _ _).mpr ⟨_, _, visit, ends⟩, same⟩
  | again next _ ih =>
      obtain ⟨final, ends, same⟩ := ih mistake
      exact ⟨final, (ends_loop_again _ next).mpr ends, same⟩
  | later next dispatched _ ih =>
      obtain ⟨final, ends, same⟩ := ih mistake
      exact ⟨final, (ends_loop_line _ next).mpr ⟨_, dispatched, ends⟩, same⟩
  | act leads known _ ih =>
      obtain ⟨final, ends, same⟩ := ih mistake
      exact ⟨final, (leads.ends_act known).mpr ⟨_, ends, absorb_mistake mistake final⟩, same⟩
  | menu _ ih =>
      obtain ⟨final, ends, same⟩ := ih mistake
      exact ⟨_, (ends_menu _).mpr ⟨_, final, ends, rfl⟩, same.leaveLoop⟩
  | line next _ ih =>
      obtain ⟨final, ends, same⟩ := ih mistake
      exact ⟨final, (ends_loop_line _ next).mpr ⟨_, ends, rfl⟩, same⟩
  | passed _ failed cause ih =>
      rw [Failure.isProgrammingError_congr cause] at mistake
      obtain ⟨final, ends, same⟩ := ih mistake
      refine ⟨final, (ends_enter _ _).mpr ⟨_, final, ends, ?_⟩, same⟩
      rw [failed]
      exact (ends_fail _).mpr rfl

/-- A line fails with a mistake only. Any other failure of the action that it leads to is written out
once, circumstances and all, and the line is done. A mistake leaves all that is under way as it is,
and from where it arose nothing more is read or written. -/
theorem mistakes_leave_all_loops {Host : Type} :
    (∀ (shell after : Shell Host) (visit : Visit) (failure : Failure), (∀ id, visit ≠ .menu id) →
      Ends (.visit visit) shell (.error failure, after) →
      ∃ error, failure.cause = .menu error ∧ error.IsMistake) ∧
    (∀ (shell started after : Shell Host) (visit : Visit) (id : NodeId) (line : String)
      (action : Action Host) (failure : Failure), Leads shell visit (.act id line) started →
      (shell.tree.node id).action? = some action →
      Ends (.script (action line)) (started.note (.acted id line)) (.error failure, after) →
      (∀ error, failure.cause = .menu error → ¬ error.IsMistake) →
      Ends (.visit visit) shell (.ok .normal, { after with
        transcript := after.transcript.push (.wrote
          (": ".intercalate (failure.circumstances ++ [failure.cause.message]) ++ "\n")) })) ∧
    ∀ (task : Task Host) (shell raised : Shell Host) (failure : Failure) (error : MenuError),
      Raises task shell failure raised → failure.cause = .menu error → error.IsMistake →
      ∃ final, Ends task shell (.error failure, final) ∧
        final.input = raised.input ∧ final.transcript = raised.transcript ∧
        final = { raised with prompts := final.prompts } := by
  refine ⟨?_, ?_, ?_⟩
  · intro shell after visit failure line ends
    exact Failure.isProgrammingError_iff.mp (mistake_of_ends ends line)
  · intro shell started after visit id line action failure leads known ends other
    have absorbed : failure.isProgrammingError = false := by
      rw [← Bool.not_eq_true, Failure.isProgrammingError_iff]
      rintro ⟨error, cause, mistake⟩
      exact other error cause mistake
    refine (leads.ends_act known).mpr ⟨_, ends, ?_⟩
    rw [absorb, absorbed]
    rfl
  · intro task shell raised failure error raises cause mistake
    obtain ⟨final, ends, same⟩ :=
      raises.ends (Failure.isProgrammingError_iff.mpr ⟨error, cause, mistake⟩)
    refine ⟨final, ends, ?_, ?_, same⟩
    · rw [same]
    · rw [same]

theorem mistakes_leave_sub_menu :
    let lost : Failure := { cause := .other "lost", circumstances := ["while saving"] }
    let sub : Action Unit := fun _ => .enter (.menu 1) fun _ => .done .normal
    let bad : Action Unit := fun _ =>
      .ask (.edit (.add 0 (.menu "two words"))) fun _ => .done .normal
    let oops : Action Unit := fun _ => .fail lost
    let tree : Tree (Action Unit) :=
      { nodes := #[{ comparison? := some .sensitive, children := [1] },
          { Node.leaf "sub" sub with children := [2, 3], parent? := some 0 },
          { Node.leaf "bad" bad with parent? := some 1 },
          { Node.leaf "oops" oops with parent? := some 1 }] }
    let shell : Shell Unit :=
      { tree, input := { frames := [.lines ["oops", " ", "bad", "oops"]] }, procedures := {},
        conditions := [], prompts := {}, settings := {}, records := .empty, notebooks := [],
        transcript := #[], host := () }
    let refused : MenuError := .invalidArgument "selector must be a single non-empty word"
    ∃ final, Ends (.visit (.dispatch 0 "sub")) shell (.error (.ofError refused), final) ∧
      final.input.frames = [.lines ["oops"]] ∧
      final.transcript = #[.dispatched 0 "sub", .acted 1 "", .dispatched 1 "oops", .acted 3 "",
        .wrote "while saving: lost\n", .dispatched 1 "bad", .acted 2 ""] := by
  intro lost sub bad oops tree shell refused
  obtain ⟨-, written, left⟩ := @mistakes_leave_all_loops Unit
  have started : Leads shell (.dispatch 0 "sub") (.act 1 "") (shell.note (.dispatched 0 "sub")) :=
    .dispatch (by decide)
  have known : (shell.tree.node 1).action? = some sub := rfl
  let asked := (((shell.note (.dispatched 0 "sub")).note (.acted 1 "")).enterLoop 1).next.2
  have oopsLeads : Leads asked (.dispatch 1 (Text.trim "oops")) (.act 3 "")
      (asked.note (.dispatched 1 (Text.trim "oops"))) := .dispatch (by decide)
  have answered := written asked _ _ _ 3 "" oops lost oopsLeads rfl ((ends_fail lost).mpr rfl)
    (by simp [lost])
  let answeredShell := ((asked.note (.dispatched 1 (Text.trim "oops"))).note (.acted 3 "")).note
    (.wrote "while saving: lost\n")
  let again := answeredShell.next.2
  have badLeads : Leads again (.dispatch 1 (Text.trim "bad")) (.act 2 "")
      (again.note (.dispatched 1 (Text.trim "bad"))) := .dispatch (by decide)
  have raises : Raises (.visit (.dispatch 0 "sub")) shell (.ofError refused) _ :=
    .act started known (.passed (.menu (.later rfl answered (.line rfl (.act badLeads rfl
      (.perform (.fail _ _)))))) rfl rfl)
  obtain ⟨final, ends, input, transcript, -⟩ := left _ _ _ _ refused raises rfl (.invalidArgument _)
  refine ⟨final, ends, ?_, ?_⟩
  · rw [input]
    rfl
  · rw [transcript]
    rfl

end Shell

end MenuShell

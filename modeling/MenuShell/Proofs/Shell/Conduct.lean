import MenuShell.Proofs.Shell.Mistakes
import MenuShell.Proofs.Shell.Points

/-!
The conduct of commands. What a task does depends on what its scripts ask for, on the visits they make
and on the failures they raise; a property of shells that permitted requests keep holds wherever a task
comes to, unless the task first comes astray.
-/

namespace MenuShell

namespace Shell

variable {Host : Type} {shell middle later final : Shell Host} {task sub : Task Host}
  {result : Except Failure Signal}

structure Conduct (Host : Type) where
  allows : {answer : Answer} → Request (Action Host) answer → Prop
  enters : Visit → Prop
  bears : Failure → Prop

/-- A script keeps a conduct if it does so whatever it is answered; only failures that the conduct
bears come back as answers. -/
inductive Conduct.Keeps (conduct : Conduct Host) : Script Host → Prop
  | done (signal : Signal) : Keeps conduct (.done signal)
  | fail {failure : Failure} : conduct.bears failure → Keeps conduct (.fail failure)
  | consult {next : Host → Script Host} : (∀ host, Keeps conduct (next host)) →
      Keeps conduct (.consult next)
  | remember {change : Host → Host} {next : Script Host} : Keeps conduct next →
      Keeps conduct (.remember change next)
  | perform {answer : Answer} {request : Request (Action Host) answer}
      {next : Except Failure answer.Value → Script Host} : conduct.allows request →
      (∀ value, Keeps conduct (next (.ok value))) →
      (∀ failure, conduct.bears failure → Keeps conduct (next (.error failure))) →
      Keeps conduct (.perform request next)
  | visit {stop : Visit} {next : Except Failure Signal → Script Host} : conduct.enters stop →
      (∀ signal, Keeps conduct (next (.ok signal))) →
      (∀ failure, conduct.bears failure → Keeps conduct (next (.error failure))) →
      Keeps conduct (.visit stop next)

namespace Conduct

variable {conduct : Conduct Host}

theorem keeps_ask {answer : Answer} {request : Request (Action Host) answer}
    {next : answer.Value → Script Host} (allowed : conduct.allows request)
    (others : ∀ value, conduct.Keeps (next value)) : conduct.Keeps (.ask request next) :=
  .perform allowed others fun _ borne => .fail borne

theorem keeps_andThen {request : Request (Action Host) .nothing} {next : Script Host}
    (allowed : conduct.allows request) (others : conduct.Keeps next) :
    conduct.Keeps (.andThen request next) :=
  keeps_ask allowed fun _ => others

theorem keeps_enter {stop : Visit} {next : Signal → Script Host} (entered : conduct.enters stop)
    (others : ∀ signal, conduct.Keeps (next signal)) : conduct.Keeps (.enter stop next) :=
  .visit entered others fun _ borne => .fail borne

theorem Keeps.after_perform {answer : Answer} {request : Request (Action Host) answer}
    {next : Except Failure answer.Value → Script Host}
    (keeps : conduct.Keeps (.perform request next)) {outcome : Except Failure answer.Value}
    (borne : ∀ failure, outcome = .error failure → conduct.bears failure) :
    conduct.Keeps (next outcome) := by
  cases keeps with
  | perform _ fine failed =>
      cases outcome with
      | ok value => exact fine value
      | error failure => exact failed failure (borne failure rfl)

theorem Keeps.after_visit {stop : Visit} {next : Except Failure Signal → Script Host}
    (keeps : conduct.Keeps (.visit stop next))
    (borne : ∀ failure, result = .error failure → conduct.bears failure) :
    conduct.Keeps (next result) := by
  cases keeps with
  | visit _ fine failed =>
      cases result with
      | ok signal => exact fine signal
      | error failure => exact failed failure (borne failure rfl)

def Admits (conduct : Conduct Host) : Task Host → Prop
  | .visit stop => conduct.enters stop
  | .loop _ => True
  | .script script => conduct.Keeps script

end Conduct

def SameStores (shell other : Shell Host) : Prop :=
  shell = { other with
    prompts := shell.prompts, transcript := shell.transcript, host := shell.host }

def Strays (astray : Shell Host → Prop) (task : Task Host) (shell : Shell Host) : Prop :=
  ∃ loops sub reached, Comes task shell loops sub reached ∧ astray reached

theorem Turn.strays {astray : Shell Host → Prop} {opened : List Opened}
    (turn : Turn task shell opened sub middle) (strays : Strays astray sub middle) :
    Strays astray task shell := by
  obtain ⟨loops, reachedTask, reached, points, wrong⟩ := strays
  exact ⟨_, reachedTask, reached, turn.then points, wrong⟩

/-- Shells stay good under a conduct, or go astray in answering a request; nothing fails but with
what the conduct bears. -/
structure Conduct.Guards (conduct : Conduct Host) (good astray : Shell Host → Prop) : Prop where
  dispatches : ∀ menu line, conduct.enters (.dispatch menu line)
  same : ∀ {shell later}, good shell → SameStores later shell → good later
  behaves : ∀ {shell id action}, good shell → (shell.tree.node id).action? = some action →
    ∀ line, conduct.Keeps (action line)
  bound : ∀ {shell started visit name}, good shell → conduct.enters visit →
    Leads shell visit (.unbound name) started → conduct.bears (.ofError (.unbound name))
  asks : ∀ {shell step asked}, good shell → shell.next = (step, asked) →
    good asked ∧ ∀ failure, step = .failed failure → conduct.bears failure
  serves : ∀ {shell} {answer : Answer} {request : Request (Action Host) answer}, good shell →
    conduct.allows request → astray (shell.serve request).2 ∨
      (good (shell.serve request).2 ∧
        ∀ failure, (shell.serve request).1 = .error failure → conduct.bears failure)

namespace Conduct.Guards

variable {conduct : Conduct Host} {good astray : Shell Host → Prop}

theorem note (guards : conduct.Guards good astray) (holds : good shell) (event : Event) :
    good (shell.note event) :=
  guards.same holds rfl

theorem leads (guards : conduct.Guards good astray) {visit : Visit} {route : Route}
    (holds : good shell) (leads : Leads shell visit route middle) : good middle := by
  cases leads with
  | execute => exact holds
  | dispatch => exact guards.note holds _

theorem absorbs (guards : conduct.Guards good astray) (holds : good final) :
    good (absorb (result, final)).2 := by
  unfold absorb
  split
  · rename_i same
    obtain ⟨-, rfl⟩ := Prod.mk.inj same
    exact holds
  · rename_i same
    obtain ⟨-, rfl⟩ := Prod.mk.inj same
    split
    · exact holds
    · exact guards.note holds _

theorem error_of_absorb {failure : Failure}
    (absorbed : (absorb (result, final)).1 = .error failure) : result = .error failure := by
  unfold absorb at absorbed
  split at absorbed
  · contradiction
  · rename_i same
    obtain ⟨rfl, -⟩ := Prod.mk.inj same
    split at absorbed
    · exact absorbed
    · contradiction

theorem performs (guards : conduct.Guards good astray) {answer : Answer}
    {request : Request (Action Host) answer} {next : Except Failure answer.Value → Script Host}
    (holds : good shell) (keeps : conduct.Keeps (.perform request next)) :
    Strays astray (.script (.perform request next)) shell ∨
      (good (shell.serve request).2 ∧ conduct.Keeps (next (shell.serve request).1)) := by
  have allowed : conduct.allows request := by
    cases keeps with
    | perform allowed _ _ => exact allowed
  rcases guards.serves holds allowed with wrong | ⟨served, borne⟩
  · exact .inl ⟨_, _, _, (Turn.perform request next shell).comes, wrong⟩
  · exact .inr ⟨served, keeps.after_perform borne⟩

theorem runs (guards : conduct.Guards good astray) (runs : Runs task shell result final)
    (holds : good shell) (admits : conduct.Admits task) :
    Strays astray task shell ∨
      (good final ∧ ∀ failure, result = .error failure → conduct.bears failure) := by
  -- By induction on the rules: every rule but a request keeps what is good, and a request may go
  -- astray.
  induction runs with
  | done signal shell => exact .inr ⟨holds, by simp⟩
  | fail failure shell =>
      cases admits with
      | fail borne =>
          refine .inr ⟨holds, ?_⟩
          rintro _ ⟨⟩
          exact borne
  | consult _ ih =>
      cases admits with
      | consult others => exact (ih holds (others _)).imp_left (Turn.consult _ _).strays
  | remember _ ih =>
      cases admits with
      | remember others =>
          exact (ih (guards.same holds rfl) others).imp_left (Turn.remember _ _ _).strays
  | perform _ ih =>
      rcases guards.performs holds admits with strays | ⟨served, others⟩
      · exact .inl strays
      · exact (ih served others).imp_left (Turn.perform _ _ _).strays
  | @visit shell _ _ stop _ next _ visited _ first second =>
      have keeps : conduct.Keeps (.visit stop next) := admits
      cases admits with
      | visit entered _ _ =>
          rcases first holds entered with strays | ⟨after, borne⟩
          · exact .inl ((Turn.visit stop next shell).strays strays)
          · have others := second after (keeps.after_visit borne)
            exact others.imp_left (Turn.visited visited.ends).strays
  | menu _ ih =>
      rcases ih (guards.same holds rfl) trivial with strays | ⟨left, borne⟩
      · exact .inl ((Turn.menu _ _).strays strays)
      · exact .inr ⟨guards.same left rfl, borne⟩
  | act leads known _ ih =>
      have noted := guards.note (guards.leads holds leads)
      rcases ih (noted _) (guards.behaves holds known _) with strays | ⟨after, borne⟩
      · exact .inl ((Turn.act leads known).strays strays)
      · refine .inr ⟨guards.absorbs after, ?_⟩
        intro failure absorbed
        exact borne failure (error_of_absorb absorbed)
  | report leads => exact .inr ⟨guards.note (guards.leads holds leads) _, by simp⟩
  | unbound leads =>
      refine .inr ⟨guards.leads holds leads, ?_⟩
      rintro _ ⟨⟩
      exact guards.bound holds admits leads
  | ended next => exact .inr ⟨(guards.asks holds next).1, by simp⟩
  | failed next =>
      obtain ⟨asked, borne⟩ := guards.asks holds next
      refine .inr ⟨asked, ?_⟩
      rintro _ ⟨⟩
      exact borne _ rfl
  | again next _ ih =>
      have others := ih (guards.asks holds next).1 trivial
      exact others.imp_left (Turn.again next).strays
  | normal next dispatched _ first second =>
      rcases first (guards.asks holds next).1 (guards.dispatches _ _) with strays | ⟨after, -⟩
      · exact .inl ((Turn.line next).strays strays)
      · exact (second after trivial).imp_left (Turn.later next dispatched.ends).strays
  | quit next _ ih =>
      rcases ih (guards.asks holds next).1 (guards.dispatches _ _) with strays | ⟨after, -⟩
      · exact .inl ((Turn.line next).strays strays)
      · exact .inr ⟨after, by simp⟩
  | broken next _ ih =>
      rcases ih (guards.asks holds next).1 (guards.dispatches _ _) with strays | ⟨after, borne⟩
      · exact .inl ((Turn.line next).strays strays)
      · refine .inr ⟨after, ?_⟩
        rintro _ ⟨⟩
        exact borne _ rfl

theorem turn (guards : conduct.Guards good astray) {opened : List Opened}
    (turn : Turn task shell opened sub middle) (holds : good shell) (admits : conduct.Admits task) :
    Strays astray task shell ∨ (good middle ∧ conduct.Admits sub) := by
  cases turn with
  | menu => exact .inr ⟨guards.same holds rfl, trivial⟩
  | act leads known =>
      exact .inr ⟨guards.note (guards.leads holds leads) _, guards.behaves holds known _⟩
  | consult =>
      cases admits with
      | consult others => exact .inr ⟨holds, others _⟩
  | remember =>
      cases admits with
      | remember others => exact .inr ⟨guards.same holds rfl, others⟩
  | perform => exact guards.performs holds admits
  | visit =>
      cases admits with
      | visit entered _ _ => exact .inr ⟨holds, entered⟩
  | @visited _ _ stop result next ends =>
      have keeps : conduct.Keeps (.visit stop next) := admits
      cases admits with
      | visit entered _ _ =>
          rcases guards.runs (ends_iff_runs.mp ends) holds entered with strays | ⟨after, borne⟩
          · exact .inl ((Turn.visit stop next shell).strays strays)
          · exact .inr ⟨after, keeps.after_visit borne⟩
  | again next => exact .inr ⟨(guards.asks holds next).1, trivial⟩
  | line next => exact .inr ⟨(guards.asks holds next).1, guards.dispatches _ _⟩
  | later next ends =>
      have asked := (guards.asks holds next).1
      rcases guards.runs (ends_iff_runs.mp ends) asked (guards.dispatches _ _) with
        strays | ⟨after, -⟩
      · exact .inl ((Turn.line next).strays strays)
      · exact .inr ⟨after, trivial⟩

theorem comes (guards : conduct.Guards good astray) {loops : List Opened}
    (points : Comes task shell loops sub middle) (holds : good shell)
    (admits : conduct.Admits task) :
    Strays astray task shell ∨ (good middle ∧ conduct.Admits sub) := by
  induction points with
  | here => exact .inr ⟨holds, admits⟩
  | turn points turn ih =>
      rcases ih with strays | ⟨reached, admitted⟩
      · exact .inl strays
      · rcases guards.turn turn reached admitted with ⟨loops, _, _, others, wrong⟩ | later
        · exact .inl ⟨_, _, _, points.trans others, wrong⟩
        · exact .inr later

end Conduct.Guards

end Shell

end MenuShell

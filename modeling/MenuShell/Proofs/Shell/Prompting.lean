import MenuShell.Proofs.Input.Backlog
import MenuShell.Proofs.Shell.Points

/-!
Prompts in nested loops. Whatever is visited leaves the prompts as it has found them, and a loop asks
its lines with the prompt that its menu had when the loop was entered, or else with that of the nearest
loop around it which had one.
-/

namespace MenuShell

theorem Source.Passes.prompt_eq {prompt? : Option String} {source later : Source}
    {readings : List Reading} {result : Except Failure (Option String)}
    (passes : source.Passes prompt? readings result later) :
    ∀ reading ∈ readings, reading.prompt? = prompt? := by
  induction passes with
  | stop => simp
  | pass _ _ _ ih => simpa using ih

theorem InputStack.prompt_of_query (input : InputStack) (prompt? : Option String) :
    ∀ reading ∈ (input.query prompt?).readings, reading.prompt? = prompt? := by
  obtain ⟨frames, source⟩ := input
  induction frames with
  | nil => exact (query_fromSource prompt? source).passes.prompt_eq
  | cons frame below ih =>
      simp only [query, drawFrom]
      split
      · simp
      · exact ih
      · simp

namespace Shell

variable {Host : Type} {shell middle final : Shell Host} {task sub : Task Host}
  {result : Except Failure Signal} {reading : Reading}

def Adds (shell later : Shell Host) (events : List Event) : Prop :=
  later.transcript.toList = shell.transcript.toList ++ events

theorem Adds.nothing {later : Shell Host} (same : later.transcript = shell.transcript) :
    shell.Adds later [] := by
  rw [Adds, same, List.append_nil]

theorem Adds.trans {first second : List Event} (adds : shell.Adds middle first)
    (others : middle.Adds final second) : shell.Adds final (first ++ second) := by
  rw [Adds, others, adds, List.append_assoc]

theorem adds_note (shell : Shell Host) (event : Event) : shell.Adds (shell.note event) [event] :=
  Array.toList_push

theorem adds_query (shell : Shell Host) (prompt? : Option String) :
    shell.Adds (shell.query prompt?).2 ((shell.input.query prompt?).readings.map .read) := by
  simp [Adds, query, receive]

theorem Adds.next {step : Next} (next : shell.next = (step, middle)) :
    ∃ events, shell.Adds middle events ∧
      ∀ reading, .read reading ∈ events → reading.prompt? = shell.prompts.current? := by
  have asked := adds_query shell shell.prompts.current?
  have known := shell.input.prompt_of_query shell.prompts.current?
  rcases next_cases next with rfl | ⟨text, rfl⟩
  · refine ⟨_, asked, ?_⟩
    intro reading member
    exact known reading (by simpa using member)
  · refine ⟨_, asked.trans (adds_note _ _), ?_⟩
    intro reading member
    exact known reading (by simpa using member)

theorem Effect.adds {answer : Answer} {request : Request (Action Host) answer}
    (effect : Effect shell request final) : ∃ events, shell.Adds final events := by
  cases effect with
  | wrote text => exact ⟨_, adds_note _ _⟩
  | queried prompt? => exact ⟨_, adds_query shell prompt?⟩
  | read prompt? => exact ⟨_, by simp [Adds, readExternal, receive]; rfl⟩
  | recorded records =>
      obtain ⟨source, kept⟩ := shell.keepRecords_cases records
      exact ⟨[], .nothing (by rw [kept])⟩
  | _ => exact ⟨[], .nothing rfl⟩

theorem Effect.prompts_eq {answer : Answer} {request : Request (Action Host) answer}
    (effect : Effect shell request final) : final.prompts = shell.prompts := by
  cases effect with
  | recorded records =>
      obtain ⟨source, kept⟩ := shell.keepRecords_cases records
      rw [kept]
  | _ => rfl

theorem prompts_next {step : Next} (next : shell.next = (step, middle)) :
    middle.prompts = shell.prompts := by
  rcases next_cases next with rfl | ⟨text, rfl⟩ <;> rfl

theorem Leads.prompts_eq {visit : Visit} {route : Route} (leads : Leads shell visit route middle) :
    middle.prompts = shell.prompts := by
  cases leads <;> rfl

theorem prompts_absorb (outcome : Outcome Host) :
    (absorb outcome).2.prompts = outcome.2.prompts := by
  unfold absorb
  split
  · rfl
  · split <;> rfl

theorem Runs.prompts_eq (runs : Runs task shell result final) : final.prompts = shell.prompts := by
  induction runs with
  | done | fail => rfl
  | consult _ ih | remember _ ih => exact ih
  | perform _ ih => rw [ih, (effect_serve _ _).prompts_eq]
  | visit _ _ visited others => rw [others, visited]
  | menu _ ih =>
      -- The loop leaves on top the prompt that was pushed for it.
      simp only [leaveLoop, ih, enterLoop]
      rfl
  | act leads _ _ ih =>
      rw [prompts_absorb, ih]
      exact leads.prompts_eq
  | report leads | unbound leads => exact leads.prompts_eq
  | ended next | failed next => exact prompts_next next
  | again next _ ih => rw [ih, prompts_next next]
  | normal next _ _ dispatched others => rw [others, dispatched, prompts_next next]
  | quit next _ dispatched | broken next _ dispatched => rw [dispatched, prompts_next next]

def pile (prompts : PromptStack) : List Opened → PromptStack
  | [] => prompts
  | opened :: outer =>
    (pile prompts outer).push (opened.prompt?.or (pile prompts outer).current?)

theorem pile_append (prompts : PromptStack) (inner outer : List Opened) :
    pile prompts (inner ++ outer) = pile (pile prompts outer) inner := by
  induction inner with
  | nil => rfl
  | cons opened inner ih => simp only [List.cons_append, pile, ih]

theorem current?_pile (prompts : PromptStack) (loops : List Opened) :
    (pile prompts loops).current? = (loops.findSome? Opened.prompt?).or prompts.current? := by
  induction loops with
  | nil => rfl
  | cons opened outer ih =>
      have top : (pile prompts (opened :: outer)).current? =
          opened.prompt?.or (pile prompts outer).current? := by
        simp [pile, PromptStack.current?, PromptStack.push]
      rw [top, ih]
      cases own : opened.prompt? <;> simp [own]

theorem Turn.prompts_eq {opened : List Opened} (turn : Turn task shell opened sub middle) :
    middle.prompts = pile shell.prompts opened := by
  cases turn with
  | menu | consult | remember | visit => rfl
  | act leads => exact leads.prompts_eq
  | perform => exact (effect_serve _ _).prompts_eq
  | visited ends => exact (ends_iff_runs.mp ends).prompts_eq
  | again next | line next => exact prompts_next next
  | later next ends =>
      rw [(ends_iff_runs.mp ends).prompts_eq, prompts_next next]
      rfl

theorem Comes.prompts_eq {loops : List Opened} (points : Comes task shell loops sub middle) :
    middle.prompts = pile shell.prompts loops := by
  induction points with
  | here => rfl
  | turn _ turn ih => rw [turn.prompts_eq, ih, pile_append]

theorem Comes.innermost {visit : Visit} {loops : List Opened} {menu : NodeId}
    (points : Comes (.visit visit) shell loops (.loop menu) middle) :
    ∃ own? outer, loops = ⟨menu, own?⟩ :: outer := by
  generalize reached : Task.loop menu = sub at points
  induction points generalizing menu with
  | here => contradiction
  | turn _ turn ih =>
      subst reached
      cases turn with
      | menu => exact ⟨_, _, rfl⟩
      | again | later => exact ih rfl

inductive Asks (task : Task Host) (shell : Shell Host) (reading : Reading) : Prop
  | loop {loops : List Opened} {menu : NodeId} {asking asked : Shell Host} {step : Next}
      {events : List Event} : Comes task shell loops (.loop menu) asking →
      asking.next = (step, asked) → asking.Adds asked events → .read reading ∈ events →
      Asks task shell reading
  | request {loops : List Opened} {answer : Answer} {request : Request (Action Host) answer}
      {next : Except Failure answer.Value → Script Host} {asking : Shell Host}
      {events : List Event} : Comes task shell loops (.script (.perform request next)) asking →
      asking.Adds (asking.serve request).2 events → .read reading ∈ events →
      Asks task shell reading

theorem Turn.asks {opened : List Opened} (turn : Turn task shell opened sub middle)
    (asks : Asks sub middle reading) : Asks task shell reading := by
  cases asks with
  | loop points next adds member => exact .loop (turn.then points) next adds member
  | request points adds member => exact .request (turn.then points) adds member

def Accounts (task : Task Host) (start shell later : Shell Host) : Prop :=
  ∃ events, shell.Adds later events ∧ ∀ reading, .read reading ∈ events → Asks task start reading

theorem Accounts.trans {start : Shell Host} (first : Accounts task start shell middle)
    (others : Accounts task start middle final) : Accounts task start shell final := by
  obtain ⟨events, adds, asked⟩ := first
  obtain ⟨later, laterAdds, laterAsked⟩ := others
  refine ⟨events ++ later, adds.trans laterAdds, ?_⟩
  intro reading member
  rcases List.mem_append.mp member with member | member
  · exact asked reading member
  · exact laterAsked reading member

theorem Turn.accounts {opened : List Opened} {start begun : Shell Host}
    (turn : Turn task start opened sub begun) (accounts : Accounts sub begun shell final) :
    Accounts task start shell final := by
  obtain ⟨events, adds, asked⟩ := accounts
  exact ⟨events, adds, fun reading member => turn.asks (asked reading member)⟩

theorem accounts_same {start : Shell Host} (same : final.transcript = shell.transcript) :
    Accounts task start shell final :=
  ⟨[], .nothing same, by simp⟩

theorem accounts_note {start : Shell Host} {event : Event}
    (quiet : ∀ reading, event ≠ .read reading) :
    Accounts task start shell (shell.note event) := by
  refine ⟨[event], adds_note shell event, ?_⟩
  intro reading member
  exact absurd (List.mem_singleton.mp member).symm (quiet reading)

theorem accounts_next {menu : NodeId} {step : Next} (next : shell.next = (step, middle)) :
    Accounts (.loop menu) shell shell middle := by
  obtain ⟨events, adds, -⟩ := Adds.next next
  exact ⟨events, adds, fun reading member => .loop .here next adds member⟩

theorem Leads.accounts {visit : Visit} {route : Route} (leads : Leads shell visit route middle) :
    Accounts (.visit visit) shell shell middle := by
  cases leads with
  | execute => exact accounts_same rfl
  | dispatch => exact accounts_note (by simp)

theorem accounts_absorb {start : Shell Host} (outcome : Outcome Host) :
    Accounts task start outcome.2 (absorb outcome).2 := by
  unfold absorb
  split
  · exact accounts_same rfl
  · split
    · exact accounts_same rfl
    · exact accounts_note (by simp)

theorem Runs.accounts (runs : Runs task shell result final) : Accounts task shell shell final := by
  induction runs with
  | done | fail => exact accounts_same rfl
  | consult _ ih => exact (Turn.consult _ _).accounts ih
  | remember _ ih => exact (accounts_same rfl).trans ((Turn.remember _ _ _).accounts ih)
  | @perform shell _ _ request next _ _ ih =>
      obtain ⟨events, adds⟩ := (effect_serve shell request).adds
      have served :
          Accounts (.script (.perform request next)) shell shell (shell.serve request).2 :=
        ⟨events, adds, fun reading member => .request .here adds member⟩
      exact served.trans ((Turn.perform _ _ _).accounts ih)
  | visit visited _ first others =>
      exact ((Turn.visit _ _ _).accounts first).trans ((Turn.visited visited.ends).accounts others)
  | menu _ ih =>
      have looped := (Turn.menu _ _).accounts ih
      exact (accounts_same rfl).trans (looped.trans (accounts_same rfl))
  | act leads known _ ih =>
      have acted := (accounts_note (by simp)).trans ((Turn.act leads known).accounts ih)
      exact leads.accounts.trans (acted.trans (accounts_absorb _))
  | report leads => exact leads.accounts.trans (accounts_note (by simp))
  | unbound leads => exact leads.accounts
  | ended next | failed next => exact accounts_next next
  | again next _ ih => exact (accounts_next next).trans ((Turn.again next).accounts ih)
  | normal next dispatched _ first others =>
      have carried := (Turn.line next).accounts first
      have later := (Turn.later next dispatched.ends).accounts others
      exact (accounts_next next).trans (carried.trans later)
  | quit next _ ih | broken next _ ih =>
      exact (accounts_next next).trans ((Turn.line next).accounts ih)

/-- A visit that ends leaves the prompts as they were, and all that has been read in it was asked for
by a loop or by a script on the way. A loop, whether or not it ends, asks with the prompt that its menu
had when it was entered, else with that of the nearest loop around it that had one; `loops` are the
loops that the visit has entered, the innermost first. -/
theorem prompts_follow_loops {Host : Type} :
    (∀ (shell final : Shell Host) (visit : Visit) (result : Except Failure Signal),
      Ends (.visit visit) shell (result, final) →
      final.prompts = shell.prompts ∧ Accounts (.visit visit) shell shell final) ∧
    ∀ (shell asking asked : Shell Host) (visit : Visit) (loops : List Opened) (menu : NodeId)
      (step : Next), Comes (.visit visit) shell loops (.loop menu) asking →
      asking.next = (step, asked) →
      ∃ own? outer events, loops = ⟨menu, own?⟩ :: outer ∧ asking.Adds asked events ∧
        ∀ reading, .read reading ∈ events →
          reading.prompt? =
            (own?.or (outer.findSome? Opened.prompt?)).or shell.prompts.current? := by
  refine ⟨?_, ?_⟩
  · intro shell final visit result ends
    have runs := ends_iff_runs.mp ends
    exact ⟨runs.prompts_eq, runs.accounts⟩
  · intro shell asking asked visit loops menu step points next
    obtain ⟨own?, outer, rfl⟩ := points.innermost
    obtain ⟨events, adds, asks⟩ := Adds.next next
    refine ⟨own?, outer, events, rfl, adds, ?_⟩
    intro reading member
    rw [asks reading member, points.prompts_eq, current?_pile]
    cases own? <;> rfl

theorem prompts_follow_loops_of_renamed :
    let sub : Action Unit := fun _ => .enter (.menu 1) fun _ => .done .normal
    let rename : Action Unit := fun _ => .ask (.edit (.setPrompt 0 (some "new"))) fun _ =>
      .done .normal
    let tree : Tree (Action Unit) :=
      { nodes := #[{ comparison? := some .sensitive, prompt? := some "$", children := [1] },
          { Node.leaf "sub" sub with children := [2], parent? := some 0 },
          { Node.leaf "rename" rename with parent? := some 1 }] }
    let shell : Shell Unit :=
      { tree, input := { source := .listed [.ok "sub", .ok "rename"] }, procedures := {},
        conditions := [], prompts := {}, settings := {}, records := .empty, notebooks := [],
        transcript := #[], host := () }
    (∃ asking asked events,
      Comes (.visit (.menu 0)) shell [⟨1, none⟩, ⟨0, some "$"⟩] (.loop 1) asking ∧
      (asking.tree.node 0).prompt? = some "new" ∧ asking.next = (.ended, asked) ∧
      asking.Adds asked events ∧ ∀ reading, .read reading ∈ events → reading.prompt? = some "$") ∧
    ∃ final, Ends (.visit (.menu 0)) shell (.ok .normal, final) ∧ final.prompts = {} := by
  intro sub rename tree shell
  obtain ⟨leaves, asks⟩ := @prompts_follow_loops Unit
  have subLeads : Leads (shell.enterLoop 0).next.2 (.dispatch 0 (Text.trim "sub")) (.act 1 "") _ :=
    .dispatch (by decide)
  let begun :=
    ((shell.enterLoop 0).next.2.note (.dispatched 0 (Text.trim "sub"))).note (.acted 1 "")
  let read := (begun.enterLoop 1).next.2
  have renameLeads : Leads read (.dispatch 1 (Text.trim "rename")) (.act 2 "") _ :=
    .dispatch (by decide)
  have renamed : Ends (.visit (.dispatch 1 (Text.trim "rename"))) read (.ok .normal, _) :=
    (renameLeads.ends_act rfl).mpr ⟨_, (ends_perform _ _).mpr ((ends_done _).mpr rfl), rfl⟩
  have points := (((((Comes.here.turn (.menu 0 shell)).turn (.line rfl)).turn
    (.act subLeads rfl)).turn (.visit _ _ _)).turn (.menu 1 begun)).turn (.later rfl renamed)
  obtain ⟨own?, outer, events, loops, adds, prompted⟩ := asks _ _ _ _ _ _ _ points rfl
  have ended : (run 20 (.visit (.menu 0)) shell).map Prod.fst = some (.ok .normal) := rfl
  obtain ⟨⟨result, final⟩, ended, rfl⟩ := Option.map_eq_some_iff.mp ended
  refine ⟨⟨_, _, events, points, rfl, rfl, adds, ?_⟩, final, ⟨20, ended⟩, ?_⟩
  · intro reading member
    cases loops
    exact prompted reading member
  · exact (leaves _ _ _ _ ⟨20, ended⟩).1

end Shell

end MenuShell

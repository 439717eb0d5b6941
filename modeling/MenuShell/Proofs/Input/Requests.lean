import MenuShell.Proofs.Input.Delivery
import MenuShell.Shell.State

/-!
Requests to return and to jump. They are kept by the topmost call, whatever lies on it, and decide
what it gives once it is asked again: a return beats all jumps, the last jump beats those before it,
and a jump to an unknown label costs the call its other lines. The frames above and below it give
what they would have given anyway.
-/

namespace MenuShell

inductive Demand where
  | leave
  | jump (label : String)
deriving DecidableEq, Repr

namespace Demand

def label? : Demand → Option String
  | .leave => none
  | .jump label => some label

def command : Demand → String
  | .leave => "return"
  | .jump _ => "goto"

def request {Action : Type} : Demand → Request Action .nothing
  | .leave => .requestReturn
  | .jump label => .requestJump label

end Demand

namespace Call

def heed (call : Call) : Demand → Call
  | .leave => call.requestReturn
  | .jump label => call.requestJump label

def heedAll (call : Call) (demands : List Demand) : Call :=
  demands.foldl heed call

inductive Asked : Call → Prop
  | fresh {procedures : ProcedureStore} {name : String} {call : Call} :
      procedures.call name = .ok call → Asked call
  | drawn {before call : Call} {line : String} :
      (Frame.call before).draw = .line line (.call call) → Asked call

/-- What a call still gives once requests have been made of it. -/
def aftermath (call : Call) (demands : List Demand) : List (Except Failure (Option String)) :=
  if .leave ∈ demands then []
  else match (demands.filterMap Demand.label?).getLast? with
    | none => given call.remaining
    | some label =>
      match call.procedure.label? label with
      | some index => given (call.procedure.lines.drop index)
      | none => [.error (.ofError (.labelNotFound label))]

theorem heedAll_append (call : Call) (earlier later : List Demand) :
    call.heedAll (earlier ++ later) = (call.heedAll earlier).heedAll later :=
  List.foldl_append

theorem heedAll_eq (call : Call) (demands : List Demand) :
    call.heedAll demands =
      { call with
        returning := decide (.leave ∈ demands) || call.returning
        jump? := (demands.filterMap Demand.label?).getLast?.or call.jump? } := by
  induction demands generalizing call with
  | nil => simp [heedAll]
  | cons demand demands ih =>
      have later : call.heedAll (demand :: demands) = (call.heed demand).heedAll demands := rfl
      rw [later, ih]
      cases demand with
      | leave => simp [heed, requestReturn, Demand.label?]
      | jump label =>
          cases last : (demands.filterMap Demand.label?).getLast? <;>
            simp [heed, requestJump, Demand.label?, List.getLast?_cons, last]

theorem Asked.idle {call : Call} (asked : call.Asked) : call.Idle := by
  cases asked with
  | @fresh procedures name _ made =>
      unfold ProcedureStore.call at made
      split at made
      · cases made
        exact ⟨rfl, rfl, rfl⟩
      · contradiction
  | @drawn before _ line drawn =>
      rcases Frame.draw_cases (Frame.finite_call before) with
        ⟨-, other⟩ | ⟨error, -, other⟩ | ⟨first, rest, settled, -, other⟩
      · rw [drawn] at other
        contradiction
      · rw [drawn] at other
        contradiction
      · rw [drawn] at other
        cases other
        exact settled

theorem Idle.answers_heedAll {call : Call} (idle : call.Idle) (demands : List Demand) :
    (Frame.call (call.heedAll demands)).answers = call.aftermath demands := by
  rw [heedAll_eq, idle.staying, idle.straight, Bool.or_false, Option.or_none]
  by_cases leaving : .leave ∈ demands
  · simp [Frame.answers, settle, aftermath, leaving, idle.running, remaining, given]
  · cases last : (demands.filterMap Demand.label?).getLast? with
    | none => simp [Frame.answers, settle, aftermath, leaving, last, idle.running, remaining]
    | some label =>
        cases known : call.procedure.label? label with
        | none => simp [Frame.answers, settle, aftermath, leaving, last, known, idle.running]
        | some index =>
            simp [Frame.answers, settle, aftermath, leaving, last, known, idle.running, remaining]

end Call

namespace InputStack

def demand (input : InputStack) : Demand → Except MenuError InputStack
  | .leave => input.requestReturn
  | .jump label => input.requestJump label

def demandAll (input : InputStack) (demands : List Demand) : Except MenuError InputStack :=
  demands.foldlM demand input

def around (above : List (List String)) (call : Call) (below : List Frame) (source : Source) :
    InputStack :=
  { frames := above.map .lines ++ .call call :: below, source }

theorem demand_eq (input : InputStack) (demand : Demand) :
    input.demand demand = input.requestOfCall demand.command (·.heed demand) := by
  cases demand <;> rfl

theorem onInnermostCall?_lines (change : Call → Call) (above : List (List String)) (call : Call)
    (below : List Frame) :
    onInnermostCall? change (above.map .lines ++ .call call :: below) =
      some (above.map .lines ++ .call (change call) :: below) := by
  induction above with
  | nil => rfl
  | cons lines above ih =>
      simp only [List.map_cons, List.cons_append, onInnermostCall?, ih, Option.map_some]

theorem onInnermostCall?_eq_none (change : Call → Call) {frames : List Frame}
    (plain : ∀ running, .call running ∉ frames) : onInnermostCall? change frames = none := by
  induction frames with
  | nil => rfl
  | cons frame below ih =>
      have lower := ih fun running member => plain running (List.mem_cons_of_mem _ member)
      cases frame with
      | lines _ => simp [onInnermostCall?, lower]
      | endless _ => simp [onInnermostCall?, lower]
      | call running => exact absurd List.mem_cons_self (plain running)

theorem demandAll_around (above : List (List String)) (call : Call) (below : List Frame)
    (source : Source) (demands : List Demand) :
    (around above call below source).demandAll demands =
      .ok (around above (call.heedAll demands) below source) := by
  induction demands generalizing call with
  | nil => rfl
  | cons demand demands ih =>
      have first : (around above call below source).demand demand =
          .ok (around above (call.heed demand) below source) := by
        rw [demand_eq, requestOfCall, around, onInnermostCall?_lines]
        rfl
      rw [demandAll, List.foldlM_cons, first]
      exact ih (call.heed demand)

theorem demand_without_call {input : InputStack} (plain : ∀ running, .call running ∉ input.frames)
    (demand : Demand) : input.demand demand = .error (.noActiveCall demand.command) := by
  rw [demand_eq, requestOfCall, onInnermostCall?_eq_none _ plain]

theorem delivers_around (above : List (List String)) (call : Call) (below : List Frame)
    (source : Source) :
    (around above call below source).Delivers (given above.flatten ++ (Frame.call call).answers)
      { frames := below, source } := by
  have top := delivers_lines above (.call call :: below) source
  exact top.trans (delivers_frame (Frame.finite_call call) below source)

theorem serve_demand_without_call {Host : Type} {shell : Shell Host}
    (plain : ∀ running, .call running ∉ shell.input.frames) (demand : Demand) :
    shell.serve demand.request = (.error (.ofError (.noActiveCall demand.command)), shell) := by
  have refused := demand_without_call plain demand
  cases demand with
  | leave =>
      have failed : shell.input.requestReturn = _ := refused
      simp only [Demand.request, Shell.serve, failed]
      rfl
  | jump label =>
      have failed : shell.input.requestJump label = _ := refused
      simp only [Demand.request, Shell.serve, failed]
      rfl

/-- The requests made since a call was last asked, some of them perhaps before the lines now on top
of it came there, change that call only, and this is all that it still gives. Where there is no
call, a request fails. -/
theorem requests_settle_innermost_call {Host : Type} :
    (∀ (above : List (List String)) (call : Call) (below : List Frame) (source : Source)
      (earlier later : List Demand), call.Asked →
      let requested := around above (call.heedAll (earlier ++ later)) below source
      (around above (call.heedAll earlier) below source).demandAll later = .ok requested ∧
      requested.Delivers (given above.flatten ++ call.aftermath (earlier ++ later))
        { frames := below, source } ∧
      (around above call below source).Delivers (given above.flatten ++ given call.remaining)
        { frames := below, source }) ∧
    ∀ (shell : Shell Host) (demand : Demand), (∀ running, .call running ∉ shell.input.frames) →
      shell.input.demand demand = .error (.noActiveCall demand.command) ∧
      shell.serve demand.request =
        (.error (.ofError (.noActiveCall demand.command)), shell) := by
  refine ⟨?_, ?_⟩
  · intro above call below source earlier later asked requested
    have idle := asked.idle
    refine ⟨?_, ?_, ?_⟩
    · rw [demandAll_around, ← Call.heedAll_append]
    · rw [← idle.answers_heedAll]
      exact delivers_around above _ below source
    · have unasked : (Frame.call call).answers = given call.remaining :=
        Frame.Settled.answers_eq (show (Frame.call call).Settled from idle)
      rw [← unasked]
      exact delivers_around above call below source
  · intro shell demand plain
    exact ⟨demand_without_call plain demand, serve_demand_without_call plain demand⟩

theorem requests_settle_covered_call :
    let procedure : Procedure :=
      { lines := ["first", "skipped", " ", "last"], labels := [("start", 0), ("end", 2)] }
    let outer : Call := { name := "outer", procedure, returning := true }
    let inner : Call := { name := "inner", procedure, position := 1 }
    let source : Source := .listed [.ok "typed"]
    let requested :=
      around [["macro", ""]] (inner.heedAll [.jump "start", .jump "end"]) [.call outer] source
    let shell : Shell Unit :=
      { tree := Tree.empty .sensitive, input := { frames := [.lines ["macro"]] }, procedures := {},
        conditions := [], prompts := {}, settings := {}, records := .empty, notebooks := [],
        transcript := #[], host := () }
    ((around [["macro", ""]] (inner.heedAll [.jump "start"]) [.call outer] source).demandAll
        [.jump "end"] = .ok requested ∧
      requested.Delivers [.ok (some "macro"), .ok (some "last")]
        { frames := [.call outer], source }) ∧
    shell.serve .requestReturn = (.error (.ofError (.noActiveCall "return")), shell) := by
  intro procedure outer inner source requested shell
  -- The inner call has given its first line; the macro came on top of it after the first jump.
  have drawn : (Frame.call { name := "inner", procedure }).draw = .line "first" (.call inner) := by
    decide
  have plain : ∀ running, .call running ∉ shell.input.frames := by simp [shell]
  obtain ⟨settled, refused⟩ := @requests_settle_innermost_call Unit
  obtain ⟨made, delivered, -⟩ := settled [["macro", ""]] inner [.call outer] source
    [.jump "start"] [.jump "end"] (.drawn drawn)
  exact ⟨⟨made, delivered⟩, (refused shell .leave plain).2⟩

end InputStack

end MenuShell

import MenuShell.Procedure.Store
import MenuShell.Proofs.Input.Delivery

/-!
A stack of frames is one flat list of pending lines. What is pushed goes in front of the list without
its blank lines, a query takes the first line off, and only if there is none is the external source
read, past its blank lines. Frames that have run out but still lie on the stack, frames that are
read in part and calls under way make no difference to this.
-/

namespace MenuShell

inductive Feed where
  | lines (lines : List String)
  | line (line : String)
  | call (procedures : ProcedureStore) (name : String)
  | query (prompt? : Option String)

namespace InputStack

def feed (input : InputStack) : Feed → List Reply × InputStack
  | .lines lines => ([], input.pushLines lines)
  | .line line => ([], input.pushLine line)
  | .call procedures name =>
    match procedures.call name with
    | .ok running => ([], input.pushCall running)
    | .error _ => ([], input)
  | .query prompt? =>
    let answered := input.query prompt?
    ([{ result := answered.result, readings := answered.readings }], answered.rest)

def feedAll (input : InputStack) : List Feed → List Reply × InputStack
  | [] => ([], input)
  | feed :: feeds =>
    let (replies, fed) := input.feed feed
    let (others, last) := fed.feedAll feeds
    (replies ++ others, last)

def Settled (input : InputStack) : Prop :=
  ∀ frame ∈ input.frames, frame.Settled

def pending (input : InputStack) : List String :=
  nonBlank (input.frames.flatMap Frame.unread)

end InputStack

inductive Source.Passes (prompt? : Option String) :
    Source → List Reading → Except Failure (Option String) → Source → Prop
  | stop {source later : Source} {result : Except Failure (Option String)} :
      source.read = (result, later) → InputStack.isBlankLine result = false →
      Passes prompt? source [{ prompt?, result }] result later
  | pass {source middle later : Source} {line : String} {readings : List Reading}
      {result : Except Failure (Option String)} :
      source.read = (.ok (some line), middle) → Text.isBlank line = true →
      Passes prompt? middle readings result later →
      Passes prompt? source ({ prompt?, result := .ok (some line) } :: readings) result later

structure Answered.FromSource (answered : Answered) (source : Source) (prompt? : Option String) :
    Prop where
  emptied : answered.rest.frames = []
  passes : source.Passes prompt? answered.readings answered.result answered.rest.source

structure Backlog where
  pending : List String
  source : Source

def InputStack.backlog (input : InputStack) : Backlog :=
  { pending := input.pending, source := input.source }

namespace Backlog

inductive Step : Backlog → Feed → List Reply → Backlog → Prop
  | lines {pending lines : List String} {source : Source} :
      Step ⟨pending, source⟩ (.lines lines) [] ⟨nonBlank lines ++ pending, source⟩
  | line {pending : List String} {line : String} {source : Source} :
      Step ⟨pending, source⟩ (.line line) [] ⟨nonBlank [line] ++ pending, source⟩
  | call {pending : List String} {source : Source} {procedures : ProcedureStore} {name : String}
      {procedure : Procedure} : procedures.get? name = some procedure →
      Step ⟨pending, source⟩ (.call procedures name) [] ⟨nonBlank procedure.lines ++ pending, source⟩
  | unknown {backlog : Backlog} {procedures : ProcedureStore} {name : String} :
      procedures.get? name = none → Step backlog (.call procedures name) [] backlog
  | take {line : String} {pending : List String} {source : Source} {prompt? : Option String} :
      Step ⟨line :: pending, source⟩ (.query prompt?) [.silent (.ok (some line))] ⟨pending, source⟩
  | read {source later : Source} {prompt? : Option String} {readings : List Reading}
      {result : Except Failure (Option String)} : source.Passes prompt? readings result later →
      Step ⟨[], source⟩ (.query prompt?) [{ result, readings }] ⟨[], later⟩

inductive Run : Backlog → List Feed → List Reply → Backlog → Prop
  | nil {backlog : Backlog} : Run backlog [] [] backlog
  | cons {first middle last : Backlog} {feed : Feed} {feeds : List Feed}
      {replies others : List Reply} : Step first feed replies middle →
      Run middle feeds others last → Run first (feed :: feeds) (replies ++ others) last

end Backlog

namespace InputStack

theorem line_of_isBlankLine {result : Except Failure (Option String)}
    (blank : isBlankLine result = true) :
    ∃ line, result = .ok (some line) ∧ Text.isBlank line = true := by
  match result, blank with
  | .ok (some line), blank => exact ⟨line, rfl, blank⟩

theorem readOrPass_fromSource {prompt? : Option String} {source : Source}
    {further : Source → Answered}
    (rest : ∀ line middle, source.read = (.ok (some line), middle) → Text.isBlank line = true →
      (further middle).FromSource middle prompt?) :
    (readOrPass prompt? source further).FromSource source prompt? := by
  rcases taken : source.read with ⟨result, middle⟩
  cases blank : isBlankLine result with
  | false =>
      simp only [readOrPass, readExternal, taken, blank]
      exact ⟨rfl, .stop taken blank⟩
  | true =>
      obtain ⟨line, rfl, -⟩ := line_of_isBlankLine blank
      have later := rest line middle taken blank
      simp only [readOrPass, readExternal, taken, blank, if_true]
      exact ⟨later.emptied, .pass taken blank later.passes⟩

theorem readPastBlanks_fromSource {prompt? : Option String} {bound : Nat} {source : Source}
    (enough : source.bound ≤ bound) :
    (readPastBlanks prompt? bound source).FromSource source prompt? := by
  induction bound generalizing source with
  | zero =>
      rcases taken : source.read with ⟨result, later⟩
      simp only [readPastBlanks, readExternal, taken]
      refine ⟨rfl, .stop taken ?_⟩
      -- A source that is used up gives no line, so no blank one either.
      match result, taken with
      | .ok (some line), taken =>
          have fewer := Source.bound_of_read_line taken
          omega
      | .ok none, _ => rfl
      | .error _, _ => rfl
  | succ bound ih =>
      apply readOrPass_fromSource
      intro line middle taken _
      have fewer := Source.bound_of_read_line taken
      exact ih (by omega)

theorem query_fromSource (prompt? : Option String) (source : Source) :
    (query { source } prompt?).FromSource source prompt? := by
  have asked : query { source } prompt? =
      readOrPass prompt? source fun later => readPastBlanks prompt? later.bound later := rfl
  rw [asked]
  apply readOrPass_fromSource
  intro line middle _ _
  exact readPastBlanks_fromSource (Nat.le_refl _)

theorem pending_cons (frame : Frame) (below : List Frame) (source : Source) :
    pending { frames := frame :: below, source } =
      nonBlank frame.unread ++ pending { frames := below, source } := by
  simp [pending, nonBlank_append]

theorem given_injective {lines : List String} {line : String}
    {later : List String} (same : given lines = .ok (some line) :: given later) :
    nonBlank lines = line :: nonBlank later := by
  have injective : ∀ left right : String,
      (.ok (some left) : Except Failure (Option String)) = .ok (some right) → left = right := by
    intro left right equal
    simpa using equal
  exact (List.map_inj_right injective).mp same

theorem query_settled {frames : List Frame} (settled : ∀ frame ∈ frames, frame.Settled)
    (source : Source) (prompt? : Option String) :
    (∃ line left, (∀ frame ∈ left, frame.Settled) ∧
      pending { frames, source } = line :: pending { frames := left, source } ∧
      query { frames, source } prompt? =
        { result := .ok (some line), readings := [], rest := { frames := left, source } }) ∨
      (pending { frames, source } = [] ∧
        query { frames, source } prompt? = query { source } prompt?) := by
  induction frames with
  | nil => exact .inr ⟨rfl, rfl⟩
  | cons frame below ih =>
      have top := settled frame List.mem_cons_self
      have others := ih fun other member => settled other (List.mem_cons_of_mem _ member)
      have known := top.answers_eq
      rcases Frame.draw_cases top.finite with ⟨none, drawn⟩ | ⟨error, one, drawn⟩ |
        ⟨line, rest, restSettled, more, drawn⟩
      · have used : nonBlank frame.unread = [] := by simpa [known, given] using none
        have skipped : query { frames := frame :: below, source } prompt? =
            query { frames := below, source } prompt? := by simp [query, drawFrom, drawn]
        rw [pending_cons, used, skipped]
        exact others
      · have clash := known.symm.trans one
        cases lines : nonBlank frame.unread <;> simp [given, lines] at clash
      · rw [known, restSettled.answers_eq] at more
        refine .inl ⟨line, rest :: below, ?_, ?_, ?_⟩
        · intro other member
          rcases List.mem_cons.mp member with rfl | lower
          · exact restSettled
          · exact settled other (List.mem_cons_of_mem _ lower)
        · rw [pending_cons, pending_cons, given_injective more, List.cons_append]
        · simp [query, drawFrom, drawn]

/-! ### Runs -/

theorem Settled.push {input : InputStack} (settled : input.Settled) {frame : Frame}
    (top : frame.Settled) : (input.push frame).Settled := by
  intro other member
  rcases List.mem_cons.mp member with rfl | lower
  · exact top
  · exact settled other lower

theorem backlog_push (input : InputStack) (frame : Frame) :
    (input.push frame).backlog = ⟨nonBlank frame.unread ++ input.pending, input.source⟩ := by
  rw [backlog, push, pending_cons]

theorem feed_step {input : InputStack} (settled : input.Settled) (feed : Feed) :
    (input.feed feed).2.Settled ∧
      Backlog.Step input.backlog feed (input.feed feed).1 (input.feed feed).2.backlog := by
  cases feed with
  | lines lines =>
      refine ⟨settled.push trivial, ?_⟩
      simp only [feed, pushLines, backlog_push]
      exact .lines
  | line line =>
      refine ⟨settled.push trivial, ?_⟩
      simp only [feed, pushLine, pushLines, backlog_push]
      exact .line
  | call procedures name =>
      cases known : procedures.get? name with
      | none =>
          simp only [feed, ProcedureStore.call, known]
          exact ⟨settled, .unknown known⟩
      | some procedure =>
          simp only [feed, ProcedureStore.call, known]
          refine ⟨settled.push ⟨rfl, rfl, rfl⟩, ?_⟩
          simp only [pushCall, backlog_push]
          exact .call known
  | query prompt? =>
      obtain ⟨frames, source⟩ := input
      simp only [feed]
      rcases query_settled settled source prompt? with ⟨line, left, leftSettled, first, asked⟩ |
        ⟨none, asked⟩
      · rw [asked]
        refine ⟨leftSettled, ?_⟩
        simp only [backlog, first]
        exact .take
      · have answered := query_fromSource prompt? source
        have empty : pending (query { source } prompt?).rest = [] := by
          simp [pending, answered.emptied]
        rw [asked]
        refine ⟨?_, ?_⟩
        · intro frame member
          simp [answered.emptied] at member
        · simp only [backlog, none, empty]
          exact .read answered.passes

theorem feedAll_run {input : InputStack} (settled : input.Settled) (feeds : List Feed) :
    (input.feedAll feeds).2.Settled ∧
      Backlog.Run input.backlog feeds (input.feedAll feeds).1 (input.feedAll feeds).2.backlog := by
  induction feeds generalizing input with
  | nil => exact ⟨settled, .nil⟩
  | cons feed feeds ih =>
      obtain ⟨fedSettled, step⟩ := feed_step settled feed
      obtain ⟨lastSettled, run⟩ := ih fedSettled
      exact ⟨lastSettled, .cons step run⟩

end InputStack

def Feed.pushed : Feed → List String
  | .lines pushed => nonBlank pushed
  | .line pushed => nonBlank [pushed]
  | .call procedures name =>
    nonBlank ((procedures.get? name).elim [] fun procedure => procedure.lines)
  | .query _ => []

def Reply.taken? : Reply → Option String
  | { result := .ok (some line), readings := [] } => some line
  | _ => none

theorem Reply.taken?_read {result : Except Failure (Option String)} {readings : List Reading}
    (some : readings ≠ []) : Reply.taken? { result, readings } = none := by
  cases readings with
  | nil => exact absurd rfl some
  | cons _ _ => rcases result with _ | _ | _ <;> rfl

theorem Source.Passes.readings_ne_nil {prompt? : Option String} {source later : Source}
    {readings : List Reading} {result : Except Failure (Option String)}
    (passes : source.Passes prompt? readings result later) : readings ≠ [] := by
  cases passes <;> simp

namespace Backlog

theorem Step.taken_append {first last : Backlog} {feed : Feed} {replies : List Reply}
    (step : Step first feed replies last) :
    replies.filterMap Reply.taken? ++ last.pending = feed.pushed ++ first.pending := by
  cases step with
  | lines => rfl
  | line => rfl
  | call known => simp [Feed.pushed, known]
  | unknown unknown => simp [Feed.pushed, unknown]
  | take => rfl
  | read passes => simp [Feed.pushed, Reply.taken?_read passes.readings_ne_nil]

theorem Run.taken_perm {first last : Backlog} {feeds : List Feed} {replies : List Reply}
    (run : Run first feeds replies last) :
    (replies.filterMap Reply.taken? ++ last.pending).Perm
      (first.pending ++ feeds.flatMap Feed.pushed) := by
  induction run with
  | nil => simp
  | @cons first middle last feed feeds replies others step _ ih =>
      have stepped := step.taken_append
      calc (replies ++ others).filterMap Reply.taken? ++ last.pending
          = replies.filterMap Reply.taken? ++ (others.filterMap Reply.taken? ++ last.pending) := by
            rw [List.filterMap_append, List.append_assoc]
        _ |>.Perm (replies.filterMap Reply.taken? ++
            (middle.pending ++ feeds.flatMap Feed.pushed)) := ih.append_left _
        _ = feed.pushed ++ first.pending ++ feeds.flatMap Feed.pushed := by
            rw [← List.append_assoc, stepped]
        _ |>.Perm (first.pending ++ (feed :: feeds).flatMap Feed.pushed) := by
            rw [List.flatMap_cons, ← List.append_assoc]
            exact List.perm_append_comm.append_right _

end Backlog

namespace InputStack

/-- Pushed to and queried in any order, the stack does what the flat list does. The list is empty when
the source is read, and so is then the stack. -/
theorem feedAll_refines_backlog (source : Source) (feeds : List Feed) :
    let (replies, input) := feedAll { source } feeds
    Backlog.Run ⟨[], source⟩ feeds replies input.backlog ∧
      (input.pending = [] → ∀ prompt?, (input.query prompt?).rest.depth = 0) ∧
      (replies.filterMap Reply.taken? ++ input.pending).Perm (feeds.flatMap Feed.pushed) := by
  have start : InputStack.Settled { source } := by
    intro frame member
    simp at member
  obtain ⟨settled, run⟩ := feedAll_run start feeds
  refine ⟨run, ?_, run.taken_perm⟩
  intro none prompt?
  rcases query_settled settled (feedAll { source } feeds).2.source prompt? with
    ⟨line, left, -, first, -⟩ | ⟨-, asked⟩
  · rw [none] at first
    contradiction
  · have answered := query_fromSource prompt? (feedAll { source } feeds).2.source
    rw [asked, depth, answered.emptied]
    rfl

theorem feedAll_refines_backlog_of_covered_call :
    let greeting : ProcedureStore :=
      { procedures := [("greet", { lines := ["hello", "", "goodbye"] })] }
    let source : Source := .listed [.ok "", .ok "typed"]
    let feeds : List Feed :=
      [.lines ["first", " "], .query none, .call greeting "greet", .query none, .line "macro",
        .query none, .query none]
    Backlog.Run ⟨[], source⟩ feeds
        (["first", "hello", "macro", "goodbye"].map fun line => .silent (.ok (some line)))
        ⟨[], source⟩ ∧
      ((feedAll { source } feeds).2.query none).rest.depth = 0 := by
  intro greeting source feeds
  obtain ⟨run, ended, -⟩ := feedAll_refines_backlog source feeds
  have spent : (feedAll { source } feeds).2.pending = [] := by decide
  exact ⟨run, ended spent none⟩

end InputStack

end MenuShell

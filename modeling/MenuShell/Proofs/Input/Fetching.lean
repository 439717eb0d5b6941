import MenuShell.Proofs.Input.Backlog

/-!
Fetching a line turn by turn. A turn asks the frame on top for its very next line, or reads the source
if no frame is left; a blank line or a frame that has run out calls for another turn. Whatever has been
requested of the calls, each turn uses up a line or a frame: what is requested is done when a call is
next asked, so a jump back happens once. A query is what all turns together come to.
-/

namespace MenuShell

def Call.jumpTarget (call : Call) : List String :=
  match call.jump?.bind call.procedure.label? with
  | some index => call.procedure.lines.drop index
  | none => []

namespace Frame

def next : Frame → Except MenuError (Option String) × Frame
  | .lines [] => (.ok none, .lines [])
  | .lines (line :: rest) => (.ok (some line), .lines rest)
  | .endless line => (.ok (some line), .endless line)
  | .call running => (running.next.1, .call running.next.2)

def stock : Frame → Nat
  | .lines unread => unread.length
  | .endless _ => 0
  | .call running => max running.remaining.length running.jumpTarget.length

end Frame

namespace Call

theorem length_remaining_of_settle {call settled : Call} (done : call.settle = (.ok (), settled)) :
    settled.remaining.length ≤ (Frame.call call).stock := by
  unfold settle at done
  split at done
  · obtain ⟨-, rfl⟩ := Prod.mk.inj done
    exact Nat.le_max_left _ _
  · rename_i going
    split at done
    · obtain ⟨-, rfl⟩ := Prod.mk.inj done
      simp [remaining]
    · split at done
      · obtain ⟨-, rfl⟩ := Prod.mk.inj done
        exact Nat.le_max_left _ _
      · rename_i label requested
        split at done
        · rename_i index known
          obtain ⟨-, rfl⟩ := Prod.mk.inj done
          have target : { call with jump? := none, position := index }.remaining = call.jumpTarget := by
            simp [remaining, going, jumpTarget, requested, known]
          rw [target]
          exact Nat.le_max_right _ _
        · simp at done

theorem Idle.stock_eq {call : Call} (idle : call.Idle) :
    (Frame.call call).stock = call.remaining.length := by
  simp [Frame.stock, jumpTarget, idle.straight]

theorem next_eq_line {call later : Call} {line : String}
    (given : call.next = (.ok (some line), later)) :
    ∃ settled rest, call.settle = (.ok (), settled) ∧ settled.remaining = line :: rest ∧
      settled.Idle ∧ later = settled.skip 1 := by
  unfold next at given
  split at given
  · simp at given
  · rename_i settled done
    split at given
    · rename_i first rest more
      simp only [Prod.mk.injEq, Except.ok.injEq, Option.some.injEq] at given
      obtain ⟨rfl, rfl⟩ := given
      exact ⟨settled, rest, done, more, idle_of_settle done (running_of_remaining more), rfl⟩
    · simp at given

end Call

namespace Frame

theorem stock_of_next {frame rest : Frame} {line : String} (finite : frame.Finite)
    (given : frame.next = (.ok (some line), rest)) : rest.Finite ∧ rest.stock + 1 ≤ frame.stock := by
  cases frame with
  | endless _ => exact finite.elim
  | lines unread =>
      cases unread with
      | nil => simp [next] at given
      | cons first others =>
          simp only [next, Prod.mk.injEq] at given
          obtain ⟨-, rfl⟩ := given
          exact ⟨trivial, Nat.le_refl _⟩
  | call running =>
      rcases asked : running.next with ⟨result, later⟩
      simp only [next, asked, Prod.mk.injEq] at given
      obtain ⟨rfl, rfl⟩ := given
      obtain ⟨settled, others, done, more, idle, rfl⟩ := Call.next_eq_line asked
      have enough := Call.length_remaining_of_settle done
      rw [more, List.length_cons] at enough
      refine ⟨trivial, ?_⟩
      rw [(idle.skip 1).stock_eq, Call.remaining_skip, more]
      simpa using enough

theorem draw_next {frame : Frame} (finite : frame.Finite) :
    frame.draw = match frame.next with
      | (.error error, _) => .failed error
      | (.ok none, _) => .exhausted
      | (.ok (some line), rest) => if Text.isBlank line then rest.draw else .line line rest := by
  cases frame with
  | endless _ => exact finite.elim
  | lines unread =>
      cases unread with
      | nil => rfl
      | cons first others =>
          by_cases blank : Text.isBlank first = true
          · simp [draw, next, drawLines, blank]
          · simp [draw, next, drawLines, blank]
  | call running =>
      rcases done : running.settle with ⟨error | _, settled⟩
      · simp [draw, drawCall, next, Call.next, done]
      · cases more : settled.remaining with
        | nil => simp [draw, drawCall, next, Call.next, done, more]
        | cons first others =>
            -- Nothing is requested of the call any more: asked again, it goes on where it is.
            have idle := (Call.idle_of_settle done (Call.running_of_remaining more)).skip 1
            have left : (settled.skip 1).remaining = others := by
              rw [Call.remaining_skip, more]
              rfl
            by_cases blank : Text.isBlank first = true
            · have further (count : Nat) : (settled.skip 1).skip count = settled.skip (count + 1) := by
                simp [Call.skip, Nat.add_comm, Nat.add_left_comm]
              simp [draw, drawCall, next, Call.next, done, more, blank, idle.settle_eq, left, further,
                leadingBlanks]
            · simp [draw, drawCall, next, Call.next, done, more, blank, leadingBlanks]

end Frame

/-! ### Turns -/

def Reader (State : Type) : Type :=
  State → Except Failure (Option String) × State

/-- After so many blank lines comes a line that is not blank, a failure or the end of the input. -/
inductive Reader.ClearsAfter {State : Type} (read : Reader State) : Nat → State → Prop
  | clear {source : State} : InputStack.isBlankLine (read source).1 = false →
      ClearsAfter read 0 source
  | blank {blanks : Nat} {source : State} : InputStack.isBlankLine (read source).1 = true →
      ClearsAfter read blanks (read source).2 → ClearsAfter read (blanks + 1) source

structure InputOver (State : Type) where
  frames : List Frame
  source : State

structure Pulled (State Result : Type) where
  result : Result
  taken : List String := []
  readings : List Reading := []
  left : InputOver State

def Pulled.before {State First Last : Type} (pulled : Pulled State First)
    (later : Pulled State Last) : Pulled State Last :=
  { later with
    taken := pulled.taken ++ later.taken
    readings := pulled.readings ++ later.readings }

namespace InputOver

variable {State : Type} {read : Reader State}

def unlessBlank (result : Except Failure (Option String)) :
    Option (Except Failure (Option String)) :=
  if InputStack.isBlankLine result then none else some result

def pull (read : Reader State) (prompt? : Option String) (input : InputOver State) :
    Pulled State (Option (Except Failure (Option String))) :=
  match input.frames with
  | [] =>
    let (result, source) := read input.source
    { result := unlessBlank result
      readings := [{ prompt?, result }]
      left := { frames := [], source } }
  | frame :: below =>
    match frame.next with
    | (.error error, _) =>
      { result := some (.error (.ofError error)), left := { input with frames := below } }
    | (.ok none, _) => { result := none, left := { input with frames := below } }
    | (.ok (some line), rest) =>
      { result := unlessBlank (.ok (some line))
        taken := [line]
        left := { input with frames := rest :: below } }

def fetch (read : Reader State) (prompt? : Option String) :
    Nat → InputOver State → Option (Pulled State (Except Failure (Option String)))
  | 0, _ => none
  | turns + 1, input =>
    let pulled := input.pull read prompt?
    match pulled.result with
    | some result => some { pulled with result }
    | none => (fetch read prompt? turns pulled.left).map pulled.before

def stock (input : InputOver State) : Nat :=
  input.frames.foldr (fun frame others => frame.stock + others) 0

structure Clearing (read : Reader State) (blanks : Nat) (input : InputOver State) : Prop where
  finite : ∀ frame ∈ input.frames, frame.Finite
  clears : read.ClearsAfter blanks input.source

def potential (blanks : Nat) (input : InputOver State) : Nat :=
  input.stock + input.frames.length + blanks

@[simp] theorem stock_cons (frame : Frame) (below : List Frame) (source : State) :
    stock { frames := frame :: below, source } = frame.stock + stock { frames := below, source } := by
  simp [stock]

/-- A turn brings a result, or it spends a line, a frame or a blank line of the source. -/
theorem pull_spends (prompt? : Option String) {blanks : Nat} {input : InputOver State}
    (clearing : input.Clearing read blanks) :
    let pulled := input.pull read prompt?
    (∃ result, pulled.result = some result ∧ pulled.taken.length ≤ input.stock ∧
      pulled.readings.length ≤ blanks + 1) ∨
    (pulled.result = none ∧ ∃ fewer, pulled.left.Clearing read fewer ∧
      pulled.left.potential fewer < input.potential blanks ∧
      pulled.taken.length + pulled.left.stock ≤ input.stock ∧
      pulled.readings.length + fewer ≤ blanks) := by
  obtain ⟨frames, source⟩ := input
  obtain ⟨finite, clears⟩ := clearing
  cases frames with
  | nil =>
      cases clears with
      | clear visible => simp [pull, unlessBlank, visible]
      | @blank fewer _ blank later =>
          refine .inr ⟨?_, fewer, ⟨?_, later⟩, ?_⟩
          · simp [pull, unlessBlank, blank]
          · simp [pull]
          · simp [pull, potential, stock]
            omega
  | cons frame below =>
      have lower : ∀ other ∈ below, other.Finite :=
        fun other member => finite other (List.mem_cons_of_mem _ member)
      rcases asked : frame.next with ⟨_ | _ | line, rest⟩
      · simp [pull, asked]
      · refine .inr ⟨by simp [pull, asked], blanks, ⟨?_, ?_⟩, ?_⟩
        · simpa [pull, asked] using lower
        · simpa [pull, asked] using clears
        · simp [pull, asked, potential]
          omega
      · obtain ⟨restFinite, less⟩ := Frame.stock_of_next (finite frame List.mem_cons_self) asked
        by_cases blank : Text.isBlank line = true
        · refine .inr ⟨?_, blanks, ⟨?_, ?_⟩, ?_⟩
          · simp [pull, asked, unlessBlank, InputStack.isBlankLine, blank]
          · simpa [pull, asked] using ⟨restFinite, lower⟩
          · simpa [pull, asked] using clears
          · simp [pull, asked, potential]
            omega
        · refine .inl ⟨.ok (some line), ?_, ?_⟩
          · simp [pull, asked, unlessBlank, InputStack.isBlankLine, blank]
          · simp [pull, asked]
            omega

theorem fetch_ends (prompt? : Option String) {blanks turns : Nat} {input : InputOver State}
    (clearing : input.Clearing read blanks) (enough : input.potential blanks < turns) :
    ∃ fetched, input.fetch read prompt? turns = some fetched ∧
      fetched.taken.length ≤ input.stock ∧ fetched.readings.length ≤ blanks + 1 := by
  induction turns generalizing blanks input with
  | zero => omega
  | succ turns ih =>
      rcases pull_spends prompt? clearing with ⟨result, ended, taken, readings⟩ |
        ⟨going, fewer, later, less, taken, readings⟩
      · exact ⟨{ input.pull read prompt? with result }, by simp [fetch, ended], taken, readings⟩
      · obtain ⟨fetched, last, otherTaken, otherReadings⟩ := ih later (by omega)
        refine ⟨(input.pull read prompt?).before fetched, by simp [fetch, going, last], ?_, ?_⟩
        · simp only [Pulled.before, List.length_append]
          omega
        · simp only [Pulled.before, List.length_append]
          omega

theorem fetch_mono {prompt? : Option String} {turns more : Nat} {input : InputOver State}
    {fetched : Pulled State (Except Failure (Option String))}
    (ended : input.fetch read prompt? turns = some fetched) (le : turns ≤ more) :
    input.fetch read prompt? more = some fetched := by
  induction turns generalizing more input fetched with
  | zero => simp [fetch] at ended
  | succ turns ih =>
      obtain ⟨further, rfl⟩ : ∃ further, more = further + 1 := ⟨more - 1, by omega⟩
      cases pulled : (input.pull read prompt?).result with
      | some result => simpa [fetch, pulled] using ended
      | none =>
          simp only [fetch, pulled, Option.map_eq_some_iff] at ended ⊢
          obtain ⟨last, found, whole⟩ := ended
          exact ⟨last, ih found (by omega), whole⟩

end InputOver

theorem Source.Passes.unique {prompt? : Option String} {source later other : Source}
    {readings others : List Reading} {result second : Except Failure (Option String)}
    (passes : source.Passes prompt? readings result later)
    (again : source.Passes prompt? others second other) :
    readings = others ∧ result = second ∧ later = other := by
  induction passes generalizing others with
  | stop taken visible =>
      cases again with
      | stop same _ =>
          obtain ⟨rfl, rfl⟩ := Prod.mk.inj (taken.symm.trans same)
          exact ⟨rfl, rfl, rfl⟩
      | pass same blank _ =>
          obtain ⟨rfl, rfl⟩ := Prod.mk.inj (taken.symm.trans same)
          simp [InputStack.isBlankLine, blank] at visible
  | pass taken blank _ ih =>
      cases again with
      | stop same visible =>
          obtain ⟨rfl, rfl⟩ := Prod.mk.inj (taken.symm.trans same)
          simp [InputStack.isBlankLine, blank] at visible
      | pass same _ further =>
          obtain ⟨line, rfl⟩ := Prod.mk.inj (taken.symm.trans same)
          obtain rfl : _ = _ := by simpa using line
          obtain ⟨rfl, rfl, rfl⟩ := ih further
          exact ⟨rfl, rfl, rfl⟩

theorem Answered.FromSource.unique {answered other : Answered} {source : Source}
    {prompt? : Option String} (first : answered.FromSource source prompt?)
    (second : other.FromSource source prompt?) : answered = other := by
  obtain ⟨result, readings, ⟨frames, later⟩⟩ := answered
  obtain ⟨otherResult, otherReadings, ⟨otherFrames, otherLater⟩⟩ := other
  obtain ⟨rfl, rfl, rfl⟩ := first.passes.unique second.passes
  obtain rfl : frames = [] := first.emptied
  obtain rfl : otherFrames = [] := second.emptied
  rfl

theorem Source.Passes.clears {prompt? : Option String} {source later : Source}
    {readings : List Reading} {result : Except Failure (Option String)}
    (passes : source.Passes prompt? readings result later) :
    ∃ blanks, Reader.ClearsAfter Source.read blanks source := by
  induction passes with
  | stop taken visible => exact ⟨0, .clear (by simpa [taken] using visible)⟩
  | pass taken blank _ ih =>
      obtain ⟨blanks, clears⟩ := ih
      refine ⟨blanks + 1, .blank ?_ (by simpa [taken] using clears)⟩
      simpa [taken, InputStack.isBlankLine] using blank

namespace InputStack

def overSource (input : InputStack) : InputOver Source :=
  { frames := input.frames, source := input.source }

end InputStack

def InputOver.stack (input : InputOver Source) : InputStack :=
  { frames := input.frames, source := input.source }

def Pulled.answered (pulled : Pulled Source (Except Failure (Option String))) : Answered :=
  { result := pulled.result, readings := pulled.readings, rest := pulled.left.stack }

namespace InputOver

theorem clearing_of_finite {input : InputOver Source}
    (finite : ∀ frame ∈ input.frames, frame.Finite) :
    ∃ blanks, input.Clearing Source.read blanks := by
  obtain ⟨blanks, clears⟩ := (InputStack.query_fromSource none input.source).passes.clears
  exact ⟨blanks, finite, clears⟩

theorem query_stack (prompt? : Option String) {input : InputOver Source}
    (finite : ∀ frame ∈ input.frames, frame.Finite) :
    let pulled := input.pull Source.read prompt?
    input.stack.query prompt? = match pulled.result with
      | some result => { result, readings := pulled.readings, rest := pulled.left.stack }
      | none =>
        let later := pulled.left.stack.query prompt?
        { later with readings := pulled.readings ++ later.readings } := by
  obtain ⟨frames, source⟩ := input
  cases frames with
  | nil =>
      -- An answer is determined by what it reads, so the other side only has to read the same.
      apply (InputStack.query_fromSource prompt? source).unique
      rcases taken : source.read with ⟨result, middle⟩
      cases blank : InputStack.isBlankLine result with
      | false =>
          simp only [pull, taken, unlessBlank, blank]
          exact ⟨rfl, .stop taken blank⟩
      | true =>
          obtain ⟨line, rfl, -⟩ := InputStack.line_of_isBlankLine blank
          have later := InputStack.query_fromSource prompt? middle
          simp only [pull, taken, unlessBlank, blank, if_true]
          exact ⟨later.emptied, .pass taken blank later.passes⟩
  | cons frame below =>
      have drawn := Frame.draw_next (finite frame List.mem_cons_self)
      rcases asked : frame.next with ⟨_ | _ | line, rest⟩
      · simp [stack, InputStack.query, InputStack.drawFrom, drawn, pull, asked]
      · simp [stack, InputStack.query, InputStack.drawFrom, drawn, pull, asked]
      · by_cases blank : Text.isBlank line = true
        · simp [stack, InputStack.query, InputStack.drawFrom, drawn, pull, asked, unlessBlank,
            InputStack.isBlankLine, blank]
        · simp [stack, InputStack.query, InputStack.drawFrom, drawn, pull, asked, unlessBlank,
            InputStack.isBlankLine, blank]

theorem query_of_fetch {prompt? : Option String} {blanks turns : Nat} {input : InputOver Source}
    {fetched : Pulled Source (Except Failure (Option String))}
    (clearing : input.Clearing Source.read blanks)
    (ended : input.fetch Source.read prompt? turns = some fetched) :
    input.stack.query prompt? = fetched.answered := by
  induction turns generalizing blanks input fetched with
  | zero => simp [fetch] at ended
  | succ turns ih =>
      rw [query_stack prompt? clearing.finite]
      rcases pull_spends prompt? clearing with ⟨result, last, -⟩ | ⟨going, fewer, later, -⟩
      · simp only [fetch, last, Option.some.injEq] at ended ⊢
        subst ended
        rfl
      · simp only [fetch, going, Option.map_eq_some_iff] at ended ⊢
        obtain ⟨further, found, rfl⟩ := ended
        rw [ih later found]
        rfl

end InputOver

namespace InputStack

/-- Whatever has been requested of the calls, a query takes no more lines from the frames than the plain
ones and the calls have, a call counted from where it is or from where it jumps to, and it ends if the
source has something other than blank lines. -/
theorem fetching_ends_within_stock :
    (∀ {State : Type} (read : Reader State) (prompt? : Option String) (blanks : Nat)
      (input : InputOver State), input.Clearing read blanks →
      ∃ fetched,
        (∀ turns, input.potential blanks < turns →
          input.fetch read prompt? turns = some fetched) ∧
        fetched.taken.length ≤ input.stock ∧ fetched.readings.length ≤ blanks + 1) ∧
    (∀ (input : InputStack) (prompt? : Option String), (∀ frame ∈ input.frames, frame.Finite) →
      ∃ turns fetched, input.overSource.fetch Source.read prompt? turns = some fetched ∧
        fetched.taken.length ≤ input.overSource.stock ∧ input.query prompt? = fetched.answered) := by
  constructor
  · intro State read prompt? blanks input clearing
    have enough : input.potential blanks < input.potential blanks + 1 := by omega
    obtain ⟨fetched, ended, taken, readings⟩ := input.fetch_ends prompt? clearing enough
    refine ⟨fetched, ?_, taken, readings⟩
    intro turns more
    exact InputOver.fetch_mono ended more
  · intro input prompt? finite
    have finiteOver : ∀ frame ∈ input.overSource.frames, frame.Finite := finite
    obtain ⟨blanks, clearing⟩ := InputOver.clearing_of_finite finiteOver
    have enough : input.overSource.potential blanks < input.overSource.potential blanks + 1 := by omega
    obtain ⟨fetched, ended, taken, -⟩ := InputOver.fetch_ends prompt? clearing enough
    exact ⟨_, fetched, ended, taken, InputOver.query_of_fetch clearing ended⟩

theorem fetching_ends_within_stock_of_jump_back :
    let gaps : Procedure := { lines := ["one", "", " "], labels := [("again", 1)] }
    let frames : List Frame :=
      [.call { name := "gaps", procedure := gaps, position := 3, jump? := some "again" },
        .call { name := "gaps", procedure := gaps, returning := true }, .lines [" "]]
    let input : InputStack := { frames, source := .listed [.ok "", .ok "typed"] }
    input.overSource.stock = 6 ∧
      (∃ fetched, input.overSource.fetch Source.read none 11 = some fetched ∧
        fetched.taken.length ≤ 6 ∧ fetched.readings.length ≤ 2) ∧
      ∃ turns fetched, input.overSource.fetch Source.read none turns = some fetched ∧
        fetched.taken.length ≤ 6 ∧ input.query none = fetched.answered := by
  intro gaps frames input
  have finite : ∀ frame ∈ input.frames, frame.Finite := by
    simp [input, frames, Frame.Finite]
  have clears : Reader.ClearsAfter Source.read 1 input.source :=
    .blank (by decide) (.clear (by decide))
  obtain ⟨anyReader, query⟩ := fetching_ends_within_stock
  obtain ⟨fetched, ended, taken, readings⟩ :=
    anyReader Source.read none 1 input.overSource ⟨finite, clears⟩
  exact ⟨by decide, ⟨fetched, ended 11 (by decide), taken, readings⟩, query input none finite⟩

end InputStack

end MenuShell

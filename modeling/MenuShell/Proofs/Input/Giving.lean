import MenuShell.Proofs.Input.Backlog

/-!
What the input gives, line by line. The lines that are given do not depend on the prompts that are
shown, and they are the pending ones as long as there are any.
-/

namespace MenuShell

namespace Answered

/-- An answer without the readings, which are the only place where the prompt can be seen. -/
def outcome (answered : Answered) : Except Failure (Option String) × InputStack :=
  (answered.result, answered.rest)

end Answered

namespace InputStack

theorem outcome_readOrPass (first second : Option String) (source : Source)
    {further other : Source → Answered}
    (same : ∀ later, (further later).outcome = (other later).outcome) :
    (readOrPass first source further).outcome = (readOrPass second source other).outcome := by
  rcases taken : source.read with ⟨result, middle⟩
  cases blank : isBlankLine result with
  | true =>
      simp only [readOrPass, readExternal, taken, blank]
      exact same middle
  | false =>
      simp only [readOrPass, readExternal, taken, blank]
      rfl

theorem outcome_readPastBlanks (first second : Option String) (bound : Nat) (source : Source) :
    (readPastBlanks first bound source).outcome = (readPastBlanks second bound source).outcome := by
  induction bound generalizing source with
  | zero => rfl
  | succ bound ih => exact outcome_readOrPass first second source ih

theorem outcome_query (input : InputStack) (first second : Option String) :
    (input.query first).outcome = (input.query second).outcome := by
  obtain ⟨frames, source⟩ := input
  induction frames with
  | nil =>
      have fromSource (prompt? : Option String) : query { frames := [], source } prompt? =
          readOrPass prompt? source fun later => readPastBlanks prompt? later.bound later := rfl
      rw [fromSource, fromSource]
      apply outcome_readOrPass
      intro later
      exact outcome_readPastBlanks first second later.bound later
  | cons frame below ih =>
      simp only [query, drawFrom]
      split
      · rfl
      · exact ih
      · rfl

/-- Queries give the lines one after the other, whatever prompts they show; a user error of the input
may come in between, as it only calls for another query. -/
inductive Gives : InputStack → List String → InputStack → Prop
  | nothing (input : InputStack) : Gives input [] input
  | line {input middle later : InputStack} {prompt? : Option String} {line : String}
      {others : List String} : (input.query prompt?).outcome = (.ok (some line), middle) →
      Gives middle others later → Gives input (line :: others) later
  | complaint {input middle later : InputStack} {prompt? : Option String} {failure : Failure}
      {error : MenuError} {line : String} {others : List String} :
      (input.query prompt?).outcome = (.error failure, middle) →
      failure.menuError? = some error → error.isUserError = true →
      Gives middle (line :: others) later → Gives input (line :: others) later

theorem gives_of_pending {input : InputStack} {lines rest : List String} (settled : input.Settled)
    (pending : input.pending = lines ++ rest) :
    ∃ later, input.Gives lines later ∧ later.pending = rest ∧ later.source = input.source := by
  induction lines generalizing input with
  | nil => exact ⟨input, .nothing input, pending, rfl⟩
  | cons line others ih =>
      obtain ⟨frames, source⟩ := input
      rcases query_settled settled source none with ⟨first, left, leftSettled, shorter, asked⟩ |
        ⟨none, -⟩
      · rw [shorter, List.cons_append, List.cons.injEq] at pending
        obtain ⟨rfl, pending⟩ := pending
        obtain ⟨later, gives, laterPending, same⟩ :=
          ih (show Settled { frames := left, source } from leftSettled) pending
        have given : (query { frames, source } none).outcome =
            (.ok (some first), { frames := left, source }) := by
          rw [asked]
          rfl
        exact ⟨later, .line given gives, laterPending, same⟩
      · simp [none] at pending

end InputStack

end MenuShell

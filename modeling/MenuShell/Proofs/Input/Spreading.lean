import MenuShell.Proofs.Input.Backlog
import MenuShell.Proofs.Input.Requests

/-!
Lines spread over plain frames and the external source. Seen from the frames that lie on top, they are
one list of lines: a query takes the first of them that is not blank, whether it lies in a frame or is
still to be read.
-/

namespace MenuShell

def Source.Lists : Source → List String → Prop
  | source, [] => source.read = (.ok none, source)
  | source, line :: others => ∃ later, source.read = (.ok (some line), later) ∧ later.Lists others

theorem Source.lists_listed (lines : List String) : (listed (lines.map .ok)).Lists lines := by
  induction lines with
  | nil => rfl
  | cons line others ih => exact ⟨_, rfl, ih⟩

structure Supply where
  upper : List Frame
  lines : List String

namespace Supply

def take (lines : List String) : List Frame → Except Failure (Option String) × Supply
  | [] =>
    match lines.dropWhile Text.isBlank with
    | line :: rest => (.ok (some line), ⟨[], rest⟩)
    | [] => (.ok none, ⟨[], []⟩)
  | frame :: below =>
    match frame.draw with
    | .line line rest => (.ok (some line), ⟨rest :: below, lines⟩)
    | .exhausted => take lines below
    | .failed error => (.error (.ofError error), ⟨below, lines⟩)

def query (supply : Supply) : Except Failure (Option String) × Supply :=
  take supply.lines supply.upper

theorem query_suffix (supply : Supply) : supply.query.2.lines <:+ supply.lines := by
  obtain ⟨upper, lines⟩ := supply
  induction upper with
  | nil =>
      simp only [query, take]
      split
      · rename_i line rest first
        exact (List.suffix_cons line rest).trans (first ▸ List.dropWhile_suffix _)
      · exact List.nil_suffix
  | cons frame below ih =>
      simp only [query, take]
      split
      · exact List.suffix_rfl
      · exact ih
      · exact List.suffix_rfl

end Supply

theorem Source.Passes.take {prompt? : Option String} {source later : Source}
    {readings : List Reading} {result : Except Failure (Option String)} {lines : List String}
    (passes : source.Passes prompt? readings result later) (lists : source.Lists lines) :
    result = (Supply.take lines []).1 ∧ later.Lists (Supply.take lines []).2.lines := by
  induction passes generalizing lines with
  | stop taken visible =>
      cases lines with
      | nil =>
          obtain ⟨rfl, rfl⟩ := Prod.mk.inj (taken.symm.trans lists)
          exact ⟨rfl, lists⟩
      | cons line others =>
          obtain ⟨middle, given, listed⟩ := lists
          obtain ⟨rfl, rfl⟩ := Prod.mk.inj (taken.symm.trans given)
          have first : (line :: others).dropWhile Text.isBlank = line :: others :=
            List.dropWhile_cons_of_neg (by simpa [InputStack.isBlankLine] using visible)
          rw [Supply.take, first]
          exact ⟨rfl, listed⟩
  | pass taken blank _ ih =>
      cases lines with
      | nil => simp [Lists, taken] at lists
      | cons line others =>
          obtain ⟨middle, given, listed⟩ := lists
          obtain ⟨same, rfl⟩ := Prod.mk.inj (taken.symm.trans given)
          have first : Text.isBlank line = true := by
            simp only [Except.ok.injEq, Option.some.injEq] at same
            exact same ▸ blank
          have skipped : Supply.take (line :: others) [] = Supply.take others [] := by
            simp only [Supply.take, List.dropWhile_cons_of_pos first]
          rw [skipped]
          exact ih listed

namespace InputStack

variable {input : InputStack} {supply : Supply}

/-- Below the upper frames of the supply, its lines lie in plain frames and in the source. -/
def Carries (input : InputStack) (supply : Supply) : Prop :=
  ∃ (plain : List (List String)) (own : List String),
    input.frames = supply.upper ++ plain.map .lines ∧ input.source.Lists own ∧
      supply.lines = plain.flatten ++ own

theorem carries_lines (plain : List (List String)) {source : Source} {own : List String}
    (lists : source.Lists own) :
    Carries { frames := plain.map .lines, source } ⟨[], plain.flatten ++ own⟩ :=
  ⟨plain, own, rfl, lists, rfl⟩

def Answers (answered : Answered) (taken : Except Failure (Option String) × Supply) : Prop :=
  answered.result = taken.1 ∧ answered.rest.Carries taken.2

theorem answers_lines (plain : List (List String)) {source : Source} {own : List String}
    (lists : source.Lists own) (prompt? : Option String) :
    Answers (query { frames := plain.map .lines, source } prompt?)
      (Supply.take (plain.flatten ++ own) []) := by
  induction plain with
  | nil =>
      have asked := query_fromSource prompt? source
      obtain ⟨same, left⟩ := asked.passes.take lists
      refine ⟨same, [], _, ?_, left, rfl⟩
      rw [List.map_nil, asked.emptied]
      unfold Supply.take
      split <;> rfl
  | cons lines plain ih =>
      simp only [query, List.map_cons, drawFrom, Frame.draw, Frame.drawLines, List.flatten_cons,
        List.append_assoc]
      cases first : lines.dropWhile Text.isBlank with
      | nil =>
          have passed : Supply.take (lines ++ (plain.flatten ++ own)) [] =
              Supply.take (plain.flatten ++ own) [] := by
            simp [Supply.take, List.dropWhile_append, first]
          rw [passed]
          exact ih
      | cons line rest =>
          have taken : Supply.take (lines ++ (plain.flatten ++ own)) [] =
              (.ok (some line), ⟨[], rest ++ (plain.flatten ++ own)⟩) := by
            simp [Supply.take, List.dropWhile_append, first]
          rw [taken]
          exact ⟨rfl, rest :: plain, own, rfl, lists, by simp⟩

theorem Carries.query (carries : input.Carries supply) (prompt? : Option String) :
    Answers (input.query prompt?) supply.query := by
  obtain ⟨frames, source⟩ := input
  obtain ⟨upper, lines⟩ := supply
  obtain ⟨plain, own, rfl, lists, rfl⟩ := carries
  induction upper with
  | nil => exact answers_lines plain lists prompt?
  | cons frame below ih =>
      simp only [InputStack.query, List.cons_append, drawFrom, Supply.query, Supply.take]
      cases frame.draw with
      | line line rest => exact ⟨rfl, plain, own, rfl, lists, rfl⟩
      | exhausted => exact ih lists
      | failed error => exact ⟨rfl, plain, own, rfl, lists, rfl⟩

theorem Carries.push (carries : input.Carries supply) (frame : Frame) :
    (input.push frame).Carries ⟨frame :: supply.upper, supply.lines⟩ := by
  obtain ⟨plain, own, frames, lists, lines⟩ := carries
  exact ⟨plain, own, by rw [InputStack.push, frames, List.cons_append], lists, lines⟩

theorem onInnermostCall?_append (change : Call → Call) (upper : List Frame)
    (plain : List (List String)) :
    onInnermostCall? change (upper ++ plain.map .lines) =
      (onInnermostCall? change upper).map (· ++ plain.map .lines) := by
  induction upper with
  | nil => exact onInnermostCall?_eq_none change (by simp)
  | cons frame below ih =>
      cases frame with
      | call running => rfl
      | lines _ | endless _ =>
          simp only [List.cons_append, onInnermostCall?, ih]
          cases onInnermostCall? change below <;> rfl

theorem Carries.requestOfCall (carries : input.Carries supply) (command : String)
    (change : Call → Call) :
    match onInnermostCall? change supply.upper with
    | some upper => ∃ later, input.requestOfCall command change = .ok later ∧
        later.Carries ⟨upper, supply.lines⟩
    | none => input.requestOfCall command change = .error (.noActiveCall command) := by
  obtain ⟨plain, own, frames, lists, lines⟩ := carries
  rw [InputStack.requestOfCall, frames, onInnermostCall?_append]
  cases onInnermostCall? change supply.upper with
  | none => rfl
  | some upper => exact ⟨_, rfl, plain, own, rfl, lists, lines⟩

end InputStack

theorem visible_of_dropWhile {lines rest : List String} {line : String}
    (first : lines.dropWhile Text.isBlank = line :: rest) : Text.isBlank line = false := by
  simpa [first] using List.head?_dropWhile_not Text.isBlank lines

theorem Frame.draw_visible {frame rest : Frame} {line : String}
    (drawn : frame.draw = .line line rest) : Text.isBlank line = false := by
  cases frame with
  | lines unread =>
      simp only [draw, drawLines] at drawn
      split at drawn
      · rename_i first
        cases drawn
        exact visible_of_dropWhile first
      · contradiction
  | endless again =>
      simp only [draw] at drawn
      split at drawn
      · contradiction
      · rename_i visible
        cases drawn
        simpa using visible
  | call running =>
      simp only [draw, drawCall] at drawn
      split at drawn
      · contradiction
      · split at drawn
        · rename_i first
          cases drawn
          exact visible_of_dropWhile first
        · contradiction

theorem Source.Passes.visible {prompt? : Option String} {source later : Source}
    {readings : List Reading} {result : Except Failure (Option String)}
    (passes : source.Passes prompt? readings result later) :
    InputStack.isBlankLine result = false := by
  induction passes with
  | stop _ visible => exact visible
  | pass _ _ _ ih => exact ih

theorem InputStack.query_visible {input : InputStack} {prompt? : Option String} {line : String}
    (given : (input.query prompt?).result = .ok (some line)) : Text.isBlank line = false := by
  obtain ⟨frames, source⟩ := input
  induction frames with
  | nil =>
      have visible := (query_fromSource prompt? source).passes.visible
      rwa [given] at visible
  | cons frame below ih =>
      simp only [query, drawFrom] at given
      split at given
      · rename_i drawn
        cases given
        exact Frame.draw_visible drawn
      · exact ih given
      · contradiction

end MenuShell

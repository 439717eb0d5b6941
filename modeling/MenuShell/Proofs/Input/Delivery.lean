import MenuShell.Input.Stack

/-!
What a frame has to give. The answers of a finite frame are a list that is fixed when the frame is
first asked: the lines of it that are not blank, or what requests have made of them. Asked again and
again, a stack gives the answers of its frames from the top on, and those of the external source
once all frames are used up.
-/

namespace MenuShell

structure Reply where
  result : Except Failure (Option String)
  readings : List Reading

def Reply.silent (result : Except Failure (Option String)) : Reply :=
  { result, readings := [] }

def nonBlank (lines : List String) : List String :=
  lines.filter (!Text.isBlank ·)

@[simp] theorem nonBlank_nil : nonBlank [] = [] := rfl

theorem nonBlank_append (first second : List String) :
    nonBlank (first ++ second) = nonBlank first ++ nonBlank second :=
  List.filter_append first second

theorem nonBlank_dropWhile (lines : List String) :
    nonBlank (lines.dropWhile Text.isBlank) = nonBlank lines := by
  induction lines with
  | nil => rfl
  | cons first others ih =>
      by_cases blank : Text.isBlank first = true
      · rw [List.dropWhile_cons_of_pos blank, ih]
        simp [nonBlank, blank]
      · rw [List.dropWhile_cons_of_neg blank]

theorem nonBlank_of_dropWhile_cons {lines rest : List String} {line : String}
    (passed : lines.dropWhile Text.isBlank = line :: rest) :
    nonBlank lines = line :: nonBlank rest := by
  have visible : Text.isBlank line = false := by
    simpa [passed] using List.head?_dropWhile_not Text.isBlank lines
  rw [← nonBlank_dropWhile, passed, nonBlank, List.filter_cons_of_pos (by simp [visible])]
  rfl

theorem drop_leadingBlanks (lines : List String) :
    lines.drop (Frame.leadingBlanks lines) = lines.dropWhile Text.isBlank := by
  unfold Frame.leadingBlanks
  induction lines with
  | nil => rfl
  | cons first others ih =>
      by_cases blank : Text.isBlank first = true
      · rw [List.takeWhile_cons_of_pos blank, List.dropWhile_cons_of_pos blank]
        exact ih
      · rw [List.takeWhile_cons_of_neg blank, List.dropWhile_cons_of_neg blank]
        rfl

def given (lines : List String) : List (Except Failure (Option String)) :=
  (nonBlank lines).map fun line => .ok (some line)

theorem given_append (first second : List String) :
    given (first ++ second) = given first ++ given second := by
  simp [given, nonBlank_append]

namespace Call

structure Idle (call : Call) : Prop where
  staying : call.returning = false
  straight : call.jump? = none
  running : call.ended = false

theorem Idle.settle_eq {call : Call} (idle : call.Idle) : call.settle = (.ok (), call) := by
  simp [settle, idle.running, idle.staying, idle.straight]

theorem Idle.skip {call : Call} (idle : call.Idle) (count : Nat) : (call.skip count).Idle :=
  ⟨idle.staying, idle.straight, idle.running⟩

theorem idle_of_settle {call settled : Call} (done : call.settle = (.ok (), settled))
    (running : settled.ended = false) : settled.Idle := by
  unfold settle at done
  split at done
  · rename_i finished
    obtain ⟨-, rfl⟩ := Prod.mk.inj done
    simp [finished] at running
  · rename_i going
    split at done
    · obtain ⟨-, rfl⟩ := Prod.mk.inj done
      simp at running
    · rename_i staying
      split at done
      · rename_i straight
        obtain ⟨-, rfl⟩ := Prod.mk.inj done
        exact ⟨by simpa using staying, straight, running⟩
      · split at done
        · obtain ⟨-, rfl⟩ := Prod.mk.inj done
          exact ⟨by simpa using staying, rfl, running⟩
        · simp at done

theorem remaining_skip (call : Call) (count : Nat) :
    (call.skip count).remaining = call.remaining.drop count := by
  by_cases finished : call.ended = true
  · simp [remaining, skip, finished]
  · simp [remaining, skip, finished, List.drop_drop]

theorem running_of_remaining {call : Call} {line : String} {rest : List String}
    (more : call.remaining = line :: rest) : call.ended = false := by
  unfold remaining at more
  split at more
  · simp at more
  · rename_i going
    simpa using going

end Call

namespace Frame

def Finite : Frame → Prop
  | .lines _ | .call _ => True
  | .endless _ => False

def Settled : Frame → Prop
  | .lines _ => True
  | .call running => running.Idle
  | .endless _ => False

def unread : Frame → List String
  | .lines unread => unread
  | .call running => running.remaining
  | .endless _ => []

def answers : Frame → List (Except Failure (Option String))
  | .lines unread => given unread
  | .call running =>
    match running.settle with
    | (.error error, _) => [.error (.ofError error)]
    | (.ok (), settled) => given settled.remaining
  | .endless _ => []

theorem finite_lines (lines : List String) : (Frame.lines lines).Finite :=
  trivial

theorem finite_call (running : Call) : (Frame.call running).Finite :=
  trivial

theorem Settled.finite {frame : Frame} (settled : frame.Settled) : frame.Finite := by
  cases frame with
  | lines _ => trivial
  | endless _ => exact settled
  | call _ => trivial

theorem Settled.answers_eq {frame : Frame} (settled : frame.Settled) :
    frame.answers = given frame.unread := by
  cases frame with
  | lines _ => rfl
  | endless _ => rfl
  | call running =>
      have idle : running.Idle := settled
      simp [answers, idle.settle_eq, unread]

theorem draw_cases {frame : Frame} (finite : frame.Finite) :
    (frame.answers = [] ∧ frame.draw = .exhausted) ∨
      (∃ error, frame.answers = [.error (.ofError error)] ∧ frame.draw = .failed error) ∨
      ∃ line rest, rest.Settled ∧ frame.answers = .ok (some line) :: rest.answers ∧
        frame.draw = .line line rest := by
  cases frame with
  | endless _ => exact finite.elim
  | lines lines =>
      simp only [draw, drawLines, answers]
      cases passed : lines.dropWhile Text.isBlank with
      | nil =>
          refine .inl ⟨?_, rfl⟩
          rw [given, ← nonBlank_dropWhile, passed]
          rfl
      | cons line rest =>
          refine .inr (.inr ⟨line, .lines rest, trivial, ?_, rfl⟩)
          rw [given, nonBlank_of_dropWhile_cons passed]
          rfl
  | call running =>
      simp only [draw, drawCall, answers]
      rcases done : running.settle with ⟨_ | _, settled⟩
      · exact .inr (.inl ⟨_, rfl, rfl⟩)
      · dsimp only
        cases passed : settled.remaining.dropWhile Text.isBlank with
        | nil =>
            refine .inl ⟨?_, rfl⟩
            rw [given, ← nonBlank_dropWhile, passed]
            rfl
        | cons line rest =>
            -- Behind the blank lines and the line given lies what the call still has.
            have behind : (settled.skip (leadingBlanks settled.remaining + 1)).remaining = rest := by
              rw [Call.remaining_skip, ← List.drop_drop, drop_leadingBlanks, passed]
              rfl
            have present : settled.remaining ≠ [] := by
              intro empty
              simp [empty] at passed
            obtain ⟨_, _, more⟩ := List.exists_cons_of_ne_nil present
            have idle := Call.idle_of_settle done (Call.running_of_remaining more)
            have idleLater := idle.skip (leadingBlanks settled.remaining + 1)
            refine .inr (.inr ⟨line, .call _, idleLater, ?_, rfl⟩)
            simp only [idleLater.settle_eq, behind]
            rw [given, nonBlank_of_dropWhile_cons passed]
            rfl

end Frame

namespace InputStack

def queryAll (input : InputStack) : List (Option String) → List Reply
  | [] => []
  | prompt? :: prompts =>
    let answered := input.query prompt?
    { result := answered.result, readings := answered.readings } ::
      queryAll answered.rest prompts

/-- Queries get the answers, none of them from the external source, and go on as those to the later
stack do. -/
def Delivers (input : InputStack) (answers : List (Except Failure (Option String)))
    (later : InputStack) : Prop :=
  ∀ prompts, input.queryAll prompts =
    (answers.map Reply.silent).take prompts.length ++
      later.queryAll (prompts.drop answers.length)

theorem Delivers.nothing (input : InputStack) : input.Delivers [] input := by
  intro prompts
  simp

theorem Delivers.trans {input middle later : InputStack}
    {first second : List (Except Failure (Option String))} (top : input.Delivers first middle)
    (others : middle.Delivers second later) : input.Delivers (first ++ second) later := by
  intro prompts
  rw [top, others]
  simp only [List.map_append, List.length_append, List.length_drop, List.drop_drop,
    List.take_append, List.length_map, List.append_assoc]

theorem delivers_frame {frame : Frame} (finite : frame.Finite) (below : List Frame)
    (source : Source) :
    Delivers { frames := frame :: below, source } frame.answers { frames := below, source } := by
  intro prompts
  -- Each query takes one answer off the frame, whatever the frame is by then.
  induction prompts generalizing frame with
  | nil => simp [queryAll]
  | cons prompt? prompts ih =>
      rcases Frame.draw_cases finite with ⟨none, drawn⟩ | ⟨error, one, drawn⟩ |
        ⟨line, rest, settled, more, drawn⟩
      · simp [none, queryAll, query, drawFrom, drawn]
      · simp [one, queryAll, query, drawFrom, drawn, Reply.silent]
      · have later := ih settled.finite
        simp [more, queryAll, query, drawFrom, drawn, later, Reply.silent]

theorem delivers_lines (above : List (List String)) (below : List Frame) (source : Source) :
    Delivers { frames := above.map .lines ++ below, source } (given above.flatten)
      { frames := below, source } := by
  induction above with
  | nil => exact Delivers.nothing _
  | cons lines above ih =>
      have top := delivers_frame (Frame.finite_lines lines) (above.map .lines ++ below) source
      rw [List.flatten_cons, given_append]
      exact top.trans ih

end InputStack

end MenuShell

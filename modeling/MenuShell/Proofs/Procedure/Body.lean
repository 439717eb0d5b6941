import MenuShell.Procedure.Basic
import MenuShell.Proofs.Input.Delivery
import MenuShell.Proofs.Text.Splitting

/-!
The body of a procedure, from the lines that it was read from. Each line gives at most one command, so
that the body is the list of these commands; what stands at and behind the last declaration of a label
gives the commands from the label on.
-/

namespace MenuShell

namespace Procedure

variable {marker : Char} {line label : String} {lines : List String}

def command? (marker : Char) (line : String) : Option String :=
  match declaration? marker line with
  | none => some line
  | some declaration =>
    let command := (Text.splitFirstWord declaration).2
    if command.isEmpty then none else some command

def declared? (marker : Char) (line : String) : Option String :=
  (declaration? marker line).map fun declaration => (Text.splitFirstWord declaration).1

def commands (marker : Char) (lines : List String) : List String :=
  ((nonBlank lines).map Text.trim).filterMap (command? marker)

def ofTyped (marker : Char) (lines : List String) : Procedure :=
  parse marker ((nonBlank lines).map Text.trim)

theorem lines_readLine (procedure : Procedure) (line : String) :
    (readLine marker procedure line).lines = procedure.lines ++ (command? marker line).toList := by
  unfold readLine command?
  cases declaration? marker line with
  | none => rfl
  | some declaration =>
      dsimp only
      cases nameless : (Text.splitFirstWord declaration).1.isEmpty with
      | true =>
          have none := Text.snd_splitFirstWord_of_fst (String.isEmpty_iff.mp nameless)
          simp [none]
      | false =>
          cases (Text.splitFirstWord declaration).2.isEmpty <;> simp [declare, append]

theorem label?_declare (procedure : Procedure) (declared label : String) :
    (procedure.declare declared).label? label =
      if declared = label then some procedure.lines.length else procedure.label? label := by
  rw [label?, declare, List.lookup_cons]
  by_cases same : label = declared
  · simp [same]
  · rw [beq_false_of_ne same, if_neg (Ne.symm same)]
    rfl

theorem label?_readLine (procedure : Procedure) (line : String) (named : label ≠ "") :
    (readLine marker procedure line).label? label =
      if declared? marker line = some label then some procedure.lines.length
      else procedure.label? label := by
  unfold readLine declared?
  cases declaration? marker line with
  | none => simp [append, label?]
  | some declaration =>
      simp only [Option.map_some, Option.some.injEq, ← label?_declare]
      split
      · rename_i nameless
        rw [String.isEmpty_iff.mp nameless, label?_declare, if_neg named.symm]
      · split <;> rfl

theorem lines_foldl (lines : List String) (procedure : Procedure) :
    (lines.foldl (readLine marker) procedure).lines =
      procedure.lines ++ lines.filterMap (command? marker) := by
  induction lines generalizing procedure with
  | nil => simp
  | cons line others ih =>
      rw [List.foldl_cons, ih, lines_readLine, List.append_assoc]
      cases command : command? marker line <;> simp [command]

theorem lines_parse (marker : Char) (lines : List String) :
    (parse marker lines).lines = lines.filterMap (command? marker) :=
  lines_foldl lines {}

theorem label?_foldl (named : label ≠ "") (procedure : Procedure)
    (others : ∀ line ∈ lines, declared? marker line ≠ some label) :
    (lines.foldl (readLine marker) procedure).label? label = procedure.label? label := by
  induction lines generalizing procedure with
  | nil => rfl
  | cons line lines ih =>
      rw [List.foldl_cons, ih _ fun line member => others line (List.mem_cons_of_mem _ member),
        label?_readLine _ _ named, if_neg (others line List.mem_cons_self)]

theorem parse_from_label {before behind : List String} (named : label ≠ "")
    (declares : declared? marker line = some label)
    (last : ∀ other ∈ behind, declared? marker other ≠ some label) :
    ∃ index, (parse marker (before ++ line :: behind)).label? label = some index ∧
      (parse marker (before ++ line :: behind)).lines.drop index =
        (line :: behind).filterMap (command? marker) := by
  refine ⟨(parse marker before).lines.length, ?_, ?_⟩
  · rw [parse, List.foldl_append, List.foldl_cons, label?_foldl named _ last,
      label?_readLine _ _ named, if_pos declares]
    rfl
  · rw [lines_parse, lines_parse, List.filterMap_append, List.drop_left]

theorem visible_of_mem_commands {command : String} (member : command ∈ commands marker lines) :
    Text.isBlank command = false := by
  obtain ⟨line, typed, gives⟩ := List.mem_filterMap.mp member
  obtain ⟨raw, kept, rfl⟩ := List.mem_map.mp typed
  have visible : Text.isBlank raw = false := by simpa [nonBlank] using (List.mem_filter.mp kept).2
  unfold command? at gives
  split at gives
  · rw [← Option.some.inj gives, Text.isBlank_trim, visible]
  · dsimp only at gives
    split at gives
    · simp at gives
    · rename_i present
      rw [← Option.some.inj gives]
      exact Text.isBlank_afterFirstWord (by simpa using present)

theorem visible_of_declared (declares : declared? marker (Text.trim line) = some label) :
    Text.isBlank line = false := by
  rw [← Bool.not_eq_true, Text.isBlank_iff_trim]
  intro none
  rw [none] at declares
  contradiction

theorem lines_ofTyped (marker : Char) (lines : List String) :
    (ofTyped marker lines).lines = commands marker lines :=
  lines_parse marker _

def replies (marker : Char) (lines : List String) : List (Except Failure (Option String)) :=
  (commands marker lines).map fun command => .ok (some command)

theorem given_commands (marker : Char) (lines : List String) :
    given (commands marker lines) = replies marker lines := by
  have all : nonBlank (commands marker lines) = commands marker lines := by
    rw [nonBlank, List.filter_eq_self]
    intro command member
    simp [visible_of_mem_commands member]
  rw [given, all, replies]

end Procedure

end MenuShell

import MenuShell.Failure
import MenuShell.Text.Words

/-!
Procedures: named lists of command lines with labels. A line that starts with the marker declares
a label for the command that follows it; the rest of such a line is that command, if there is any.
-/

namespace MenuShell

/-- Command lines, and for every label, the latest declaration first, the number of lines before
it. -/
structure Procedure where
  lines : List String := []
  labels : List (String × Nat) := []
deriving DecidableEq, Repr

namespace Procedure

def declaration? (marker : Char) (line : String) : Option String :=
  match Chars.trimStart line.toList with
  | first :: rest => if first = marker then some (String.ofList rest) else none
  | [] => none

def declare (procedure : Procedure) (label : String) : Procedure :=
  { procedure with labels := (label, procedure.lines.length) :: procedure.labels }

def append (procedure : Procedure) (line : String) : Procedure :=
  { procedure with lines := procedure.lines ++ [line] }

/-- A marker without a label says nothing. -/
def readLine (marker : Char) (procedure : Procedure) (line : String) : Procedure :=
  match declaration? marker line with
  | none => procedure.append line
  | some declaration =>
    let (label, command) := Text.splitFirstWord declaration
    if label.isEmpty then procedure
    else if command.isEmpty then procedure.declare label
    else (procedure.declare label).append command

def parse (marker : Char) (lines : List String) : Procedure :=
  lines.foldl (readLine marker) {}

def label? (procedure : Procedure) (label : String) : Option Nat :=
  procedure.labels.lookup label

end Procedure

end MenuShell

import MenuShell.Failure
import MenuShell.Text.LetterCase
import MenuShell.Text.Quoted

/-!
Names of records. A wanted name means the record of that very name, else the first one that starts
with it if case is ignored, else the first one that contains it.
-/

namespace MenuShell

namespace RecordName

def isInfixOf (part whole : List Char) : Bool :=
  match whole with
  | [] => part.isEmpty
  | _ :: rest => part.isPrefixOf whole || isInfixOf part rest

def contains (name wanted : String) : Bool :=
  isInfixOf wanted.toList name.toList

def startsLike (name wanted : String) : Bool :=
  (Text.lower wanted).toList.isPrefixOf (Text.lower name).toList

/-- Picks the record that a possibly partial name refers to; `names` are sorted. -/
def select? (names : List String) (wanted : String) : Option String :=
  if names.contains wanted then some wanted
  else (names.find? fun name => startsLike name wanted).or
    (names.find? fun name => contains name wanted)

/-- A name that could lead out of a folder is no name. -/
def isValid (name : String) : Bool :=
  !name.isEmpty && !name.toList.any (fun char => char == '/' || char == '\\') &&
    name != "." && name != ".."

def check (name : String) : Except Failure Unit :=
  if isValid name then .ok ()
  else .error (.ofMessage ("invalid record name: " ++ Text.quoted name))

end RecordName

end MenuShell

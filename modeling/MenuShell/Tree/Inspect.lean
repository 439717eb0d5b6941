import MenuShell.Tree.Basic
import MenuShell.Text.Quoted

/-!
A one-line picture of a node for diagnosis: its fields by name, texts quoted, other nodes by their
place in the arena.
-/

namespace MenuShell

namespace Inspect

def optional {Value : Type} (render : Value → String) : Option Value → String
  | some value => "Some(" ++ render value ++ ")"
  | none => "None"

def place (id : NodeId) : String :=
  "NodeId(" ++ toString id ++ ")"

def mode : Comparison → String
  | .sensitive => "CaseSensitive"
  | .insensitive => "CaseInsensitive"

def list {Value : Type} (render : Value → String) (values : List Value) : String :=
  "[" ++ ", ".intercalate (values.map render) ++ "]"

def fields (name : String) (parts : List (String × String)) : String :=
  name ++ " \x7b " ++ ", ".intercalate (parts.map fun (field, value) => field ++ ": " ++ value) ++
    " \x7d"

end Inspect

def Node.inspect {Action : Type} (node : Node Action) : String :=
  Inspect.fields "Node" [
    ("selector", Inspect.optional Text.quoted node.selector?),
    ("help", Inspect.optional Text.quoted node.help?),
    ("has_action", if node.action?.isSome then "true" else "false"),
    ("comparison", Inspect.optional Inspect.mode node.comparison?),
    ("children", Inspect.list Inspect.place node.children),
    ("default_child", Inspect.optional Inspect.place node.defaultChild?),
    ("parent", Inspect.optional Inspect.place node.parent?)]

end MenuShell

import MenuShell.Arguments.Basic

/-!
Usage texts: one line with the shape of the command, what it does, and one line for every argument
and option with its description in a column of its own.
-/

namespace MenuShell

namespace ArgumentSpec

def descriptionColumn : Nat := 20

def row (name description : String) : String :=
  let shown := "  " ++ name
  shown ++ String.ofList (List.replicate (descriptionColumn - shown.length) ' ') ++
    description ++ "\n"

def optionShape (option : OptionSpec) : String :=
  if option.isSwitch then "[" ++ option.flag ++ "]"
  else "[" ++ option.flag ++ " <" ++ option.name ++ ">]"

def positionalShape (positional : PositionalSpec) : String :=
  match positional.arity with
  | .required => "<" ++ positional.name ++ ">"
  | .optional => "[<" ++ positional.name ++ ">]"
  | .greedy => "[" ++ positional.name ++ "...]"

def rowPositionals (spec : ArgumentSpec) : List PositionalSpec :=
  spec.positionals.filter fun positional => positional.arity ≠ .greedy

def shape (spec : ArgumentSpec) : String :=
  let separator := if spec.rowPositionals.isEmpty then [] else ["[--]"]
  " ".intercalate (["Usage:", spec.command] ++ spec.options.map optionShape ++ separator ++
    spec.positionals.map positionalShape)

def positionalRows (spec : ArgumentSpec) : String :=
  if spec.rowPositionals.isEmpty then ""
  else "Positional Arguments:\n" ++
    String.join (spec.rowPositionals.map fun positional =>
      row positional.name positional.description) ++ "\n"

def optionRows (spec : ArgumentSpec) : String :=
  "Options:\n" ++
    String.join (spec.options.map fun option => row option.flag option.description) ++
    row "--help, help" "display usage information"

def usage (spec : ArgumentSpec) : String :=
  spec.shape ++ "\n\n" ++ spec.description ++ "\n\n" ++ spec.positionalRows ++ spec.optionRows

end ArgumentSpec

end MenuShell

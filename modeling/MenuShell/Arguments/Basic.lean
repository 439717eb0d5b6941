/-!
What a command takes on its line: options with a value, switches, and words by position. The last
positional may be greedy and take all words that are left.
-/

namespace MenuShell

inductive Arity where
  | required
  | optional
  | greedy
deriving DecidableEq, Repr

structure OptionSpec where
  name : String
  isSwitch : Bool := false
  description : String
deriving DecidableEq, Repr

structure PositionalSpec where
  name : String
  arity : Arity
  description : String
deriving DecidableEq, Repr

structure ArgumentSpec where
  command : String
  description : String
  options : List OptionSpec := []
  positionals : List PositionalSpec := []
deriving DecidableEq, Repr

def OptionSpec.flag (option : OptionSpec) : String :=
  "--" ++ option.name

structure Arguments where
  options : List (String × String) := []
  positionals : List String := []
deriving DecidableEq, Repr

namespace Arguments

def value? (arguments : Arguments) (name : String) : Option String :=
  arguments.options.lookup name

def has (arguments : Arguments) (name : String) : Bool :=
  (arguments.value? name).isSome

end Arguments

/-- A command line that runs no command: it asked for help, or it was wrong. -/
inductive Refusal where
  | help (usage : String)
  | mistake (message : String)
deriving DecidableEq, Repr

def Refusal.text : Refusal → String
  | help usage => usage
  | mistake message => message

end MenuShell

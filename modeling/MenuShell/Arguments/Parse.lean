import MenuShell.Arguments.Usage

/-!
Reading the words of a command line from left to right. Two dashes, or the first word of a greedy
positional, end the options; before that `help` asks for the usage text, which is given only if
nothing else on the line is wrong.
-/

namespace MenuShell

namespace ArgumentSpec

structure Progress where
  found : Arguments := {}
  optionsEnded : Bool := false
  helpWanted : Bool := false
deriving DecidableEq, Repr

def isHelp (word : String) : Bool :=
  word = "--help" || word = "help"

def isDashed (word : String) : Bool :=
  word.toList.head? = some '-'

def unrecognized {Value : Type} (word : String) : Except String Value :=
  .error ("Unrecognized argument: " ++ word ++ "\n")

def setOption (progress : Progress) (name value : String) : Progress :=
  { progress with
    found := { progress.found with options := progress.found.options ++ [(name, value)] } }

def nextPositional? (spec : ArgumentSpec) (taken : Nat) : Option PositionalSpec :=
  match spec.positionals[taken]? with
  | some positional => some positional
  | none => spec.positionals.getLast?.filter fun last => last.arity = .greedy

def takePositional (spec : ArgumentSpec) (progress : Progress) (word : String) :
    Except String Progress :=
  match spec.nextPositional? progress.found.positionals.length with
  | none => unrecognized word
  | some positional =>
    .ok { progress with
      found := { progress.found with positionals := progress.found.positionals ++ [word] }
      optionsEnded := progress.optionsEnded || positional.arity = .greedy }

/-- An option that takes a value takes the next word, whatever it is. -/
def readWords (spec : ArgumentSpec) (progress : Progress) : List String → Except String Progress
  | [] => .ok progress
  | word :: others =>
    if progress.optionsEnded || !(isHelp word || isDashed word) then
      match spec.takePositional progress word with
      | .ok next => readWords spec next others
      | .error message => .error message
    else if isHelp word then readWords spec { progress with helpWanted := true } others
    else if word = "--" then readWords spec { progress with optionsEnded := true } others
    else if progress.helpWanted then
      .error "Trailing arguments are not allowed after `help`."
    else match spec.options.find? fun option => option.flag = word with
      | none => unrecognized word
      | some option =>
        if option.isSwitch then readWords spec (setOption progress option.name "") others
        else match others with
          | [] => .error ("No value provided for option '" ++ word ++ "'.\n")
          | value :: rest =>
            if progress.found.has option.name then
              .error ("Error parsing option '" ++ word ++ "' with value '" ++ value ++
                "': duplicate values provided\n")
            else readWords spec (setOption progress option.name value) rest

def missing (spec : ArgumentSpec) (taken : Nat) : List String :=
  ((spec.positionals.drop taken).filter fun positional => positional.arity = .required).map
    PositionalSpec.name

def parse (spec : ArgumentSpec) (words : List String) : Except Refusal Arguments :=
  match spec.readWords {} words with
  | .error message => .error (.mistake message)
  | .ok progress =>
    if progress.helpWanted then .error (.help spec.usage)
    else
      let missing := spec.missing progress.found.positionals.length
      if missing.isEmpty then .ok progress.found
      else .error (.mistake ("Required positional arguments not provided:\n" ++
        "\n".intercalate (missing.map ("    " ++ ·)) ++ "\n"))

end ArgumentSpec

end MenuShell

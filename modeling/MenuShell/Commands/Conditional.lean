import MenuShell.Commands.Builder

/-!
The command `if`: it runs a command if a condition holds, every `not` in front of the condition
turning the outcome around.
-/

namespace MenuShell

namespace Commands

variable {Host : Type}

/-- The words `not` that a line starts with, counted, and the rest of the line; a line has no more
words than characters. -/
def stripNegations (mode : Comparison) : Nat → String → Nat × String
  | 0, line => (0, line)
  | bound + 1, line =>
    let (word, rest) := Text.splitFirstWord line
    if mode.same word "not" then
      let (count, last) := stripNegations mode bound rest
      (count + 1, last)
    else (0, line)

def runIf (menu : NodeId) : Action Host := fun line =>
  .ask (.comparison menu) fun mode =>
    let (negations, condition) := stripNegations mode line.length line
    let (word, rest) := Text.splitFirstWord condition
    .ask (.test word mode) fun
      | none => .fail (.ofError (.unknownCondition word))
      | some verdict =>
        if verdict = (negations % 2 == 0) then .andThen (.pushLines [rest]) (.done .normal)
        else .done .normal

def ifHelp : String :=
  "if [not] <condition> <command>\nExecutes <command> if <condition> is met.\n" ++
    "If the modifier <not> is given, the condition result is reversed."

def installIf (menu : NodeId) : Builder Host Unit :=
  discard (Builder.add menu ((Node.leaf "if" (runIf menu)).withHelp ifHelp))

end Commands

end MenuShell

import MenuShell.Commands.Capture

/-!
The commands that define and control procedures: `proc`, `call`, `return` and `goto`.
-/

namespace MenuShell

namespace Commands

variable {Host : Type}

def procSpec : ArgumentSpec where
  command := "proc"
  description := "Define a procedure from the following lines."
  positionals := [{
    name := "name", arity := .optional, description := "name of the new procedure." }]

def procHelp : String :=
  "proc <name>\nRecords all subsequent commands as the procedure <name>.\n" ++
    "Recording is finished by \"endproc\". " ++
    "Lines \":<label>\" declare jump targets for \"goto\"."

def runProc (menu : NodeId) (arguments : Arguments) : Script Host :=
  match arguments.positionals with
  | [] => .say "You must enter a name to identify this proc." (.done .normal)
  | name :: _ =>
    .ask .settings fun settings =>
    .say ("Recording started. Enter \"" ++ settings.endProc ++ "\" to finish.") <|
    capture menu fun lines =>
    .andThen (.recordProcedure name lines) (.done .normal)

def callSpec : ArgumentSpec where
  command := "call"
  description := "Run a stored procedure."
  positionals := [{
    name := "name", arity := .required, description := "name of the procedure." }]

def runCall (arguments : Arguments) : Script Host :=
  .andThen (.call (arguments.positionals.headD "")) (.done .normal)

def returnSpec : ArgumentSpec where
  command := "return"
  description := "Leave the innermost running procedure."

def gotoSpec : ArgumentSpec where
  command := "goto"
  description := "Continue the innermost running procedure at a label."
  positionals := [{
    name := "label", arity := .required, description := "label declared in the procedure." }]

def runGoto (arguments : Arguments) : Script Host :=
  .andThen (.requestJump (arguments.positionals.headD "")) (.done .normal)

def installProcedures (settings : Settings) (parent : NodeId) : Builder Host Unit := do
  let menu ← installCapture parent
    (((Node.menu procSpec.command).withHelp procHelp).withPrompt "proc>") settings.endProc
  Builder.setAction menu (Script.withArguments procSpec (runProc menu))
  discard (Builder.add parent
    (Node.ofSpec callSpec "call <name>\nExecutes the commands of the procedure <name>." runCall))
  discard (Builder.add parent
    (Node.ofSpec returnSpec "return\nLeaves the current procedure."
      fun _ => .andThen .requestReturn (.done .normal)))
  discard (Builder.add parent
    (Node.ofSpec gotoSpec
      "goto <label>\nContinues the current procedure after the line \":<label>\"." runGoto))

end Commands

end MenuShell

import MenuShell.Commands.Capture

/-!
The commands `record` and `replay`, which keep lines and push them again.
-/

namespace MenuShell

namespace Commands

variable {Host : Type}

def recordSpec : ArgumentSpec where
  command := "record"
  description := "Record the following lines for a later replay."
  positionals := [{
    name := "name", arity := .optional, description := "name of the record." }]

def recordHelp : String :=
  "record <name>\nRecords all subsequent commands under the specified name.\n" ++
    "Recording can be stopped by the command \"endrecord\".\n" ++
    "Stored records can be played via the \"replay\" command.\n\n" ++
    "Nested recording is not supported."

def runRecord (menu : NodeId) (arguments : Arguments) : Script Host :=
  match arguments.positionals with
  | [] => .say "You must enter a name to identify this command group." (.done .normal)
  | name :: _ =>
    capture menu fun lines =>
    .andThen (.addRecord name lines) (.done .normal)

def replaySpec : ArgumentSpec where
  command := "replay"
  description := "Replay a recorded session, or list the known records."
  positionals := [{
    name := "name", arity := .optional
    description := "name, name prefix or part of the record." }]

def replayHelp : String :=
  "replay [name]\nReplays all commands stored under the specified name, or\n" ++
    "Displays a list of all records.\n\n" ++
    "Replaying puts all stored commands in the same order on the stack as they were " ++
    "originally entered.\nNested replaying is supported."

/-- A replayed record stops before the first line that is the end line. -/
def runReplay (arguments : Arguments) : Script Host :=
  match arguments.positionals with
  | [] =>
    .ask .recordNames fun names =>
    .say ("Known records: " ++ ", ".intercalate names) (.done .normal)
  | name :: _ =>
    .ask .settings fun settings =>
    .ask (.getRecord name) fun lines =>
    .andThen (.pushLines (lines.takeWhile (· ≠ settings.endReplay))) (.done .normal)

def installRecording (settings : Settings) (parent : NodeId) : Builder Host Unit := do
  let menu ← installCapture parent ((Node.menu recordSpec.command).withHelp recordHelp)
    settings.endRecord
  Builder.setAction menu (Script.withArguments recordSpec (runRecord menu))
  discard (Builder.add parent (Node.ofSpec replaySpec replayHelp runReplay))

end Commands

end MenuShell

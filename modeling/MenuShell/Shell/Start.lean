import MenuShell.Commands.Conditional
import MenuShell.Commands.Menu
import MenuShell.Commands.Procedures
import MenuShell.Commands.Recording
import MenuShell.Commands.Samples
import MenuShell.Shell.State

/-!
A new shell and what can be installed in it. The root menu starts out with `help` and `quit`.
-/

namespace MenuShell

namespace Shell

variable {Host : Type}

def initialTree (settings : Settings) : Tree (Action Host) :=
  let bare : Tree (Action Host) := Tree.empty settings.comparison
  let prompted := bare.modify Tree.root fun node => { node with prompt? := some settings.prompt }
  ((Commands.installMenuCommands Tree.root).build prompted).2

def initialConditions : List (String × Condition Host) :=
  [("true", .constant true), ("false", .constant false)]

def start (settings : Settings) (source : Source) (records : RecordStore) (host : Host) :
    Shell Host where
  tree := initialTree settings
  input := { source }
  procedures := { marker := settings.labelMarker }
  conditions := initialConditions
  prompts := {}
  settings
  records
  notebooks := []
  transcript := #[]
  host

/-- Takes building steps; what was done before an error stays. -/
def build {Value : Type} (shell : Shell Host) (steps : Builder Host Value) :
    Except MenuError Value × Shell Host :=
  let (result, tree) := steps.build shell.tree
  (result, { shell with tree })

def installProcedures (shell : Shell Host) (parent : NodeId) :
    Except MenuError Unit × Shell Host :=
  shell.build (Commands.installProcedures shell.settings parent)

def installRecording (shell : Shell Host) (parent : NodeId) :
    Except MenuError Unit × Shell Host :=
  shell.build (Commands.installRecording shell.settings parent)

def installIf (shell : Shell Host) (menu : NodeId) : Except MenuError Unit × Shell Host :=
  shell.build (Commands.installIf menu)

def installSamples (shell : Shell Host) : Except MenuError Unit × Shell Host :=
  shell.build Commands.installSamples

end Shell

end MenuShell

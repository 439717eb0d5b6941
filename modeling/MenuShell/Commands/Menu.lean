import MenuShell.Commands.Builder

/-!
The commands that every menu has: `help` and `quit`.
-/

namespace MenuShell

namespace Commands

variable {Host : Type}

def helpSpec : ArgumentSpec where
  command := "help"
  description := "Display help for a command, or list the available commands."
  positionals := [{
    name := "topic"
    arity := .greedy
    description := "command path to describe, e.g. `convert upper`." }]

/-- Help is about the menu that the command was put into. -/
def helpNode (menu : NodeId) : Node (Action Host) :=
  Node.ofSpec helpSpec
    ("help [command]\nDisplays a help text for the specified command, or\n" ++
      "Displays a list of all available commands.")
    fun arguments =>
      .andThen (.showHelp menu (" ".intercalate arguments.positionals)) (.done .normal)

def quitSpec : ArgumentSpec where
  command := "quit"
  description := "Leave the current menu loop."

def quitNode : Node (Action Host) :=
  Node.ofSpec quitSpec "quit\nQuits menu processing." fun _ => .done .quit

def installMenuCommands (menu : NodeId) : Builder Host Unit := do
  discard (Builder.add menu (helpNode menu))
  discard (Builder.add menu quitNode)

def addMenu (parent : NodeId) (node : Node (Action Host)) : Builder Host NodeId := do
  let menu ← Builder.add parent node
  installMenuCommands menu
  return menu

end Commands

end MenuShell

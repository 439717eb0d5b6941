import MenuShell.Arguments.Parse
import MenuShell.Script
import MenuShell.Text.Words

/-!
Putting commands into a tree. Building steps change the tree one after another and stop at the
first error; what was done before it stays.
-/

namespace MenuShell

abbrev Builder (Host : Type) := ExceptT MenuError (StateM (Tree (Action Host)))

namespace Builder

variable {Host : Type}

def build {Value : Type} (steps : Builder Host Value) (tree : Tree (Action Host)) :
    Except MenuError Value × Tree (Action Host) :=
  steps.run tree

def add (parent : NodeId) (node : Node (Action Host)) : Builder Host NodeId :=
  ExceptT.mk fun tree => tree.add parent node

def setAction (id : NodeId) (action : Action Host) : Builder Host Unit :=
  ExceptT.mk fun tree => (.ok (), tree.modify id fun node => { node with action? := some action })

end Builder

namespace Script

variable {Host : Type}

/-- Reads a line's words as arguments; a command line that is refused is answered by its text. -/
def withArguments (spec : ArgumentSpec) (run : Arguments → Script Host) : Action Host :=
  fun line =>
    match spec.parse (Text.words line) with
    | .ok arguments => run arguments
    | .error refusal => .say (Text.trimEnd refusal.text) (.done .normal)

end Script

def Node.ofSpec {Host : Type} (spec : ArgumentSpec) (help : String)
    (run : Arguments → Script Host) : Node (Action Host) :=
  (Node.leaf spec.command (Script.withArguments spec run)).withHelp help

end MenuShell

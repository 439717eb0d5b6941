import MenuShell.Commands.Builder

/-!
Menus that collect lines: every line goes into the menu's notebook until the end keyword.
-/

namespace MenuShell

namespace Commands

variable {Host : Type}

def installCapture (parent : NodeId) (node : Node (Action Host)) (endWord : String) :
    Builder Host NodeId := do
  let menu ← Builder.add parent node
  discard (Builder.add menu
    ((Node.leaf endWord fun _ => .done .quit).withHelp "Finishes recording."))
  discard (Builder.add menu
    (Node.defaultItem fun line => .andThen (.note menu line) (.done .normal)))
  return menu

def capture (menu : NodeId) (next : List String → Script Host) : Script Host :=
  .andThen (.clearNotes menu) <|
  .enter (.menu menu) fun _ =>
  .ask (.notes menu) fun lines =>
  .andThen (.clearNotes menu) (next lines)

end Commands

end MenuShell

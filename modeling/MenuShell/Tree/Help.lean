import MenuShell.Tree.Resolve

/-!
Help texts. The words of a topic lead down the tree; at the end stand the help of the node that
they mean and the list of its visible children with their abbreviations.
-/

namespace MenuShell

namespace Tree

variable {Action : Type}

def line (text : String) : String :=
  text ++ "\n"

/-- A node that has no visible named children says so if it has no help. -/
def itemHelp (tree : Tree Action) (id : NodeId) : String :=
  match (tree.node id).help? with
  | some help => line help
  | none =>
    if (tree.visibleChildren id).isEmpty then
      line ("No help available for " ++ tree.describe id)
    else ""

/-- Abbreviations stand in a column of three characters. -/
def listingRow (row : String × Option String) : String :=
  match row with
  | (selector, some short) =>
    line (short ++ String.ofList (List.replicate (3 - short.length) ' ') ++ " | " ++ selector)
  | (selector, none) => line ("      " ++ selector)

def listing (tree : Tree Action) (menu : NodeId) : String :=
  String.join ((tree.abbreviations menu (tree.comparison menu)).map listingRow)

def framed (listing : String) : String :=
  line "Available commands:" ++ listing ++
    line "Type \"help <command>\" for individual command help."

def descend (tree : Tree Action) (id : NodeId) : List String → Except MenuError NodeId
  | [] => .ok id
  | word :: others =>
    match tree.resolveNamed id word (tree.comparison id) with
    | .ok child => descend tree child others
    | .error error => .error error

/-- A topic that is blank but not empty consists of the empty word. -/
def topicWords (topic : String) : List String :=
  if topic.isEmpty then []
  else match Text.words topic with
    | [] => [""]
    | words => words

/-- Without a topic the menu's own help and list are shown, the list between two lines of
instruction; a topic that leads nowhere is answered by the error. -/
def help (tree : Tree Action) (menu : NodeId) (topic : String) : String :=
  match topicWords topic with
  | [] => tree.itemHelp menu ++ framed (tree.listing menu)
  | words =>
    match tree.descend menu words with
    | .ok id => tree.itemHelp id ++ tree.listing id
    | .error error => line error.message

end Tree

end MenuShell

import MenuShell.Tree.Resolve

/-!
Where a line leads. A command without an action hands the line to the child that its first word
means, and so on down the tree until an action takes the rest of the line, an error is to be
reported, or the path ends at a command that has neither action nor visible children.
-/

namespace MenuShell

inductive Route where
  | act (id : NodeId) (line : String)
  | report (error : MenuError)
  | unbound (name : String)
deriving DecidableEq, Repr

namespace Tree

variable {Action : Type}

/-- One resolution: a child by name takes the rest of the line, the default item all of it. -/
def choose (tree : Tree Action) (descend : NodeId → String → Option Route) (menu : NodeId)
    (line : String) : Option Route :=
  let (word, rest) := Text.splitFirstWord line
  match tree.resolve menu word (tree.comparison menu) with
  | .ok (.named child) => descend child rest
  | .ok (.fallback item) => descend item line
  | .error error => some (.report error)

def routeWithin (tree : Tree Action) : Nat → NodeId → String → Option Route
  | 0, _, _ => none
  | bound + 1, id, line =>
    if (tree.node id).action?.isSome then some (.act id line)
    else if tree.hasVisibleChildren id then tree.choose (routeWithin tree bound) id line
    else some (.unbound (tree.describe id))

/-- The way of a line given to a node; links without a cycle are no longer than the arena. -/
def executeRoute? (tree : Tree Action) (id : NodeId) (line : String) : Option Route :=
  tree.routeWithin tree.size id line

def dispatchRoute? (tree : Tree Action) (menu : NodeId) (line : String) : Option Route :=
  tree.choose (tree.routeWithin tree.size) menu line

end Tree

end MenuShell

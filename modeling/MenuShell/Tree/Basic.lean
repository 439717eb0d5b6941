import MenuShell.Comparison
import MenuShell.Failure
import MenuShell.Text.Words

/-!
The tree of commands. Nodes live in an arena and are named by their position in it; position 0 is
the root. A node with a selector hangs among the children of its parent, a node without one is its
parent's default item. Links are plain data: what makes them a forest is a property of every tree
that the operations build, not of the type.
-/

namespace MenuShell

abbrev NodeId := Nat

/-- A command. `switch?` names the switch that shows or hides it. -/
structure Node (Action : Type) where
  selector? : Option String := none
  help? : Option String := none
  action? : Option Action := none
  prompt? : Option String := none
  comparison? : Option Comparison := none
  switch? : Option String := none
  children : List NodeId := []
  defaultChild? : Option NodeId := none
  parent? : Option NodeId := none

namespace Node

variable {Action : Type}

def menu (selector : String) : Node Action :=
  { selector? := some selector }

def leaf (selector : String) (action : Action) : Node Action :=
  { selector? := some selector, action? := some action }

def defaultItem (action : Action) : Node Action :=
  { action? := some action }

def withHelp (node : Node Action) (help : String) : Node Action :=
  { node with help? := some help }

def withPrompt (node : Node Action) (prompt : String) : Node Action :=
  { node with prompt? := some prompt }

def unlinked (node : Node Action) : Node Action :=
  { node with children := [], defaultChild? := none, parent? := none }

def allChildren (node : Node Action) : List NodeId :=
  node.children ++ node.defaultChild?.toList

end Node

/-- Switches that were never set are on. -/
structure Tree (Action : Type) where
  nodes : Array (Node Action)
  switches : List (String × Bool) := []

namespace Tree

variable {Action : Type}

def empty (comparison : Comparison) : Tree Action :=
  { nodes := #[{ comparison? := some comparison }] }

def root : NodeId := 0

def size (tree : Tree Action) : Nat :=
  tree.nodes.size

def node (tree : Tree Action) (id : NodeId) : Node Action :=
  tree.nodes.getD id {}

def selector (tree : Tree Action) (id : NodeId) : String :=
  (tree.node id).selector?.getD ""

def modify (tree : Tree Action) (id : NodeId) (change : Node Action → Node Action) :
    Tree Action :=
  { tree with nodes := tree.nodes.modify id change }

def describe (tree : Tree Action) (id : NodeId) : String :=
  match (tree.node id).selector? with
  | some selector => selector
  | none => if id = root then "(root)" else "(default)"

def isOn (tree : Tree Action) (switch : String) : Bool :=
  (tree.switches.lookup switch).getD true

def setSwitch (tree : Tree Action) (switch : String) (on : Bool) : Tree Action :=
  { tree with switches := (switch, on) :: tree.switches }

def isVisible (tree : Tree Action) (id : NodeId) : Bool :=
  (tree.node id).switch?.all tree.isOn

def defaultChild? (tree : Tree Action) (menu : NodeId) : Option NodeId :=
  (tree.node menu).defaultChild?

def visibleChildren (tree : Tree Action) (menu : NodeId) : List NodeId :=
  (tree.node menu).children.filter tree.isVisible

def visibleDefault? (tree : Tree Action) (menu : NodeId) : Option NodeId :=
  (tree.defaultChild? menu).filter tree.isVisible

def hasVisibleChildren (tree : Tree Action) (menu : NodeId) : Bool :=
  !(tree.visibleChildren menu).isEmpty || (tree.visibleDefault? menu).isSome

def climb (tree : Tree Action) : Nat → NodeId → List NodeId
  | 0, _ => []
  | bound + 1, id =>
    id :: match (tree.node id).parent? with
      | some parent => climb tree bound parent
      | none => []

/-- A node and all nodes above it: links without a cycle pass no more nodes than there are. -/
def lineage (tree : Tree Action) (id : NodeId) : List NodeId :=
  tree.climb tree.size id

/-- The mode of the nearest node at or above `id` that has one of its own; case does not matter
where none has. -/
def comparison (tree : Tree Action) (id : NodeId) : Comparison :=
  ((tree.lineage id).findSome? fun above => (tree.node above).comparison?).getD .insensitive

def child? (tree : Tree Action) (parent : NodeId) (word : String) : Option NodeId :=
  (tree.node parent).children.find? fun child =>
    (tree.node child).selector?.any fun selector => (tree.comparison parent).same selector word

/-! ### Siblings that cannot be told apart -/

def childSelectors (tree : Tree Action) (id : NodeId) : List String :=
  (tree.node id).children.filterMap fun child => (tree.node child).selector?

/-- The first word of a list that equals an earlier one, the earliest such earlier word deciding. -/
def firstClash? (mode : Comparison) : List String → Option String
  | [] => none
  | word :: others => (others.find? (mode.same word)).or (firstClash? mode others)

def inheritingChildren (tree : Tree Action) (id : NodeId) : List NodeId :=
  (tree.node id).allChildren.filter fun child => (tree.node child).comparison?.isNone

/-- A node and the nodes below it that take their mode from it, down to depth `bound`. -/
def regionWithin (tree : Tree Action) : Nat → NodeId → List NodeId
  | 0, _ => []
  | bound + 1, id => id :: (tree.inheritingChildren id).flatMap (regionWithin tree bound)

def region (tree : Tree Action) (id : NodeId) : List NodeId :=
  tree.regionWithin tree.size id

def clash? (tree : Tree Action) (id : NodeId) : Option String :=
  (tree.region id).findSome? fun below =>
    firstClash? (tree.comparison id) (tree.childSelectors below)

/-! ### Growing and linking -/

def insert (tree : Tree Action) (node : Node Action) : NodeId × Tree Action :=
  (tree.size, { tree with nodes := tree.nodes.push node.unlinked })

def dropLast (tree : Tree Action) : Tree Action :=
  { tree with nodes := tree.nodes.pop }

def isWord (selector : String) : Bool :=
  !selector.isEmpty && selector.toList.all (!Chars.isBlank ·)

/-- Why a node cannot be hung below another, before the nodes below it are looked at. -/
def attachObstacle? (tree : Tree Action) (parent child : NodeId) : Option MenuError :=
  if child = root || (tree.node child).parent?.isSome || (tree.lineage parent).contains child then
    some (.alreadyAttached (tree.describe child))
  else match (tree.node child).selector? with
    | none =>
      if (tree.defaultChild? parent).isSome then some (.duplicateSelector (tree.describe child))
      else none
    | some selector =>
      if !isWord selector then
        some (.invalidArgument "selector must be a single non-empty word")
      else if (tree.child? parent selector).isSome then some (.duplicateSelector selector)
      else none

def link (tree : Tree Action) (parent child : NodeId) : Tree Action :=
  let above := tree.modify parent fun node =>
    match (tree.node child).selector? with
    | some _ => { node with children := node.children ++ [child] }
    | none => { node with defaultChild? := some child }
  above.modify child fun node => { node with parent? := some parent }

def unlink (tree : Tree Action) (parent child : NodeId) : Tree Action :=
  let above := tree.modify parent fun node =>
    if node.defaultChild? = some child then { node with defaultChild? := none }
    else { node with children := node.children.filter (· ≠ child) }
  above.modify child fun node => { node with parent? := none }

/-- Hangs a node below another. A node that takes its mode from above is linked first and let go
again if its new mode makes siblings below it equal. -/
def attach (tree : Tree Action) (parent child : NodeId) : Except MenuError Unit × Tree Action :=
  match tree.attachObstacle? parent child with
  | some error => (.error error, tree)
  | none =>
    let linked := tree.link parent child
    if (tree.node child).comparison?.isSome then (.ok (), linked)
    else match linked.clash? child with
      | some selector => (.error (.duplicateSelector selector), linked.unlink parent child)
      | none => (.ok (), linked)

def detach (tree : Tree Action) (child : NodeId) : Except MenuError Unit × Tree Action :=
  match (tree.node child).parent? with
  | none => (.error (.invalidArgument "node is not attached"), tree)
  | some parent => (.ok (), tree.unlink parent child)

/-- Stores a node and attaches it; if that fails the arena gives the place back. -/
def add (tree : Tree Action) (parent : NodeId) (node : Node Action) :
    Except MenuError NodeId × Tree Action :=
  let (id, grown) := tree.insert node
  match grown.attach parent id with
  | (.ok (), attached) => (.ok id, attached)
  | (.error error, left) => (.error error, left.dropLast)

def setComparison (tree : Tree Action) (id : NodeId) (mode : Comparison) :
    Except MenuError Unit × Tree Action :=
  let changed := tree.modify id fun node => { node with comparison? := some mode }
  match changed.clash? id with
  | some selector =>
    (.error (.duplicateSelector selector),
      changed.modify id fun node => { node with comparison? := (tree.node id).comparison? })
  | none => (.ok (), changed)

end Tree

end MenuShell

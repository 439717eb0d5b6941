import MenuShell.Tree.Basic

/-!
Changes of a tree as data, so that a sequence of them can be written down, carried out by a
command, or followed by an induction. A tree is reachable if some sequence of changes, whether
they succeed or fail, builds it.
-/

namespace MenuShell

namespace Tree

inductive Edit (Action : Type) where
  | insert (node : Node Action)
  | copy (id : NodeId)
  | add (parent : NodeId) (node : Node Action)
  | attach (parent child : NodeId)
  | detach (child : NodeId)
  | setComparison (id : NodeId) (mode : Comparison)
  | setHelp (id : NodeId) (help? : Option String)
  | setPrompt (id : NodeId) (prompt? : Option String)
  | setAction (id : NodeId) (action? : Option Action)
  | setSwitch (id : NodeId) (switch? : Option String)
  | turn (switch : String) (on : Bool)

variable {Action : Type}

def stored (result : NodeId × Tree Action) : Except MenuError (Option NodeId) × Tree Action :=
  (.ok (some result.1), result.2)

def linked (result : Except MenuError Unit × Tree Action) :
    Except MenuError (Option NodeId) × Tree Action :=
  (result.1.map fun _ => none, result.2)

def changed (tree : Tree Action) : Except MenuError (Option NodeId) × Tree Action :=
  (.ok none, tree)

/-- Carries out a change; the answer is the place of the node that it stored. -/
def apply (tree : Tree Action) : Edit Action → Except MenuError (Option NodeId) × Tree Action
  | .insert node => stored (tree.insert node)
  | .copy id => stored (tree.insert (tree.node id))
  | .add parent node =>
    let (result, grown) := tree.add parent node
    (result.map some, grown)
  | .attach parent child => linked (tree.attach parent child)
  | .detach child => linked (tree.detach child)
  | .setComparison id mode => linked (tree.setComparison id mode)
  | .setHelp id help? => changed (tree.modify id fun node => { node with help? })
  | .setPrompt id prompt? => changed (tree.modify id fun node => { node with prompt? })
  | .setAction id action? => changed (tree.modify id fun node => { node with action? })
  | .setSwitch id switch? => changed (tree.modify id fun node => { node with switch? })
  | .turn switch on => changed (tree.setSwitch switch on)

def applyAll (tree : Tree Action) (edits : List (Edit Action)) : Tree Action :=
  edits.foldl (fun current edit => (current.apply edit).2) tree

end Tree

end MenuShell

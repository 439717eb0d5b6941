import MenuShell.Sorting
import MenuShell.Tree.Basic

/-!
What a typed word means in a menu. A visible child equal to the word wins; otherwise the word
abbreviates every visible child that starts with it and means a child only if there is just one.
A menu's visible default item takes the words that mean nothing else.
-/

namespace MenuShell

inductive Resolution where
  | named (id : NodeId)
  | fallback (id : NodeId)
deriving DecidableEq, Repr

def Resolution.id : Resolution → NodeId
  | named id | fallback id => id

namespace Tree

variable {Action : Type}

def selectorLe (left right : String) : Bool :=
  let leftKey := Text.lower left
  let rightKey := Text.lower right
  decide (leftKey < rightKey) || (leftKey == rightKey && decide (left ≤ right))

def sortBySelector (tree : Tree Action) (ids : List NodeId) : List NodeId :=
  sortBy (fun left right => selectorLe (tree.selector left) (tree.selector right)) ids

def exactMatches (tree : Tree Action) (menu : NodeId) (word : String) (mode : Comparison) :
    List NodeId :=
  (tree.visibleChildren menu).filter fun id => mode.same (tree.selector id) word

def abbreviated (tree : Tree Action) (menu : NodeId) (word : String) (mode : Comparison) :
    List NodeId :=
  (tree.visibleChildren menu).filter fun id => mode.begins (tree.selector id) word

def candidates (tree : Tree Action) (menu : NodeId) (word : String) (mode : Comparison) :
    List NodeId :=
  let exact := tree.exactMatches menu word mode
  tree.sortBySelector (if exact.isEmpty then tree.abbreviated menu word mode else exact)

def suggestionLimit : Nat := 5

/-- What a word unknown to a case sensitive menu would mean if case were ignored, unless that is
too much to be of help. -/
def suggestions (tree : Tree Action) (menu : NodeId) (word : String) (mode : Comparison) :
    List String :=
  match mode with
  | .insensitive => []
  | .sensitive =>
    let found := tree.candidates menu word .insensitive
    if found.length > suggestionLimit then [] else found.map tree.selector

def resolveNamed (tree : Tree Action) (menu : NodeId) (word : String) (mode : Comparison) :
    Except MenuError NodeId :=
  match tree.candidates menu word mode with
  | [only] => .ok only
  | [] => .error (.unknown word (tree.suggestions menu word mode))
  | several => .error (.ambiguous word (several.map tree.selector))

def resolve (tree : Tree Action) (menu : NodeId) (word : String) (mode : Comparison) :
    Except MenuError Resolution :=
  match tree.resolveNamed menu word mode with
  | .ok id => .ok (.named id)
  | .error (.unknown token suggestions) =>
    match tree.visibleDefault? menu with
    | some item => .ok (.fallback item)
    | none => .error (.unknown token suggestions)
  | .error error => .error error

def beginnings (word : String) : List String :=
  (List.range word.length).map fun index => String.ofList (word.toList.take (index + 1))

def shortestMeaning? (tree : Tree Action) (menu id : NodeId) (mode : Comparison) :
    Option String :=
  (beginnings (tree.selector id)).find? fun short => tree.candidates menu short mode == [id]

/-- The shortest beginning of a child's selector that means the child, if typing it instead of the
selector saves at least two characters. -/
def abbreviation? (tree : Tree Action) (menu id : NodeId) (mode : Comparison) : Option String :=
  (tree.shortestMeaning? menu id mode).filter fun short =>
    short.length + 1 < (tree.selector id).length

def abbreviations (tree : Tree Action) (menu : NodeId) (mode : Comparison) :
    List (String × Option String) :=
  (tree.sortBySelector (tree.visibleChildren menu)).map fun id =>
    (tree.selector id, tree.abbreviation? menu id mode)

end Tree

end MenuShell

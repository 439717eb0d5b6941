import MenuShell.Settings
import MenuShell.Tree.Edit
import MenuShell.Tree.Resolve

/-!
What a command does, as data. A script makes one request after another and goes on with the
answers; it can also let the shell run a menu or a line and carry on when that is over. Failures
come back as answers, so a script may pass them on or deal with them. `Host` is what the program
around the shell remembers for its own commands.
-/

namespace MenuShell

/-- What a command tells the loop that ran it; quitting ends only that loop. -/
inductive Signal where
  | normal
  | quit
deriving DecidableEq, Repr

inductive Answer where
  | nothing
  | line
  | lines
  | node
  | resolution
  | mode
  | verdict
  | settings
deriving DecidableEq, Repr

abbrev Answer.Value : Answer → Type
  | nothing => Unit
  | line => Option String
  | lines => List String
  | node => Option NodeId
  | resolution => Resolution
  | mode => Comparison
  | verdict => Option Bool
  | settings => Settings

inductive Request (Action : Type) : Answer → Type where
  | write (text : String) : Request Action .nothing
  | report (error : MenuError) : Request Action .nothing
  | showHelp (menu : NodeId) (topic : String) : Request Action .nothing
  | pushLines (lines : List String) : Request Action .nothing
  | call (procedure : String) : Request Action .nothing
  | requestReturn : Request Action .nothing
  | requestJump (label : String) : Request Action .nothing
  | query (prompt? : Option String) : Request Action .line
  | readExternal (prompt? : Option String) : Request Action .line
  | edit (change : Tree.Edit Action) : Request Action .node
  | child (menu : NodeId) (word : String) : Request Action .node
  | defaultChild (menu : NodeId) : Request Action .node
  | resolve (menu : NodeId) (word : String) (mode? : Option Comparison) :
      Request Action .resolution
  | resolveNamed (menu : NodeId) (word : String) (mode? : Option Comparison) :
      Request Action .node
  | comparison (id : NodeId) : Request Action .mode
  | test (condition : String) (mode : Comparison) : Request Action .verdict
  | settings : Request Action .settings
  | recordProcedure (name : String) (lines : List String) : Request Action .nothing
  | addRecord (name : String) (lines : List String) : Request Action .nothing
  | getRecord (name : String) : Request Action .lines
  | recordNames : Request Action .lines
  | clearNotes (menu : NodeId) : Request Action .nothing
  | note (menu : NodeId) (line : String) : Request Action .nothing
  | notes (menu : NodeId) : Request Action .lines

inductive Visit where
  | menu (id : NodeId)
  | execute (id : NodeId) (line : String)
  | dispatch (menu : NodeId) (line : String)
deriving DecidableEq, Repr

inductive Script (Host : Type) where
  | done (signal : Signal)
  | fail (failure : Failure)
  | consult (next : Host → Script Host)
  | remember (change : Host → Host) (next : Script Host)
  | perform {answer : Answer} (request : Request (String → Script Host) answer)
      (next : Except Failure answer.Value → Script Host)
  | visit (stop : Visit) (next : Except Failure Signal → Script Host)

abbrev Action (Host : Type) := String → Script Host

/-- A condition for `if`. One on a menu asks the host which menu that is at the time; one that
holds the first few times counts down; any other may depend on how often it has been looked at, and
on the tree, the settings and the host as they then are. -/
inductive Condition (Host : Type) where
  | constant (value : Bool)
  | switch (name : String)
  | hasChild (menu? : Host → Option NodeId) (selector : String)
  | firstTimes (count : Nat)
  | custom (looks : Nat) (holds : Nat → Tree (Action Host) → Settings → Host → Bool)

namespace Script

variable {Host : Type}

def ask {answer : Answer} (request : Request (Action Host) answer)
    (next : answer.Value → Script Host) : Script Host :=
  .perform request fun
    | .ok value => next value
    | .error failure => .fail failure

def andThen (request : Request (Action Host) .nothing) (next : Script Host) : Script Host :=
  .ask request fun _ => next

def say (text : String) (next : Script Host) : Script Host :=
  .andThen (.write (text ++ "\n")) next

def enter (stop : Visit) (next : Signal → Script Host) : Script Host :=
  .visit stop fun
    | .ok signal => next signal
    | .error failure => .fail failure

def bind : Script Host → (Signal → Script Host) → Script Host
  | .done signal, next => next signal
  | .fail failure, _ => .fail failure
  | .consult step, next => .consult fun host => (step host).bind next
  | .remember change step, next => .remember change (step.bind next)
  | .perform request step, next => .perform request fun value => (step value).bind next
  | .visit stop step, next => .visit stop fun result => (step result).bind next

/-- Runs scripts in order; the last one's signal counts, and a failure ends them all. -/
def inOrder : List (Script Host) → Script Host
  | [] => .done .normal
  | [last] => last
  | first :: others => first.bind fun _ => inOrder others

end Script

end MenuShell

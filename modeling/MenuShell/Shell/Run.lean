import MenuShell.Shell.State
import MenuShell.Tree.Route

/-!
Running a shell. A loop over a menu reads lines and dispatches them until a command quits or the
input ends. User errors are written out where they arise and the loop goes on; mistakes in
building the menu leave every loop at once. A run takes a bound on its length, and a run that
ended is the same under every larger bound.
-/

namespace MenuShell

namespace Shell

variable {Host : Type}

inductive Task (Host : Type) where
  | visit (stop : Visit)
  | loop (menu : NodeId)
  | script (script : Script Host)

abbrev Outcome (Host : Type) := Except Failure Signal × Shell Host

/-- A menu's loop shows the menu's prompt, or else that of the loop around it. -/
def enterLoop (shell : Shell Host) (menu : NodeId) : Shell Host :=
  { shell with
    prompts := shell.prompts.push
      ((shell.tree.node menu).prompt?.or shell.prompts.current?) }

def leaveLoop (shell : Shell Host) : Shell Host :=
  { shell with prompts := shell.prompts.pop }

/-- A failure of a command that is not a mistake in building the menu is written out. -/
def absorb (outcome : Outcome Host) : Outcome Host :=
  match outcome with
  | (.ok signal, shell) => (.ok signal, shell)
  | (.error failure, shell) =>
    if failure.isProgrammingError then (.error failure, shell)
    else (.ok .normal, shell.writeLine failure.message)

/-- The loop asks for its next line: a user error of the input is reported and calls for another
try, any other failure ends the loop. -/
inductive Next where
  | line (line : String)
  | again
  | ended
  | failed (failure : Failure)

def next (shell : Shell Host) : Next × Shell Host :=
  match shell.query shell.prompts.current? with
  | (.ok (some line), shell) => (.line line, shell)
  | (.ok none, shell) => (.ended, shell)
  | (.error failure, shell) =>
    match failure.menuError? with
    | some error =>
      if error.isUserError then (.again, shell.report error) else (.failed failure, shell)
    | none => (.failed failure, shell)

/-- Does what stands at the end of a line's way through the tree: an action's script is run and
its failure absorbed. -/
def follow (runScript : Script Host → Shell Host → Option (Outcome Host))
    (route? : Option Route) (shell : Shell Host) : Option (Outcome Host) :=
  match route? with
  | some (.act id line) =>
    match (shell.tree.node id).action? with
    | some action => (runScript (action line) (shell.note (.acted id line))).map absorb
    | none => none
  | some (.report error) => some (.ok .normal, shell.report error)
  | some (.unbound name) => some (.error (.ofError (.unbound name)), shell)
  | none => none

/-- Carries out a task in at most `bound` steps; `none` if it takes more. -/
def run : Nat → Task Host → Shell Host → Option (Outcome Host)
  | 0, _, _ => none
  | bound + 1, .visit (.menu id), shell =>
    (run bound (.loop id) (shell.enterLoop id)).map fun (result, left) =>
      (result, left.leaveLoop)
  | bound + 1, .loop menu, shell =>
    match shell.next with
    | (.line line, asked) =>
      match run bound (.visit (.dispatch menu (Text.trim line))) asked with
      | some (.ok .normal, after) => run bound (.loop menu) after
      | some (.ok .quit, after) => some (.ok .normal, after)
      | some (.error failure, after) => some (.error failure, after)
      | none => none
    | (.again, asked) => run bound (.loop menu) asked
    | (.ended, asked) => some (.ok .normal, asked)
    | (.failed failure, asked) => some (.error failure, asked)
  | bound + 1, .visit (.execute id line), shell =>
    follow (fun script => run bound (.script script)) (shell.tree.executeRoute? id line) shell
  | bound + 1, .visit (.dispatch menu line), shell =>
    follow (fun script => run bound (.script script)) (shell.tree.dispatchRoute? menu line)
      (shell.note (.dispatched menu line))
  | bound + 1, .script script, shell =>
    match script with
    | .done signal => some (.ok signal, shell)
    | .fail failure => some (.error failure, shell)
    | .consult next => run bound (.script (next shell.host)) shell
    | .remember change next => run bound (.script next) { shell with host := change shell.host }
    | .perform request next =>
      let (answer, served) := shell.serve request
      run bound (.script (next answer)) served
    | .visit stop next =>
      match run bound (.visit stop) shell with
      | some (result, after) => run bound (.script (next result)) after
      | none => none

end Shell

end MenuShell

import MenuShell.Proofs.Shell.Rules

/-!
The points that a task comes to on its way, whether or not it ends. The loops that have been entered
and not left again are kept in mind, the innermost first, each with the prompt that its menu had when
it was entered.
-/

namespace MenuShell

namespace Shell

variable {Host : Type} {shell middle later : Shell Host} {task sub last : Task Host}

structure Opened where
  menu : NodeId
  prompt? : Option String
deriving DecidableEq, Repr

/-- One turn of carrying out a task, with the loop that is entered by it. What a visit or a line of a
loop does is passed over at once if it ends. -/
inductive Turn : Task Host → Shell Host → List Opened → Task Host → Shell Host → Prop
  | menu (id : NodeId) (shell : Shell Host) :
      Turn (.visit (.menu id)) shell [⟨id, (shell.tree.node id).prompt?⟩] (.loop id)
        (shell.enterLoop id)
  | act {shell started : Shell Host} {visit : Visit} {id : NodeId} {line : String}
      {action : Action Host} : Leads shell visit (.act id line) started →
      (shell.tree.node id).action? = some action →
      Turn (.visit visit) shell [] (.script (action line)) (started.note (.acted id line))
  | consult (next : Host → Script Host) (shell : Shell Host) :
      Turn (.script (.consult next)) shell [] (.script (next shell.host)) shell
  | remember (change : Host → Host) (next : Script Host) (shell : Shell Host) :
      Turn (.script (.remember change next)) shell [] (.script next)
        { shell with host := change shell.host }
  | perform {answer : Answer} (request : Request (Action Host) answer)
      (next : Except Failure answer.Value → Script Host) (shell : Shell Host) :
      Turn (.script (.perform request next)) shell [] (.script (next (shell.serve request).1))
        (shell.serve request).2
  | visit (stop : Visit) (next : Except Failure Signal → Script Host) (shell : Shell Host) :
      Turn (.script (.visit stop next)) shell [] (.visit stop) shell
  | visited {shell after : Shell Host} {stop : Visit} {result : Except Failure Signal}
      {next : Except Failure Signal → Script Host} : Ends (.visit stop) shell (result, after) →
      Turn (.script (.visit stop next)) shell [] (.script (next result)) after
  | again {shell asked : Shell Host} {menu : NodeId} : shell.next = (.again, asked) →
      Turn (.loop menu) shell [] (.loop menu) asked
  | line {shell asked : Shell Host} {menu : NodeId} {line : String} :
      shell.next = (.line line, asked) →
      Turn (.loop menu) shell [] (.visit (.dispatch menu (Text.trim line))) asked
  | later {shell asked after : Shell Host} {menu : NodeId} {line : String} :
      shell.next = (.line line, asked) →
      Ends (.visit (.dispatch menu (Text.trim line))) asked (.ok .normal, after) →
      Turn (.loop menu) shell [] (.loop menu) after

inductive Comes (task : Task Host) (shell : Shell Host) :
    List Opened → Task Host → Shell Host → Prop
  | here : Comes task shell [] task shell
  | turn {loops opened : List Opened} {sub next : Task Host} {reached later : Shell Host} :
      Comes task shell loops sub reached → Turn sub reached opened next later →
      Comes task shell (opened ++ loops) next later

theorem Comes.trans {inner outer : List Opened} (first : Comes task shell outer sub middle)
    (second : Comes sub middle inner last later) :
    Comes task shell (inner ++ outer) last later := by
  induction second with
  | here => exact first
  | turn _ turn ih =>
      rw [List.append_assoc]
      exact ih.turn turn

theorem Turn.comes {opened : List Opened} (turn : Turn task shell opened sub middle) :
    Comes task shell opened sub middle := by
  have reached := Comes.here.turn turn
  rwa [List.append_nil] at reached

theorem Turn.then {opened inner : List Opened} (turn : Turn task shell opened sub middle)
    (points : Comes sub middle inner last later) :
    Comes task shell (inner ++ opened) last later :=
  turn.comes.trans points

end Shell

end MenuShell

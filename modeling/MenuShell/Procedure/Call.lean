import MenuShell.Procedure.Basic

/-!
A running procedure. Requests to return or to jump are kept until the next line is asked for: a
return ends the call, and otherwise a jump goes to a label or, if the label is unknown, ends the
call with an error.
-/

namespace MenuShell

structure Call where
  name : String
  procedure : Procedure
  position : Nat := 0
  returning : Bool := false
  jump? : Option String := none
  ended : Bool := false
deriving DecidableEq, Repr

namespace Call

def requestReturn (call : Call) : Call :=
  { call with returning := true }

def requestJump (call : Call) (label : String) : Call :=
  { call with jump? := some label }

def settle (call : Call) : Except MenuError Unit × Call :=
  if call.ended then (.ok (), call)
  else if call.returning then (.ok (), { call with returning := false, ended := true })
  else match call.jump? with
    | none => (.ok (), call)
    | some label =>
      match call.procedure.label? label with
      | some index => (.ok (), { call with jump? := none, position := index })
      | none => (.error (.labelNotFound label), { call with jump? := none, ended := true })

/-- The lines still to come if nothing more is requested. -/
def remaining (call : Call) : List String :=
  if call.ended then [] else call.procedure.lines.drop call.position

def skip (call : Call) (count : Nat) : Call :=
  { call with position := call.position + count }

def next (call : Call) : Except MenuError (Option String) × Call :=
  match call.settle with
  | (.error error, settled) => (.error error, settled)
  | (.ok (), settled) =>
    match settled.remaining with
    | line :: _ => (.ok (some line), settled.skip 1)
    | [] => (.ok none, { settled with ended := true })

end Call

end MenuShell

import MenuShell.Procedure.Call
import MenuShell.Sorting

/-!
The procedures known by name. A procedure is never overwritten, and a running call keeps its own
copy.
-/

namespace MenuShell

structure ProcedureStore where
  marker : Char := ':'
  procedures : List (String × Procedure) := []
deriving DecidableEq, Repr

namespace ProcedureStore

def get? (store : ProcedureStore) (name : String) : Option Procedure :=
  store.procedures.lookup name

def record (store : ProcedureStore) (name : String) (lines : List String) :
    Except MenuError ProcedureStore :=
  if name.isEmpty then .error (.invalidArgument "procedure name must not be empty")
  else if (store.get? name).isSome then .error (.duplicateProcedure name)
  else
    let procedure := Procedure.parse store.marker lines
    .ok { store with procedures := (name, procedure) :: store.procedures }

def erase (store : ProcedureStore) (name : String) : ProcedureStore :=
  { store with procedures := store.procedures.filter fun entry => entry.1 ≠ name }

def call (store : ProcedureStore) (name : String) : Except MenuError Call :=
  match store.get? name with
  | some procedure => .ok { name, procedure }
  | none => .error (.procedureNotFound name)

def names (store : ProcedureStore) : List String :=
  sortTexts (store.procedures.map Prod.fst)

end ProcedureStore

end MenuShell

/-!
What can go wrong. A `MenuError` is either the user's, and is reported, or the programmer's, and
ends the run. A `Failure` is a menu error or any other complaint, with what was being done when it
arose.
-/

namespace MenuShell

inductive MenuError where
  | unknown (token : String) (suggestions : List String)
  | ambiguous (token : String) (candidates : List String)
  | unbound (name : String)
  | procedureNotFound (name : String)
  | labelNotFound (label : String)
  | duplicateProcedure (name : String)
  | noActiveCall (command : String)
  | unknownCondition (name : String)
  | recordNotFound (name : String)
  | duplicateSelector (selector : String)
  | alreadyAttached (name : String)
  | invalidArgument (reason : String)
deriving DecidableEq, Repr

namespace MenuError

def alternatives : List String → String
  | [] => ""
  | [last] => "\"" ++ last ++ "\""
  | [next, last] => "\"" ++ next ++ "\" or \"" ++ last ++ "\""
  | next :: others => "\"" ++ next ++ "\", " ++ alternatives others

def suggestionLine (suggestions : List String) : String :=
  if suggestions.isEmpty then "" else "\nDid you mean " ++ alternatives suggestions ++ "?"

def message : MenuError → String
  | unknown token suggestions => "Unknown command: " ++ token ++ suggestionLine suggestions
  | ambiguous token candidates =>
    "Command <" ++ token ++ "> not unique. Candidates: " ++ ", ".intercalate candidates
  | unbound name => "command <" ++ name ++ "> has no associated behavior"
  | procedureNotFound name => "Unknown procedure: " ++ name
  | labelNotFound label => "Unknown label: " ++ label
  | duplicateProcedure name => "Procedure \"" ++ name ++ "\" is already defined."
  | noActiveCall command => command ++ " is only valid inside a procedure call"
  | unknownCondition name => "Unknown condition: " ++ name
  | recordNotFound name => "Unknown record: " ++ name
  | duplicateSelector selector => "duplicate selector <" ++ selector ++ ">"
  | alreadyAttached name => "node <" ++ name ++ "> is already attached"
  | invalidArgument reason => "invalid argument: " ++ reason

/-- Errors caused by input; the others are mistakes in building the menu. -/
def isUserError : MenuError → Bool
  | unbound _ | duplicateSelector _ | alreadyAttached _ | invalidArgument _ => false
  | _ => true

end MenuError

inductive Cause where
  | menu (error : MenuError)
  | other (message : String)
deriving DecidableEq, Repr

def Cause.message : Cause → String
  | menu error => error.message
  | other message => message

/-- A cause, and the circumstances added on the way out, the outermost first. -/
structure Failure where
  cause : Cause
  circumstances : List String := []
deriving DecidableEq, Repr

namespace Failure

def ofError (error : MenuError) : Failure :=
  { cause := .menu error }

def ofMessage (message : String) : Failure :=
  { cause := .other message }

def during (circumstance : String) (failure : Failure) : Failure :=
  { failure with circumstances := circumstance :: failure.circumstances }

def message (failure : Failure) : String :=
  ": ".intercalate (failure.circumstances ++ [failure.cause.message])

def menuError? (failure : Failure) : Option MenuError :=
  match failure.cause with
  | .menu error => some error
  | .other _ => none

def isProgrammingError (failure : Failure) : Bool :=
  match failure.cause with
  | .menu error => !error.isUserError
  | .other _ => false

end Failure

end MenuShell

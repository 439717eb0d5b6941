import MenuShell.Input.Source
import MenuShell.Procedure.Call
import MenuShell.Text.Quoted
import MenuShell.Text.Words

/-!
The stack of pushed input. The frame pushed last is read first; below all frames lies the external
source. A frame that has run out stays on the stack until the next line is asked for, and blank
lines are passed over wherever they stand.
-/

namespace MenuShell

/-- An endless frame gives its line again and again; a blank line would never be given, so an
endless frame of it counts as run out. -/
inductive Frame where
  | lines (unread : List String)
  | endless (line : String)
  | call (call : Call)
deriving DecidableEq, Repr

inductive Draw where
  | line (line : String) (rest : Frame)
  | exhausted
  | failed (error : MenuError)
deriving DecidableEq, Repr

namespace Frame

def leadingBlanks (lines : List String) : Nat :=
  (lines.takeWhile Text.isBlank).length

def drawLines (unread : List String) : Draw :=
  match unread.dropWhile Text.isBlank with
  | line :: rest => .line line (.lines rest)
  | [] => .exhausted

def drawCall (running : Call) : Draw :=
  match running.settle with
  | (.error error, _) => .failed error
  | (.ok (), settled) =>
    match settled.remaining.dropWhile Text.isBlank with
    | line :: _ => .line line (.call (settled.skip (leadingBlanks settled.remaining + 1)))
    | [] => .exhausted

def draw : Frame → Draw
  | .lines unread => drawLines unread
  | .endless line => if Text.isBlank line then .exhausted else .line line (.endless line)
  | .call running => drawCall running

def inspect : Frame → String
  | .call running => "Call(" ++ Text.quoted running.name ++ ")"
  | _ => "Lines(..)"

end Frame

structure InputStack where
  frames : List Frame := []
  source : Source := default

structure Answered where
  result : Except Failure (Option String)
  readings : List Reading
  rest : InputStack

namespace InputStack

def depth (input : InputStack) : Nat :=
  input.frames.length

def push (input : InputStack) (frame : Frame) : InputStack :=
  { input with frames := frame :: input.frames }

def pushLines (input : InputStack) (lines : List String) : InputStack :=
  input.push (.lines lines)

def pushLine (input : InputStack) (line : String) : InputStack :=
  input.pushLines [line]

def pushCall (input : InputStack) (call : Call) : InputStack :=
  input.push (.call call)

def onInnermostCall? (change : Call → Call) : List Frame → Option (List Frame)
  | [] => none
  | .call running :: below => some (.call (change running) :: below)
  | frame :: below => (onInnermostCall? change below).map (frame :: ·)

def requestOfCall (input : InputStack) (command : String) (change : Call → Call) :
    Except MenuError InputStack :=
  match onInnermostCall? change input.frames with
  | some frames => .ok { input with frames }
  | none => .error (.noActiveCall command)

def requestReturn (input : InputStack) : Except MenuError InputStack :=
  input.requestOfCall "return" Call.requestReturn

def requestJump (input : InputStack) (label : String) : Except MenuError InputStack :=
  input.requestOfCall "goto" fun running => running.requestJump label

def readExternal (input : InputStack) (prompt? : Option String) : Answered :=
  let (result, source) := input.source.read
  { result, readings := [{ prompt?, result }], rest := { input with source } }

def isBlankLine : Except Failure (Option String) → Bool
  | .ok (some line) => Text.isBlank line
  | _ => false

def readOrPass (prompt? : Option String) (source : Source) (further : Source → Answered) :
    Answered :=
  let answered := readExternal { source } prompt?
  if isBlankLine answered.result then
    let later := further answered.rest.source
    { later with readings := answered.readings ++ later.readings }
  else answered

def readPastBlanks (prompt? : Option String) : Nat → Source → Answered
  | 0, source => readExternal { source } prompt?
  | bound + 1, source => readOrPass prompt? source (readPastBlanks prompt? bound)

/-- Takes the next line that is not blank from the frames, or from the source once they are gone.
A call that fails is gone before its error is reported, so the caller may ask again. -/
def drawFrom (prompt? : Option String) (source : Source) : List Frame → Answered
  | [] => readOrPass prompt? source fun later => readPastBlanks prompt? later.bound later
  | frame :: below =>
    match frame.draw with
    | .line line rest =>
      { result := .ok (some line), readings := [], rest := { frames := rest :: below, source } }
    | .exhausted => drawFrom prompt? source below
    | .failed error =>
      { result := .error (.ofError error), readings := [], rest := { frames := below, source } }

def query (input : InputStack) (prompt? : Option String) : Answered :=
  drawFrom prompt? input.source input.frames

end InputStack

end MenuShell

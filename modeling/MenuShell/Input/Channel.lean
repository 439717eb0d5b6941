import MenuShell.Failure

/-!
A channel of frames: senders queue whole frames of lines, and a reader takes them line by line.
The input ends once every sender is gone and everything sent has been read.
-/

namespace MenuShell

structure Channel where
  pending : List String := []
  queue : List (List String) := []
  senders : Nat := 1
  listening : Bool := true
deriving DecidableEq, Repr

inductive Receipt where
  | line (line : String)
  | ended
  | waiting
deriving DecidableEq, Repr

namespace Channel

def clone (channel : Channel) : Channel :=
  { channel with senders := channel.senders + 1 }

def dropSender (channel : Channel) : Channel :=
  { channel with senders := channel.senders - 1 }

def dropReader (channel : Channel) : Channel :=
  { channel with listening := false }

def send (channel : Channel) (frame : List String) : Except Failure Channel :=
  if channel.listening then .ok { channel with queue := channel.queue ++ [frame] }
  else .error (.ofMessage "input source has been dropped")

def unread (channel : Channel) : List String :=
  channel.pending ++ channel.queue.flatten

def firstLine? : List (List String) → Option (String × List String × List (List String))
  | [] => none
  | [] :: later => firstLine? later
  | (line :: rest) :: later => some (line, rest, later)

def read (channel : Channel) : Receipt × Channel :=
  match firstLine? (channel.pending :: channel.queue) with
  | some (line, pending, queue) => (.line line, { channel with pending, queue })
  | none =>
    let emptied := { channel with pending := [], queue := [] }
    (if channel.senders = 0 then .ended else .waiting, emptied)

end Channel

end MenuShell

import MenuShell.Text.Lines

/-!
Control sequences of terminals. An escape character begins one, and its shape tells where it ends.
What is left of a text without them, and without control characters other than white space, is
safe to show.
-/

namespace MenuShell

namespace ControlSequence

inductive Stage where
  | text
  | escape
  | designation
  | control
  | command
  | device
  | deviceParameter
  | deviceIntermediate
  | string
deriving DecidableEq, Repr

def isBlankControl (char : Char) : Bool :=
  char = '\t' || char = '\n' || char = '\x0c' || char = '\r'

def isVisible (char : Char) : Bool :=
  if char < ' ' then isBlankControl char else char ≠ '\x7f'

def within (first last char : Char) : Bool :=
  first ≤ char && char ≤ last

def afterEscape (char : Char) : Stage :=
  if char = '[' then .control
  else if char = ']' then .command
  else if char = 'P' then .device
  else if char = 'X' || char = '^' || char = '_' then .string
  else if within ' ' '/' char then .designation
  else if within '0' '~' char then .text
  else .escape

/-- A string may also be ended by a single byte, which counts even inside of a character. -/
def endsString (char : Char) : Bool :=
  (Text.encode (String.singleton char)).contains 0x9C

def next (stage : Stage) (char : Char) : Stage :=
  if char = '\x1b' then .escape
  else if char = '\x18' || char = '\x1a' then .text
  else match stage with
    | .text => .text
    | .escape => afterEscape char
    | .designation => if within '0' '~' char then .text else .designation
    | .control => if within '@' '~' char then .text else .control
    | .command => if char = '\x07' then .text else .command
    | .device =>
      if within ' ' '/' char then .deviceIntermediate
      else if within '0' '?' char then .deviceParameter
      else if within '@' '~' char then .string
      else .device
    | .deviceParameter =>
      if within ' ' '/' char then .deviceIntermediate
      else if within '<' '~' char then .string
      else .deviceParameter
    | .deviceIntermediate => if within '0' '~' char then .string else .deviceIntermediate
    | .string => if endsString char then .text else .string

/-- Short sequences let white space through, those with a body of text nothing. -/
def letsThrough (stage : Stage) (char : Char) : Bool :=
  match stage with
  | .text => isVisible char
  | .escape | .designation | .control => isBlankControl char
  | _ => false

/-- Takes the sequences out of a text. White space in a sequence interrupts it: from there on all
is shown that is visible, and at the next control character the sequence goes on, unless a
character beyond the basic ones has ended it. -/
def strip (shown : Bool) (stage : Stage) : List Char → List Char
  | [] => []
  | char :: rest =>
    if shown && isVisible char then
      char :: strip true (if char ≤ '\x7f' then stage else .text) rest
    else if letsThrough stage char then char :: strip true (next stage char) rest
    else strip false (next stage char) rest

end ControlSequence

def Text.withoutControls (text : String) : String :=
  String.ofList (ControlSequence.strip false .text text.toList)

end MenuShell

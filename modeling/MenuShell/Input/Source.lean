import MenuShell.Failure
import MenuShell.Input.ByteStream
import MenuShell.Text.Erasing

/-!
The external source of lines. It gives what was put down for it, reading by reading, or the lines
of a byte stream; one that is broken fails on every reading.
-/

namespace MenuShell

inductive Source where
  | listed (readings : List (Except Failure String))
  | bytes (stream : ByteStream)
  | broken (failure : Failure)

instance : Inhabited Source := ⟨.listed []⟩

structure Reading where
  prompt? : Option String
  result : Except Failure (Option String)

namespace Source

def unreadable : String := "stream did not contain valid UTF-8"

def readingContext : String := "failed to read input line"

def terminalContext : String := "failed to read from terminal"

def decodeLine (context : String) (strip : String → String) (line : List UInt8) :
    Except Failure String :=
  match Text.decode? line with
  | some text => .ok (strip text)
  | none => .error ((Failure.ofMessage unreadable).during context)

def read : Source → Except Failure (Option String) × Source
  | .listed [] => (.ok none, .listed [])
  | .listed (reading :: later) => (reading.map some, .listed later)
  | .bytes stream =>
    match stream.read? with
    | some (line, later) =>
      ((decodeLine readingContext Text.stripLineEnds line).map some, .bytes later)
    | none => (.ok none, .bytes stream)
  | .broken failure => (.error failure, .broken failure)

/-- A number of readings after which the source has no line left. -/
def bound : Source → Nat
  | .listed readings => readings.length
  | .bytes stream => stream.unread.length
  | .broken _ => 0

theorem bound_of_read_line {source later : Source} {line : String}
    (found : source.read = (.ok (some line), later)) : later.bound < source.bound := by
  unfold read at found
  split at found
  · simp at found
  · simp only [Prod.mk.injEq] at found
    obtain ⟨-, rfl⟩ := found
    simp [bound]
  · split at found
    · rename_i taken
      simp only [Prod.mk.injEq] at found
      obtain ⟨-, rfl⟩ := found
      exact ByteStream.length_unread_of_read? taken
    · simp at found
  · simp at found

def refresh (source : Source) (files : FileSystem) : Source :=
  match source with
  | .bytes stream => .bytes (stream.refresh files)
  | other => other

def ofBytes (bytes : List UInt8) : Source :=
  .bytes (.ofBytes bytes)

def typedLine (line : String) : String :=
  Text.erase (Text.stripNewline line)

def ofTerminal (bytes : List UInt8) : Source :=
  .listed ((Text.rawLines bytes).map (decodeLine terminalContext typedLine))

def ofLines (lines : List String) : Source :=
  ofBytes (Text.encode ("\n".intercalate lines ++ "\n"))

end Source

end MenuShell

import MenuShell.Text.Cluster

/-!
Backspaces in a typed line. A backspace that is a cluster of its own takes back the cluster typed
before it, if there is one, and is itself not kept. How many bytes a cluster takes is remembered in
a single byte, so of a cluster of 256 bytes or more only the bytes beyond a multiple of 256 are
taken back.
-/

namespace MenuShell

/-- A line while it is typed: its characters, the last one first, and the sizes of its clusters,
the last one's first. -/
structure TypedLine where
  text : List Char := []
  sizes : List Nat := []
deriving DecidableEq, Repr

namespace TypedLine

def backspace : Char := '\x08'

def sizeLimit : Nat := 256

def size (cluster : List Char) : Nat :=
  (String.ofList cluster).utf8ByteSize % sizeLimit

def dropBytes : Nat → List Char → List Char
  | _, [] => []
  | count, char :: rest =>
    if count = 0 then char :: rest else dropBytes (count - char.utf8Size) rest

def type (line : TypedLine) (cluster : List Char) : TypedLine :=
  if cluster = [backspace] then
    match line.sizes with
    | size :: sizes => { text := dropBytes size line.text, sizes }
    | [] => line
  else { text := cluster.reverse ++ line.text, sizes := size cluster :: line.sizes }

end TypedLine

def Text.erase (line : String) : String :=
  String.ofList (((Chars.clusters line.toList).foldl TypedLine.type {}).text.reverse)

end MenuShell

import MenuShell.FileSystem
import MenuShell.Text.Lines

/-!
A stream of bytes that is read line by line. The bytes of a file are fetched in whole blocks and
only when they are needed: what has been fetched stays as it was, and what lies behind it is as
the file stands when it is fetched. A stream that has come to its end goes on if its file grows.
-/

namespace MenuShell

structure ByteStream where
  fetched : List UInt8 := []
  ahead : List UInt8 := []
  /-- The number of bytes that have been fetched so far. -/
  position : Nat := 0
  file? : Option Place := none
deriving DecidableEq, Repr

namespace ByteStream

def blockSize : Nat := 8192

def ofBytes (bytes : List UInt8) : ByteStream :=
  { ahead := bytes }

def ofFile (place : Place) (bytes : List UInt8) : ByteStream :=
  { ahead := bytes, file? := some place }

def unread (stream : ByteStream) : List UInt8 :=
  stream.fetched ++ stream.ahead

def wholeBlocks (count : Nat) : Nat :=
  (count + blockSize - 1) / blockSize * blockSize

def advance (stream : ByteStream) (count : Nat) : ByteStream :=
  if count ≤ stream.fetched.length then { stream with fetched := stream.fetched.drop count }
  else
    let missing := count - stream.fetched.length
    let blocks := stream.ahead.take (wholeBlocks missing)
    { stream with
      fetched := blocks.drop missing
      ahead := stream.ahead.drop (wholeBlocks missing)
      position := stream.position + blocks.length }

def read? (stream : ByteStream) : Option (List UInt8 × ByteStream) :=
  match Text.firstLine stream.unread with
  | [] => none
  | line => some (line, stream.advance line.length)

def refresh (stream : ByteStream) (files : FileSystem) : ByteStream :=
  match stream.file?.bind files.entry? with
  | some (.file bytes) => { stream with ahead := bytes.drop stream.position }
  | _ => stream

theorem le_wholeBlocks (count : Nat) : count ≤ wholeBlocks count := by
  have rest := Nat.mod_lt (count + blockSize - 1) (show 0 < blockSize by decide)
  have whole := Nat.div_add_mod (count + blockSize - 1) blockSize
  rw [wholeBlocks, Nat.mul_comm]
  omega

theorem unread_advance (stream : ByteStream) (count : Nat) :
    (stream.advance count).unread = stream.unread.drop count := by
  unfold advance unread
  split
  · rename_i short
    rw [List.drop_append_of_le_length short]
  · rename_i long
    have enough := le_wholeBlocks (count - stream.fetched.length)
    rw [List.drop_append, List.drop_eq_nil_of_le (by omega), List.nil_append]
    rcases Nat.le_total (wholeBlocks (count - stream.fetched.length)) stream.ahead.length with
      within | beyond
    · conv => rhs; rw [← List.take_append_drop (wholeBlocks (count - stream.fetched.length))
        stream.ahead]
      rw [List.drop_append_of_le_length (by rw [List.length_take]; omega)]
    · simp only [List.take_of_length_le beyond, List.drop_eq_nil_of_le beyond, List.append_nil]

theorem length_unread_of_read? {stream later : ByteStream} {line : List UInt8}
    (found : stream.read? = some (line, later)) :
    later.unread.length < stream.unread.length := by
  unfold read? at found
  split at found
  · simp at found
  · rename_i first nonempty
    simp only [Option.some.injEq, Prod.mk.injEq] at found
    obtain ⟨rfl, rfl⟩ := found
    have present : stream.unread ≠ [] := by
      intro empty
      rw [empty] at nonempty
      exact nonempty rfl
    have full := List.length_pos_iff.2 present
    have taken := List.length_pos_iff.2 nonempty
    rw [unread_advance, List.length_drop]
    omega

end ByteStream

end MenuShell

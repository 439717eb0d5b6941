import Mathlib.Data.List.Forall2
import MenuShell.Proofs.Input.Legible
import MenuShell.Proofs.Text.Encoding

/-!
Reading a byte stream from its first to its last line. Each reading takes one piece of the stream and
gives its text or fails on it, and once nothing is left every further reading says so.
-/

namespace MenuShell

namespace Text

/-- The pieces of bytes cut behind every newline. A last piece without one is not empty. -/
inductive Cut : List UInt8 → List (List UInt8) → Prop
  | empty : Cut [] []
  | last {piece : List UInt8} : piece ≠ [] → newlineByte ∉ piece → Cut piece [piece]
  | line {front back : List UInt8} {pieces : List (List UInt8)} :
      newlineByte ∉ front → Cut back pieces →
      Cut (front ++ newlineByte :: back) ((front ++ [newlineByte]) :: pieces)

theorem pieces_solid {piece : List UInt8} (present : piece ≠ []) (solid : newlineByte ∉ piece) :
    pieces newlineByte piece = [piece] := by
  have whole := pieces_append solid [] present
  rwa [List.append_nil] at whole

theorem Cut.eq_rawLines {bytes : List UInt8} {pieces : List (List UInt8)}
    (cut : Cut bytes pieces) : pieces = rawLines bytes := by
  induction cut with
  | empty => rfl
  | last present solid => exact (pieces_solid present solid).symm
  | line solid _ ih => rw [ih, rawLines, rawLines, pieces_separator solid]

theorem firstLine_solid {piece : List UInt8} (solid : newlineByte ∉ piece) :
    firstLine piece = piece := by
  have whole := firstLine_append solid []
  have nothing : firstLine [] = [] := rfl
  rwa [nothing, List.append_nil] at whole

theorem firstLine_line {front : List UInt8} (solid : newlineByte ∉ front) (back : List UInt8) :
    firstLine (front ++ newlineByte :: back) = front ++ [newlineByte] := by
  have ended : firstLine (newlineByte :: back) = [newlineByte] := rfl
  rw [firstLine_append solid, ended]

theorem exists_cut (bytes : List UInt8) : ∃ pieces, Cut bytes pieces := by
  induction bytes with
  | nil => exact ⟨[], .empty⟩
  | cons byte bytes ih =>
      obtain ⟨pieces, cut⟩ := ih
      by_cases newline : byte = newlineByte
      · exact ⟨[newlineByte] :: pieces, newline ▸ @Cut.line [] _ _ (by simp) cut⟩
      · have longer {front : List UInt8} (solid : newlineByte ∉ front) :
            newlineByte ∉ byte :: front := by
          simp [solid, Ne.symm newline]
        cases cut with
        | empty => exact ⟨[[byte]], .last (by simp) (longer (by simp))⟩
        | last _ solid => exact ⟨[byte :: bytes], .last (by simp) (longer solid)⟩
        | line solid others => exact ⟨_, .line (longer solid) others⟩

theorem Cut.uncons {bytes piece : List UInt8} {pieces : List (List UInt8)}
    (cut : Cut bytes (piece :: pieces)) :
    firstLine bytes = piece ∧ piece ≠ [] ∧ Cut (bytes.drop piece.length) pieces := by
  cases cut with
  | last present solid =>
      refine ⟨firstLine_solid solid, present, ?_⟩
      rw [List.drop_length]
      exact .empty
  | @line front back _ solid others =>
      refine ⟨firstLine_line solid back, by simp, ?_⟩
      rwa [List.append_cons front newlineByte back, List.drop_left]

structure Ended (line ends : String) : Prop where
  ends : ∀ char ∈ ends.toList, char = '\n' ∨ char = '\r'
  stops : ∀ char ∈ line.toList.getLast?, char ≠ '\n' ∧ char ≠ '\r'

theorem isLineEnd_iff {char : Char} : isLineEnd char = true ↔ char = '\n' ∨ char = '\r' := by
  simp [isLineEnd]

theorem toList_stripLineEnds (line : String) :
    (stripLineEnds line).toList = line.toList.rdropWhile isLineEnd := by
  rw [stripLineEnds, String.toList_ofList, List.rdropWhile]

theorem Ended.stripLineEnds_eq {line ends : String} (ended : Ended line ends) :
    stripLineEnds (line ++ ends) = line := by
  have passes : ∀ char ∈ ends.toList.reverse, isLineEnd char = true := fun char member =>
    isLineEnd_iff.mpr (ended.ends char (List.mem_reverse.mp member))
  have stays : line.toList.rdropWhile isLineEnd = line.toList := by
    rw [List.rdropWhile_eq_self_iff]
    intro present ending
    have last : line.toList.getLast present ∈ line.toList.getLast? := List.getLast_mem_getLast? present
    have other := ended.stops _ last
    rcases isLineEnd_iff.mp ending with newline | returned
    · exact other.1 newline
    · exact other.2 returned
  apply String.toList_inj.mp
  rw [toList_stripLineEnds, String.toList_append, List.rdropWhile, List.reverse_append,
    List.dropWhile_append_of_pos passes]
  exact stays

theorem exists_ended (text : String) :
    ∃ ends, text = stripLineEnds text ++ ends ∧ Ended (stripLineEnds text) ends := by
  refine ⟨String.ofList (text.toList.rtakeWhile isLineEnd), ?_, ?_, ?_⟩
  · apply String.toList_inj.mp
    rw [String.toList_append, toList_stripLineEnds, String.toList_ofList,
      List.rdropWhile_append_rtakeWhile]
  · rw [String.toList_ofList]
    exact fun char member => isLineEnd_iff.mp (List.mem_rtakeWhile_imp member)
  · rw [toList_stripLineEnds]
    intro char last
    obtain ⟨present, rfl⟩ := List.mem_getLast?_eq_getLast last
    have other := List.rdropWhile_last_not isLineEnd text.toList present
    rw [isLineEnd_iff, not_or] at other
    exact other

theorem eq_encode_of_decode? {bytes : List UInt8} {text : String}
    (decoded : decode? bytes = some text) : bytes = encode text := by
  unfold decode? String.fromUTF8? at decoded
  split at decoded
  · cases decoded
    rfl
  · contradiction

end Text

namespace Source

inductive Yields : List UInt8 → Except Failure (Option String) → Prop
  | text {line ends : String} : Text.Ended line ends →
      Yields (Text.encode (line ++ ends)) (.ok (some line))
  | garbled {piece : List UInt8} : ¬ Text.IsText piece → Yields piece (.error undecodable)

def fromPiece (piece : List UInt8) : Except Failure (Option String) :=
  (decodeLine readingContext Text.stripLineEnds piece).map some

def reading : Source → Nat → Except Failure (Option String)
  | source, 0 => source.read.1
  | source, index + 1 => source.read.2.reading index

theorem yields_iff {piece : List UInt8} {result : Except Failure (Option String)} :
    Yields piece result ↔ result = fromPiece piece := by
  unfold fromPiece
  constructor
  · rintro (ended | garbled)
    · rw [decodeLine, Text.decode?_encode]
      exact congrArg (Except.ok ∘ some) ended.stripLineEnds_eq.symm
    · have none : Text.decode? piece = none := Option.not_isSome_iff_eq_none.mp garbled
      rw [decodeLine, none]
      rfl
  · rintro rfl
    cases decoded : Text.decode? piece with
    | none =>
        have garbled : ¬ Text.IsText piece := by simp [Text.IsText, decoded]
        rw [decodeLine, decoded]
        exact .garbled garbled
    | some text =>
        obtain ⟨ends, whole, ended⟩ := Text.exists_ended text
        rw [decodeLine, decoded, Text.eq_encode_of_decode? decoded]
        nth_rewrite 1 [whole]
        exact .text ended

theorem rightUnique_yields : Relator.RightUnique Yields := fun _ _ _ one other =>
  (yields_iff.mp one).trans (yields_iff.mp other).symm

theorem read_of_cut {stream : ByteStream} {piece : List UInt8} {pieces : List (List UInt8)}
    (cut : Text.Cut stream.unread (piece :: pieces)) :
    (Source.bytes stream).read =
      (fromPiece piece, .bytes (stream.advance piece.length)) ∧
      Text.Cut (stream.advance piece.length).unread pieces := by
  obtain ⟨first, present, others⟩ := cut.uncons
  have taken : stream.read? = some (piece, stream.advance piece.length) := by
    rw [ByteStream.read?, first]
    cases piece with
    | nil => exact absurd rfl present
    | cons byte piece => rfl
  rw [ByteStream.unread_advance]
  refine ⟨?_, others⟩
  rw [read, taken]
  rfl

theorem read_of_cut_nil {stream : ByteStream} (cut : Text.Cut stream.unread []) :
    (Source.bytes stream).read = (.ok none, .bytes stream) := by
  have nothing : stream.unread = [] := by
    generalize stream.unread = bytes at cut
    cases cut
    rfl
  have empty : Text.firstLine [] = [] := rfl
  rw [read, ByteStream.read?, nothing, empty]

theorem reading_of_cut {pieces : List (List UInt8)} {stream : ByteStream}
    (cut : Text.Cut stream.unread pieces) (index : Nat) :
    (Source.bytes stream).reading index = (pieces.map fromPiece)[index]?.getD (.ok none) := by
  induction index generalizing pieces stream with
  | zero =>
      cases pieces with
      | nil => rw [reading, read_of_cut_nil cut]; rfl
      | cons piece pieces => rw [reading, (read_of_cut cut).1]; rfl
  | succ index ih =>
      cases pieces with
      | nil => rw [reading, read_of_cut_nil cut]; exact ih cut
      | cons piece pieces =>
          obtain ⟨step, others⟩ := read_of_cut cut
          rw [reading, step, ih others]
          rfl

end Source

/-! ### Lines written down and read back -/

namespace Text

theorem encode_append (first second : String) :
    encode (first ++ second) = encode first ++ encode second := by
  simp [encode]

theorem encode_newline : encode "\n" = [newlineByte] := by
  decide

theorem encode_eq_flatMap (text : String) :
    encode text = text.toList.flatMap String.utf8EncodeChar := by
  simp [encode, ← String.utf8Encode_toList, List.utf8Encode]

theorem encode_injective {first second : String} (same : encode first = encode second) :
    first = second := by
  have decoded := decode?_encode first
  rw [same, decode?_encode] at decoded
  exact (Option.some.inj decoded).symm

theorem newlineByte_not_mem_encode {line : String} (solid : '\n' ∉ line.toList) :
    newlineByte ∉ encode line := by
  rw [encode_eq_flatMap, List.mem_flatMap]
  rintro ⟨char, member, byte⟩
  rcases utf8EncodeChar_cases char with newline | other
  · have same : encode (String.singleton char) = encode "\n" := by
      rw [encode_newline, ← newline, encode_eq_flatMap]
      simp
    have equal : char = '\n' := by
      simpa using congrArg String.toList (encode_injective same)
    exact solid (equal ▸ member)
  · exact other byte

theorem cut_intercalate {lines : List String} (some : lines ≠ [])
    (solid : ∀ line ∈ lines, '\n' ∉ line.toList) :
    Cut (encode ("\n".intercalate lines ++ "\n")) (lines.map fun line => encode (line ++ "\n")) := by
  induction lines with
  | nil => exact absurd rfl some
  | cons line others ih =>
      have whole := newlineByte_not_mem_encode (solid line List.mem_cons_self)
      cases others with
      | nil =>
          rw [String.intercalate_singleton, List.map_singleton, encode_append, encode_newline]
          exact .line whole .empty
      | cons next others =>
          have behind := ih (by simp) fun line member => solid line (List.mem_cons_of_mem _ member)
          rw [String.intercalate_cons_cons, String.append_assoc, String.append_assoc,
            encode_append, encode_append, encode_newline, List.map_cons, encode_append, encode_newline]
          exact .line whole behind

theorem IsLine.ended {line : String} (isLine : IsLine line) : Ended line "\n" where
  ends := by simp
  stops := by
    intro char last
    refine ⟨?_, ?_⟩
    · rintro rfl
      exact isLine.solid (List.mem_of_getLast? last)
    · rintro rfl
      exact isLine.ending last

end Text

namespace Source

/-- A byte string is read piece by piece: each reading gives the text of one piece, without all
newlines and carriage returns behind it, or fails on a piece that is no text, and the next one goes on
behind it; after the last piece there is nothing for ever. Lines put down without newlines inside and
carriage returns at their ends are read as they are. -/
theorem reading_gives_every_line (stream : ByteStream) :
    (∃ pieces results, Text.Cut stream.unread pieces ∧
      (∀ others, Text.Cut stream.unread others → others = pieces) ∧
      List.Forall₂ Yields pieces results ∧
      ∀ index, (Source.bytes stream).reading index = results[index]?.getD (.ok none)) ∧
    ∀ lines : List String, lines ≠ [] → (∀ line ∈ lines, Text.IsLine line) →
      ∀ index, (ofLines lines).reading index = .ok lines[index]? := by
  refine ⟨?_, ?_⟩
  · obtain ⟨pieces, cut⟩ := Text.exists_cut stream.unread
    refine ⟨pieces, _, cut, ?_, ?_, reading_of_cut cut⟩
    · intro others again
      exact again.eq_rawLines.trans cut.eq_rawLines.symm
    · exact List.forall₂_map_right_iff.mpr (List.forall₂_same.mpr fun piece _ => yields_iff.mpr rfl)
  · intro lines some whole index
    have cut := Text.cut_intercalate some fun line member => (whole line member).solid
    have given : ∀ line ∈ lines, fromPiece (Text.encode (line ++ "\n")) = .ok (Option.some line) :=
      fun line member => (yields_iff.mp (.text (whole line member).ended)).symm
    have found : (lines.map fun line => fromPiece (Text.encode (line ++ "\n")))[index]?.getD
        (.ok none) = .ok lines[index]? := by
      rw [List.map_congr_left given, List.getElem?_map]
      cases lines[index]? <;> rfl
    let stream : ByteStream := .ofBytes (Text.encode ("\n".intercalate lines ++ "\n"))
    have steps := @reading_of_cut _ stream cut index
    rw [List.map_map] at steps
    exact steps.trans found

theorem reading_gives_every_line_of_odd_bytes :
    let source := Source.ofBytes [0xFF, 10, 13, 13, 10, 65]
    let lines := ["a\rb", "", "c"]
    (source.reading 0 = .error undecodable ∧ source.reading 1 = .ok (some "") ∧
      source.reading 2 = .ok (some "A") ∧ source.reading 3 = .ok none) ∧
    (ofLines lines).reading 1 = .ok (some "") ∧ (ofLines lines).reading 3 = .ok none := by
  intro source lines
  obtain ⟨⟨pieces, results, -, only, yielded, given⟩, listed⟩ :=
    reading_gives_every_line (.ofBytes [0xFF, 10, 13, 13, 10, 65])
  have cut : Text.Cut [0xFF, 10, 13, 13, 10, 65] [[0xFF, 10], [13, 13, 10], [65]] :=
    @Text.Cut.line [0xFF] _ _ (by decide) (@Text.Cut.line [13, 13] _ _ (by decide)
      (.last (by decide) (by decide)))
  cases only _ cut
  have garbled : ¬ Text.IsText [0xFF, 10] := by
    rw [Text.IsText]
    decide +kernel
  have expected : List.Forall₂ Yields [[0xFF, 10], [13, 13, 10], [65]]
      [.error undecodable, .ok (some ""), .ok (some "A")] :=
    .cons (.garbled garbled) (.cons (@Yields.text "" "\r\r\n" ⟨by simp, by simp⟩)
      (.cons (@Yields.text "A" "" ⟨by simp, by simp⟩) .nil))
  cases List.right_unique_forall₂' rightUnique_yields yielded expected
  refine ⟨⟨given 0, given 1, given 2, given 3⟩, ?_, ?_⟩
  · exact listed lines (by decide) (by decide) 1
  · exact listed lines (by decide) (by decide) 3

end Source

end MenuShell

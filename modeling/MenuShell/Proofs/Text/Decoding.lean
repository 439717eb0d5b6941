import Mathlib.Data.List.Basic
import MenuShell.Text.Lines

/-!
Bytes that are text. Only a newline is written with the byte of a newline, so that a text cut behind
such a byte is cut between two characters: its lines are texts, and so is what follows them.
-/

namespace MenuShell

namespace Text

def IsText (bytes : List UInt8) : Prop :=
  (decode? bytes).isSome

theorem isText_iff {bytes : List UInt8} :
    IsText bytes ↔ ∃ chars : List Char, bytes = chars.flatMap String.utf8EncodeChar := by
  unfold IsText decode? String.fromUTF8?
  constructor
  · intro valid
    split at valid
    · rename_i holds
      obtain ⟨chars, same⟩ := holds
      refine ⟨chars, ?_⟩
      have arrays := congrArg ByteArray.data same
      simpa [List.utf8Encode] using congrArg Array.toList arrays
    · simp at valid
  · rintro ⟨chars, rfl⟩
    have valid : ByteArray.IsValidUTF8
        ⟨(chars.flatMap String.utf8EncodeChar).toArray⟩ := by
      refine ⟨chars, ?_⟩
      apply ByteArray.ext
      simp [List.utf8Encode]
    simp [valid]

theorem isText_encode (text : String) : IsText (encode text) := by
  obtain ⟨chars, same⟩ := text.isValidUTF8
  rw [isText_iff]
  refine ⟨chars, ?_⟩
  simp [encode, same, List.utf8Encode]

theorem newlineByte_eq_ofNat {value : Nat} (small : value < 256)
    (same : newlineByte = UInt8.ofNat value) : value = 10 := by
  have values := congrArg UInt8.toNat same
  rw [UInt8.toNat_ofNat', Nat.mod_eq_of_lt small] at values
  exact values.symm

theorem utf8EncodeChar_cases (char : Char) :
    String.utf8EncodeChar char = [newlineByte] ∨ newlineByte ∉ String.utf8EncodeChar char := by
  unfold String.utf8EncodeChar
  dsimp only
  split
  · rename_i ascii
    by_cases newline : char.val.toNat = 10
    · rw [newline]
      exact .inl rfl
    · refine .inr fun member => newline ?_
      exact newlineByte_eq_ofNat (by omega) (List.mem_singleton.mp member)
  · -- All bytes of a longer character are larger than those of ASCII.
    refine .inr fun member => ?_
    split at member
    · simp only [List.mem_cons, List.not_mem_nil, or_false] at member
      rcases member with same | same <;>
        have value := newlineByte_eq_ofNat (by omega) same <;> omega
    · split at member
      · simp only [List.mem_cons, List.not_mem_nil, or_false] at member
        rcases member with same | same | same <;>
          have value := newlineByte_eq_ofNat (by omega) same <;> omega
      · simp only [List.mem_cons, List.not_mem_nil, or_false] at member
        rcases member with same | same | same | same <;>
          have value := newlineByte_eq_ofNat (by omega) same <;> omega

theorem isText_append {first second : List UInt8} (text : IsText first) (others : IsText second) :
    IsText (first ++ second) := by
  obtain ⟨chars, rfl⟩ := isText_iff.mp text
  obtain ⟨later, rfl⟩ := isText_iff.mp others
  exact isText_iff.mpr ⟨chars ++ later, by simp⟩

theorem isText_utf8EncodeChar (char : Char) : IsText (String.utf8EncodeChar char) :=
  isText_iff.mpr ⟨[char], by simp⟩

theorem isText_nil : IsText [] :=
  isText_iff.mpr ⟨[], rfl⟩

theorem firstLine_append {front : List UInt8} (solid : newlineByte ∉ front) (back : List UInt8) :
    firstLine (front ++ back) = front ++ firstLine back := by
  have passes : ∀ byte ∈ front, (decide (byte ≠ newlineByte)) = true := by
    intro byte member
    rw [decide_eq_true_eq]
    rintro rfl
    exact solid member
  rw [firstLine, List.takeWhile_append_of_pos passes, List.dropWhile_append_of_pos passes,
    List.append_assoc]
  rfl

theorem IsText.firstLine {bytes : List UInt8} (text : IsText bytes) :
    IsText (firstLine bytes) ∧ IsText (bytes.drop (Text.firstLine bytes).length) := by
  obtain ⟨chars, rfl⟩ := isText_iff.mp text
  induction chars with
  | nil => exact ⟨isText_nil, isText_nil⟩
  | cons char chars ih =>
      obtain ⟨line, others⟩ := ih (isText_iff.mpr ⟨chars, rfl⟩)
      rw [List.flatMap_cons]
      rcases utf8EncodeChar_cases char with newline | solid
      · have cut := isText_utf8EncodeChar char
        rw [newline] at cut ⊢
        exact ⟨cut, isText_iff.mpr ⟨chars, rfl⟩⟩
      · rw [firstLine_append solid]
        refine ⟨isText_append (isText_utf8EncodeChar char) line, ?_⟩
        rw [List.length_append, ← List.drop_drop, List.drop_left]
        exact others

theorem pieces_append {front : List UInt8} (solid : newlineByte ∉ front) (back : List UInt8)
    (some : front ≠ []) :
    pieces newlineByte (front ++ back) =
      match pieces newlineByte back with
      | [] => [front]
      | piece :: others => (front ++ piece) :: others := by
  induction front with
  | nil => exact absurd rfl some
  | cons byte front ih =>
      have other : (byte == newlineByte) = false := by
        rw [beq_eq_false_iff_ne]
        rintro rfl
        exact solid List.mem_cons_self
      have step : pieces newlineByte (byte :: front ++ back) =
          prependToPieces newlineByte byte (pieces newlineByte (front ++ back)) := rfl
      rw [step, prependToPieces.eq_def, other]
      cases front with
      | nil =>
          rw [List.nil_append]
          cases pieces newlineByte back <;> rfl
      | cons next front =>
          rw [ih (fun member => solid (List.mem_cons_of_mem _ member)) (by simp)]
          cases pieces newlineByte back <;> rfl

theorem IsText.of_mem_rawLines {bytes line : List UInt8} (text : IsText bytes)
    (member : line ∈ rawLines bytes) : IsText line := by
  obtain ⟨chars, rfl⟩ := isText_iff.mp text
  unfold rawLines at member
  induction chars generalizing line with
  | nil => simp [pieces] at member
  | cons char chars ih =>
      have others :
          ∀ line ∈ pieces newlineByte (chars.flatMap String.utf8EncodeChar), IsText line :=
        fun line member => ih (isText_iff.mpr ⟨chars, rfl⟩) member
      rw [List.flatMap_cons] at member
      rcases utf8EncodeChar_cases char with newline | solid
      · rw [newline] at member
        have cut : pieces newlineByte ([newlineByte] ++ chars.flatMap String.utf8EncodeChar) =
            [newlineByte] :: pieces newlineByte (chars.flatMap String.utf8EncodeChar) := rfl
        rw [cut] at member
        rcases List.mem_cons.mp member with rfl | later
        · exact newline ▸ isText_utf8EncodeChar char
        · exact others line later
      · rw [pieces_append solid _ String.utf8EncodeChar_ne_nil] at member
        cases rest : pieces newlineByte (chars.flatMap String.utf8EncodeChar) with
        | nil =>
            rw [rest] at member
            rw [List.mem_singleton.mp member]
            exact isText_utf8EncodeChar char
        | cons piece pieces =>
            rw [rest] at member others
            rcases List.mem_cons.mp member with rfl | later
            · exact isText_append (isText_utf8EncodeChar char) (others piece List.mem_cons_self)
            · exact others line (List.mem_cons_of_mem _ later)

end Text

end MenuShell

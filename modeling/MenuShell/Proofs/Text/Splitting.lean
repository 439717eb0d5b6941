import Mathlib.Data.List.DropRight
import MenuShell.Tree.Basic

/-!
Trimming a line changes neither its first word nor the rest behind that word, and a line that is a
single word is its own first word. No word of a line is empty, and only a blank line has no first word.
-/

namespace MenuShell

namespace Chars

theorem trimEnd_eq_rdropWhile (text : List Char) : trimEnd text = text.rdropWhile isBlank := rfl

theorem trimStart_eq_self_iff {text : List Char} :
    trimStart text = text ↔ ∀ first ∈ text.head?, isBlank first = false := by
  cases text with
  | nil => simp [trimStart]
  | cons first rest =>
      rw [trimStart, List.dropWhile_eq_self_iff]
      simp

theorem head?_trimStart (text : List Char) :
    ∀ first ∈ (trimStart text).head?, isBlank first = false :=
  trimStart_eq_self_iff.mp (List.dropWhile_idempotent isBlank text)

theorem trimStart_trim (text : List Char) : trimStart (trim text) = trim text := by
  rw [trimStart_eq_self_iff]
  intro first present
  -- What is left by trimming the end is a beginning of the text.
  obtain ⟨rest, whole⟩ : trim text <+: trimStart text := List.rdropWhile_prefix _ _
  apply head?_trimStart text
  rw [← whole, List.head?_append_of_ne_nil _ (by rintro blank; simp [blank] at present)]
  exact present

theorem trimEnd_trim (text : List Char) : trimEnd (trim text) = trim text :=
  List.rdropWhile_idempotent _ _

theorem trim_trim (text : List Char) : trim (trim text) = trim text := by
  rw [trim, trimStart_trim, trimEnd_trim]

theorem trim_of_all {text : List Char} (solid : text.all (!isBlank ·) = true) :
    trim text = text := by
  simp only [List.all_eq_true, Bool.not_eq_true'] at solid
  have started : trimStart text = text :=
    trimStart_eq_self_iff.mpr fun first present => solid first (List.mem_of_mem_head? present)
  rw [trim, started, trimEnd_eq_rdropWhile, List.rdropWhile_eq_self_iff]
  intro nonempty
  simp [solid _ (List.getLast_mem nonempty)]

theorem firstWord_trim (line : List Char) : firstWord (trim line) = firstWord line := by
  rw [firstWord, trim_trim, firstWord]

theorem afterFirstWord_trim (line : List Char) :
    afterFirstWord (trim line) = afterFirstWord line := by
  rw [afterFirstWord, trim_trim, afterFirstWord]

theorem firstWord_of_all {text : List Char} (solid : text.all (!isBlank ·) = true) :
    firstWord text = text := by
  rw [firstWord, trim_of_all solid, List.takeWhile_eq_self_iff]
  exact List.all_eq_true.mp solid

theorem mem_prependToWords {char : Char} {rest word : List Char} {words : List (List Char)}
    (member : word ∈ prependToWords char rest words) : word ∈ words ∨ word ≠ [] := by
  unfold prependToWords at member
  split at member
  · exact .inl member
  · split at member
    · split at member
      · rcases List.mem_cons.mp member with rfl | later
        · exact .inr (List.cons_ne_nil _ _)
        · exact .inl later
      · rcases List.mem_cons.mp member with rfl | later
        · exact .inr (List.cons_ne_nil _ _)
        · exact .inl (List.mem_cons_of_mem _ later)
    · rcases List.mem_cons.mp member with rfl | later
      · exact .inr (List.cons_ne_nil _ _)
      · exact .inl later

theorem ne_nil_of_mem_words {text word : List Char} (member : word ∈ words text) : word ≠ [] := by
  induction text with
  | nil => simp [words] at member
  | cons char rest ih =>
      rcases mem_prependToWords member with later | nonempty
      · exact ih later
      · exact nonempty

end Chars

theorem Tree.isWord_iff {word : String} :
    Tree.isWord word = true ↔ word ≠ "" ∧ ∀ char ∈ word.toList, Chars.isBlank char = false := by
  simp [Tree.isWord]

namespace Text

theorem splitFirstWord_trim (line : String) :
    splitFirstWord (trim line) = splitFirstWord line := by
  simp only [splitFirstWord, trim, String.toList_ofList, Chars.firstWord_trim,
    Chars.afterFirstWord_trim]

theorem fst_splitFirstWord_of_isWord {word : String} (isWord : Tree.isWord word = true) :
    (splitFirstWord word).1 = word := by
  rw [Tree.isWord, Bool.and_eq_true] at isWord
  rw [splitFirstWord, Chars.firstWord_of_all isWord.2, String.ofList_toList]

theorem ne_empty_of_mem_words {line word : String} (member : word ∈ words line) : word ≠ "" := by
  obtain ⟨chars, charsMember, rfl⟩ := List.mem_map.mp member
  have nonempty := Chars.ne_nil_of_mem_words charsMember
  simpa using nonempty

end Text

namespace Chars

theorem trim_eq_nil_iff {text : List Char} : trim text = [] ↔ text.all isBlank = true := by
  constructor
  · intro none
    rw [trim, trimEnd_eq_rdropWhile, List.rdropWhile_eq_nil_iff] at none
    have started : trimStart text = [] := by
      by_contra some
      have first := head?_trimStart text _ (List.head_mem_head? some)
      rw [none _ (List.head_mem some)] at first
      contradiction
    rw [trimStart, List.dropWhile_eq_nil_iff] at started
    exact List.all_eq_true.mpr started
  · intro blank
    have started : trimStart text = [] :=
      List.dropWhile_eq_nil_iff.mpr (List.all_eq_true.mp blank)
    rw [trim, started]
    rfl

theorem trim_of_firstWord {line : List Char} (none : firstWord line = []) : trim line = [] := by
  by_contra some
  have visible := trimStart_eq_self_iff.mp (trimStart_trim line) _ (List.head_mem_head? some)
  rw [firstWord, List.takeWhile_eq_nil_iff] at none
  exact none (List.length_pos_iff.mpr some) (by simpa [List.head_eq_getElem] using visible)

theorem afterFirstWord_of_firstWord {line : List Char} (none : firstWord line = []) :
    afterFirstWord line = [] := by
  rw [afterFirstWord, trim_of_firstWord none]
  rfl

end Chars

namespace Text

theorem isBlank_iff_trim {line : String} : isBlank line = true ↔ trim line = "" := by
  rw [isBlank, ← Chars.trim_eq_nil_iff, trim, String.ofList_eq_empty_iff]

theorem trim_trim (line : String) : trim (trim line) = trim line := by
  simp only [trim, String.toList_ofList, Chars.trim_trim]

theorem isBlank_trim (line : String) : isBlank (trim line) = isBlank line := by
  rw [Bool.eq_iff_iff, isBlank_iff_trim, isBlank_iff_trim, trim_trim]

theorem trim_snd_splitFirstWord (line : String) :
    trim (splitFirstWord line).2 = (splitFirstWord line).2 := by
  rw [splitFirstWord, trim, String.toList_ofList, Chars.afterFirstWord, Chars.trim_trim]

theorem isBlank_afterFirstWord {line : String} (some : (splitFirstWord line).2 ≠ "") :
    isBlank (splitFirstWord line).2 = false := by
  rw [← Bool.not_eq_true, isBlank_iff_trim, trim_snd_splitFirstWord]
  exact some

theorem fst_splitFirstWord_eq_empty_iff {line : String} :
    (splitFirstWord line).1 = "" ↔ isBlank line = true := by
  rw [isBlank, ← Chars.trim_eq_nil_iff, splitFirstWord, String.ofList_eq_empty_iff]
  constructor
  · exact Chars.trim_of_firstWord
  · intro none
    rw [Chars.firstWord, none]
    rfl

theorem snd_splitFirstWord_of_fst {line : String} (none : (splitFirstWord line).1 = "") :
    (splitFirstWord line).2 = "" := by
  simp only [splitFirstWord, String.ofList_eq_empty_iff] at none ⊢
  exact Chars.afterFirstWord_of_firstWord none

end Text

end MenuShell

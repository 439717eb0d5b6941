import MenuShell.Proofs.Text.Wording

/-!
White space between words and around a line. Blanks at the ends of a line do not count, and those
behind its first word only divide it from the rest, which is left as it is but for its own ends.
-/

namespace MenuShell

namespace Chars

variable {text word rest blanks : List Char}

theorem trimStart_blanks_append (blank : ∀ char ∈ blanks, isBlank char = true) (text : List Char) :
    trimStart (blanks ++ text) = trimStart text :=
  List.dropWhile_append_of_pos blank

theorem trim_append_blanks (blank : ∀ char ∈ blanks, isBlank char = true) (text : List Char) :
    trim (text ++ blanks) = trim text := by
  have none : blanks.dropWhile isBlank = [] := List.dropWhile_eq_nil_iff.mpr blank
  have started : trimStart (text ++ blanks) =
      if (trimStart text).isEmpty then [] else trimStart text ++ blanks := by
    rw [trimStart, List.dropWhile_append, none]
    rfl
  rw [trim, trim, started]
  split
  · rename_i all
    rw [List.isEmpty_iff.mp all]
  · rw [trimEnd, trimEnd, List.reverse_append, List.dropWhile_append_of_pos]
    simpa using blank

theorem trim_trimEnd (text : List Char) : trim (trimEnd text) = trim text := by
  obtain ⟨blanks, blank, whole⟩ := trimEnd_append_blanks text
  rw [← trim_append_blanks blank, whole]

theorem trimEnd_append (solid : ∀ char ∈ word, isBlank char = false) (rest : List Char) :
    trimEnd (word ++ rest) = word ++ trimEnd rest := by
  have kept : word.reverse.dropWhile isBlank = word.reverse := by
    cases back : word.reverse with
    | nil => rfl
    | cons last others =>
        have member : last ∈ word := List.mem_reverse.mp (back ▸ List.mem_cons_self)
        exact List.dropWhile_cons_of_neg (by simp [solid last member])
  rw [trimEnd, trimEnd, List.reverse_append, List.dropWhile_append, kept]
  split
  · rename_i none
    simp [List.isEmpty_iff.mp none]
  · simp

theorem trim_append (present : word ≠ []) (solid : ∀ char ∈ word, isBlank char = false)
    (rest : List Char) : trim (word ++ rest) = word ++ trimEnd rest := by
  have started : trimStart (word ++ rest) = word ++ rest := by
    apply trimStart_eq_self_iff.mpr
    intro first front
    rw [List.head?_append_of_ne_nil _ present] at front
    exact solid first (List.mem_of_mem_head? front)
  rw [trim, started, trimEnd_append solid]

theorem firstWord_append (present : word ≠ []) (solid : ∀ char ∈ word, isBlank char = false)
    (parted : ∀ first ∈ rest.head?, isBlank first = true) :
    firstWord (word ++ rest) = word ∧ afterFirstWord (word ++ rest) = trim rest := by
  have passed : ∀ char ∈ word, (!isBlank char) = true := by simpa using solid
  have stops : ∀ first ∈ (trimEnd rest).head?, isBlank first = true := by
    intro first front
    obtain ⟨blanks, whole⟩ : trimEnd rest <+: rest := List.rdropWhile_prefix _ _
    apply parted
    rw [← whole, List.head?_append_of_ne_nil _ (by rintro none; simp [none] at front)]
    exact front
  rw [firstWord, afterFirstWord, trim_append present solid, List.takeWhile_append_of_pos passed,
    List.dropWhile_append_of_pos passed, ← trim_trimEnd rest]
  cases left : trimEnd rest with
  | nil => simp
  | cons first others =>
      have blank := stops first (by simp [left])
      rw [List.takeWhile_cons_of_neg (by simp [blank]), List.dropWhile_cons_of_neg (by simp [blank]),
        List.append_nil]
      exact ⟨rfl, rfl⟩

end Chars

namespace Text

variable {word gap lead tail rest line : String} {others : List (String × String)}

theorem isBlank_iff_all : isBlank line = true ↔ ∀ char ∈ line.toList, Chars.isBlank char = true := by
  rw [isBlank, List.all_eq_true]

theorem trim_blanks_append (blank : isBlank lead = true) (line : String) :
    trim (lead ++ line) = trim line := by
  rw [trim, trim, String.toList_append, Chars.trim, Chars.trim,
    Chars.trimStart_blanks_append (isBlank_iff_all.mp blank)]

theorem trim_append_blanks (blank : isBlank tail = true) (line : String) :
    trim (line ++ tail) = trim line := by
  rw [trim, trim, String.toList_append, Chars.trim_append_blanks (isBlank_iff_all.mp blank)]

theorem splitFirstWord_append (isWord : Tree.isWord word = true)
    (parted : ∀ first ∈ rest.toList.head?, Chars.isBlank first = true) :
    splitFirstWord (word ++ rest) = (word, trim rest) := by
  obtain ⟨present, solid⟩ := Tree.isWord_iff.mp isWord
  obtain ⟨first, others⟩ := Chars.firstWord_append (by simpa using present) solid parted
  rw [splitFirstWord, String.toList_append, first, others, String.ofList_toList, trim]

def spaced : List (String × String) → String → String
  | [], rest => rest
  | (word, gap) :: others, rest => word ++ gap ++ spaced others rest

/-- The gaps are white space, and only behind the last word of the line there need not be any. -/
def Parted : List (String × String) → String → Prop
  | [], _ => True
  | (_, gap) :: others, rest =>
    isBlank gap = true ∧ (gap = "" → spaced others rest = "") ∧ Parted others rest

theorem splitFirstWord_spaced (isWord : Tree.isWord word = true)
    (parted : Parted ((word, gap) :: others) rest) :
    splitFirstWord (spaced ((word, gap) :: others) rest) = (word, trim (spaced others rest)) := by
  obtain ⟨blank, divides, -⟩ := parted
  have stops : ∀ first ∈ (gap ++ spaced others rest).toList.head?, Chars.isBlank first = true := by
    by_cases none : gap = ""
    · simp [none, divides none]
    · intro first front
      rw [String.toList_append, List.head?_append_of_ne_nil _ (by simpa using none)] at front
      exact isBlank_iff_all.mp blank first (List.mem_of_mem_head? front)
  rw [spaced, String.append_assoc, splitFirstWord_append isWord stops, trim_blanks_append blank]

variable {front : List (String × String)}

theorem spaced_append (front others : List (String × String)) (rest : String) :
    spaced (front ++ others) rest = spaced front (spaced others rest) := by
  induction front with
  | nil => rfl
  | cons step front ih => rw [List.cons_append, spaced, spaced, ih]

theorem Parted.before (parted : Parted (front ++ others) rest) :
    Parted front (spaced others rest) := by
  induction front with
  | nil => trivial
  | cons step front ih =>
      obtain ⟨blank, divides, later⟩ := parted
      exact ⟨blank, fun none => (spaced_append front others rest).symm.trans (divides none), ih later⟩

theorem Parted.behind (parted : Parted (front ++ others) rest) : Parted others rest := by
  induction front with
  | nil => exact parted
  | cons step front ih => exact ih parted.2.2

theorem isBlank_spaced (filled : isBlank rest = false) : isBlank (spaced front rest) = false := by
  induction front with
  | nil => exact filled
  | cons step front ih =>
      rw [← Bool.not_eq_true, isBlank_iff_all] at ih ⊢
      intro blank
      apply ih
      intro char member
      exact blank char (by simp [spaced, member])

theorem words_trim (line : String) : words (trim line) = words line := by
  rw [words, trim, String.toList_ofList, Chars.words_trim, words]

theorem words_of_splitFirstWord (split : splitFirstWord line = (word, rest)) (present : word ≠ "") :
    words line = word :: words rest := by
  obtain ⟨first, behind⟩ := Prod.mk.inj split
  have some : Chars.firstWord line.toList ≠ [] := by
    rintro none
    exact present (by rw [← first, none])
  rw [words, Chars.words_eq, if_neg some, List.map_cons, first, ← behind, words, String.toList_ofList]

theorem words_spaced (solid : ∀ step ∈ front, Tree.isWord step.1 = true) (parted : Parted front rest) :
    words (spaced front rest) = front.map Prod.fst ++ words rest := by
  induction front with
  | nil => rfl
  | cons step front ih =>
      obtain ⟨word, gap⟩ := step
      have isWord : Tree.isWord word = true := solid _ List.mem_cons_self
      have split := splitFirstWord_spaced isWord parted
      have others := ih (fun step member => solid step (List.mem_cons_of_mem _ member)) parted.2.2
      have present : word ≠ "" := (Tree.isWord_iff.mp isWord).1
      rw [words_of_splitFirstWord split present, words_trim, others]
      rfl

end Text

end MenuShell

import MenuShell.Proofs.Text.Spacing

/-!
Words peeled off the front of a line. There is one way to divide a line into a word, white space and
the rest, and dividing the rest again and again gives what lies between white space in the line.
-/

namespace MenuShell

namespace Chars

variable {text : List Char}

theorem words_eq_splitOnP (text : List Char) :
    words text = (text.splitOnP isBlank).filter (!·.isEmpty) := by
  induction text with
  | nil => rfl
  | cons char text ih =>
      rw [words_cons, List.splitOnP_cons_eq_if_modifyHead]
      cases visible : isBlank char with
      | true =>
          rw [prependToWords_blank visible, if_pos rfl, ih]
          rfl
      | false =>
          rw [if_neg (by simp)]
          cases text with
          | nil =>
              rw [prependToWords_last visible (by simp)]
              rfl
          | cons next rest =>
              rw [List.splitOnP_cons_eq_if_modifyHead] at ih ⊢
              cases shown : isBlank next with
              | true =>
                  rw [shown, if_pos rfl] at ih
                  rw [prependToWords_last visible (by simpa using shown), if_pos rfl, ih]
                  rfl
              | false =>
                  -- The next character begins a piece already, and this one goes in front of it.
                  obtain ⟨piece, pieces, cut⟩ :=
                    List.exists_cons_of_ne_nil (List.splitOnP_ne_nil isBlank rest)
                  rw [shown, if_neg (by simp), cut] at ih
                  rw [if_neg (by simp), cut, ih]
                  exact prependToWords_next visible shown

theorem length_trim_le (text : List Char) : (trim text).length ≤ text.length := by
  have last : trim text <+: trimStart text := List.rdropWhile_prefix _ _
  have first : trimStart text <:+ text := List.dropWhile_suffix _
  exact last.length_le.trans first.length_le

theorem trim_of_trimEnd (ended : trimEnd text = text) : trim text = trimStart text := by
  rw [trim, trimEnd_eq_rdropWhile, List.rdropWhile_eq_self_iff]
  intro present
  have back : trimStart text <:+ text := List.dropWhile_suffix _
  rw [back.getLast present]
  exact List.rdropWhile_eq_self_iff.mp ended _

theorem exists_gap (line : List Char) :
    ∃ gap, (∀ char ∈ gap, isBlank char = true) ∧ (gap = [] ↔ afterFirstWord line = []) ∧
      trim line = firstWord line ++ gap ++ afterFirstWord line := by
  have whole := firstWord_append_dropWhile line
  have parted := blank_behind_firstWord line
  rw [afterFirstWord]
  generalize (trim line).dropWhile (!isBlank ·) = behind at whole parted
  have ended : trimEnd behind = behind := by
    have same := trimEnd_append (solid_firstWord line) behind
    rw [whole, trimEnd_trim, ← whole] at same
    exact (List.append_cancel_left same).symm
  refine ⟨behind.takeWhile isBlank, fun char => List.mem_takeWhile_imp, ?_, ?_⟩
  · cases behind with
    | nil => simp [trim, trimStart, trimEnd]
    | cons first others =>
        have blank := parted first rfl
        have filled : trim (first :: others) ≠ [] := by
          intro none
          have all := List.all_eq_true.mp (trim_eq_nil_iff.mp none)
          rw [trimEnd_eq_rdropWhile, List.rdropWhile_eq_nil_iff.mpr all] at ended
          contradiction
        rw [List.takeWhile_cons_of_pos blank]
        simpa using filled
  · rw [trim_of_trimEnd ended, List.append_assoc, trimStart, List.takeWhile_append_dropWhile, whole]

end Chars

namespace Text

variable {line other word rest : String} {taken : List String}

theorem words_eq_splitOnP (line : String) :
    words line =
      ((line.toList.splitOnP Chars.isBlank).filter (!·.isEmpty)).map String.ofList := by
  rw [words, Chars.words_eq_splitOnP]

/-- The trimmed line is the word, white space and the rest, which is trimmed as well. Only where there
is no rest is there no white space either. -/
structure Divides (line word rest : String) : Prop where
  solid : ∀ char ∈ word.toList, Chars.isBlank char = false
  trimmed : trim rest = rest
  whole : ∃ gap, isBlank gap = true ∧ (gap = "" ↔ rest = "") ∧ trim line = word ++ gap ++ rest

theorem divides_splitFirstWord (line : String) :
    Divides line (splitFirstWord line).1 (splitFirstWord line).2 := by
  refine ⟨?_, trim_snd_splitFirstWord line, ?_⟩
  · rw [splitFirstWord, String.toList_ofList]
    exact Chars.solid_firstWord line.toList
  · obtain ⟨gap, blank, parted, whole⟩ := Chars.exists_gap line.toList
    refine ⟨String.ofList gap, ?_, ?_, ?_⟩
    · rw [isBlank_iff_all, String.toList_ofList]
      exact blank
    · rw [splitFirstWord, String.ofList_eq_empty_iff, String.ofList_eq_empty_iff, parted]
    · rw [trim, whole, String.ofList_append, String.ofList_append, splitFirstWord]

theorem Divides.isBlank (divides : Divides line "" rest) : isBlank line = true ∧ rest = "" := by
  obtain ⟨-, -, gap, blank, parted, whole⟩ := divides
  -- With no word in front the line would begin with the gap, and trimming has left no white space there.
  have none : gap = "" := by
    by_contra some
    have front : (trim line).toList.head? = gap.toList.head? := by
      rw [whole, String.empty_append, String.toList_append,
        List.head?_append_of_ne_nil _ (by simpa using some)]
    cases start : gap.toList with
    | nil => simp [some] at start
    | cons first others =>
        rw [start, trim, String.toList_ofList] at front
        have visible := Chars.trimStart_eq_self_iff.mp (Chars.trimStart_trim line.toList) first front
        have hidden := isBlank_iff_all.mp blank first (by simp [start])
        simp [visible] at hidden
  have bare : rest = "" := parted.mp none
  rw [isBlank_iff_trim, whole, none, bare, String.append_empty, String.append_empty]
  exact ⟨rfl, rfl⟩

theorem Divides.splitFirstWord_eq (divides : Divides line word rest) :
    splitFirstWord line = (word, rest) := by
  by_cases bare : word = ""
  · subst bare
    obtain ⟨blank, none⟩ := divides.isBlank
    have first := fst_splitFirstWord_eq_empty_iff.mpr blank
    exact Prod.ext first ((snd_splitFirstWord_of_fst first).trans none.symm)
  · obtain ⟨solid, trimmed, gap, blank, parted, whole⟩ := divides
    have isWord : Tree.isWord word = true := Tree.isWord_iff.mpr ⟨bare, solid⟩
    have cut : splitFirstWord (word ++ gap ++ rest) = (word, trim rest) :=
      @splitFirstWord_spaced word gap rest [] isWord ⟨blank, parted.mp, trivial⟩
    rw [← splitFirstWord_trim, whole, cut, trimmed]

theorem splitFirstWord_eq_iff : splitFirstWord line = (word, rest) ↔ Divides line word rest := by
  refine ⟨fun split => ?_, Divides.splitFirstWord_eq⟩
  have divides := divides_splitFirstWord line
  rwa [split] at divides

theorem Divides.length_lt (divides : Divides line word rest) (present : word ≠ "") :
    rest.length < line.length := by
  obtain ⟨-, -, gap, -, -, whole⟩ := divides
  have sum := congrArg String.length whole
  have short := Chars.length_trim_le line.toList
  have some : 0 < word.length := Nat.pos_of_ne_zero (by simpa using present)
  rw [String.length_append, String.length_append, trim, String.length_ofList] at sum
  rw [String.length_toList] at short
  omega

inductive Peels : String → List String → Prop
  | bare {line : String} : (splitFirstWord line).1 = "" → Peels line []
  | word {line word rest : String} {others : List String} : splitFirstWord line = (word, rest) →
      word ≠ "" → Peels rest others → Peels line (word :: others)

theorem Peels.eq_words (peels : Peels line taken) : taken = words line := by
  induction peels with
  | bare none => exact (words_eq_nil_iff.mpr (fst_splitFirstWord_eq_empty_iff.mp none)).symm
  | word split present _ ih => rw [words_of_splitFirstWord split present, ih]

theorem peels_words (line : String) : Peels line (words line) := by
  generalize cut : words line = taken
  induction taken generalizing line with
  | nil => exact .bare (fst_splitFirstWord_eq_empty_iff.mpr (words_eq_nil_iff.mp cut))
  | cons word others ih =>
      have present : word ≠ "" := ne_empty_of_mem_words (cut ▸ List.mem_cons_self)
      obtain ⟨first, behind⟩ := splitFirstWord_of_words cut
      rcases split : splitFirstWord line with ⟨front, rest⟩
      rw [split] at first behind
      exact .word (first ▸ split) present (ih rest behind)

theorem peels_iff : Peels line taken ↔ taken = words line :=
  ⟨Peels.eq_words, fun same => same ▸ peels_words line⟩

/-- There is one way to divide a line, and going on with the rest ends and gives the words of the line,
which are what lies between white space in it. Joined with single spaces they are taken apart again into
the same words. Only a blank line has no first word, and white space around a line makes no difference. -/
theorem peeling_gives_words (line : String) :
    (∀ word rest, splitFirstWord line = (word, rest) ↔ Divides line word rest) ∧
      (∀ taken, Peels line taken ↔ taken = words line) ∧
      words line =
        ((line.toList.splitOnP Chars.isBlank).filter (!·.isEmpty)).map String.ofList ∧
      (words (" ".intercalate (words line)) = words line ∧
        Peels (" ".intercalate (words line)) (words line)) ∧
      ((splitFirstWord line).1 = "" ↔ isBlank line = true) ∧
      ∀ other, trim other = trim line →
        splitFirstWord other = splitFirstWord line ∧ words other = words line := by
  have joined : words (" ".intercalate (words line)) = words line :=
    words_intercalate fun _ => isWord_of_mem_words
  refine ⟨fun word rest => splitFirstWord_eq_iff, fun taken => peels_iff, words_eq_splitOnP line,
    ⟨joined, peels_iff.mpr joined.symm⟩, fst_splitFirstWord_eq_empty_iff, ?_⟩
  intro other same
  constructor
  · rw [← splitFirstWord_trim other, same, splitFirstWord_trim]
  · rw [← words_trim other, same, words_trim]

theorem peeling_gives_words_of_odd_space :
    let line := "\u3000call\u2003\u00A0me\u2028 now\u0085"
    let other := "call\u2003\u00A0me\u2028 now \t"
    Divides line "call" "me\u2028 now" ∧ Peels line ["call", "me", "now"] ∧
      trim other = trim line ∧ splitFirstWord other = splitFirstWord line ∧
      words other = words line := by
  intro line other
  obtain ⟨cut, peels, -, -, -, only⟩ := peeling_gives_words line
  have same : trim other = trim line := by decide
  exact ⟨(cut _ _).mp (by decide), (peels _).mpr (by decide), same, only other same⟩

end Text

end MenuShell

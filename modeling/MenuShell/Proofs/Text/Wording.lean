import MenuShell.Proofs.Text.Splitting

/-!
The words of a line. The first of them stands in front, and the others are the words of the rest.
Words that are put together again with a space between them are cut at the same places.
-/

namespace MenuShell

namespace Chars

variable {char next : Char} {text word rest : List Char} {others : List (List Char)}

theorem words_cons (char : Char) (text : List Char) :
    words (char :: text) = prependToWords char text (words text) := rfl

theorem prependToWords_blank (blank : isBlank char = true) (text : List Char)
    (others : List (List Char)) : prependToWords char text others = others := by
  unfold prependToWords
  rw [if_pos blank]

theorem prependToWords_last (visible : isBlank char = false)
    (parted : ∀ first ∈ rest.head?, isBlank first = true) (others : List (List Char)) :
    prependToWords char rest others = [char] :: others := by
  unfold prependToWords
  rw [if_neg (by simp [visible])]
  split
  · rename_i first _ _ _
    rw [if_pos (parted first rfl)]
  · rfl

theorem prependToWords_next (visible : isBlank char = false) (shown : isBlank next = false) :
    prependToWords char (next :: rest) (word :: others) = (char :: word) :: others := by
  unfold prependToWords
  rw [if_neg (by simp [visible])]
  exact if_neg (by simp [shown])

theorem words_trimStart (text : List Char) : words (trimStart text) = words text := by
  induction text with
  | nil => rfl
  | cons char text ih =>
      cases blank : isBlank char with
      | true =>
          rw [words_cons, prependToWords_blank blank, ← ih, trimStart,
            List.dropWhile_cons_of_pos blank]
          rfl
      | false => rw [trimStart, List.dropWhile_cons_of_neg (by simp [blank])]

theorem words_append_blanks {blanks : List Char} (blank : ∀ char ∈ blanks, isBlank char = true)
    (text : List Char) : words (text ++ blanks) = words text := by
  have none : words blanks = [] := by
    have same := words_trimStart blanks
    rw [trimStart, List.dropWhile_eq_nil_iff.mpr blank] at same
    exact same.symm
  induction text with
  | nil => exact none
  | cons char text ih =>
      rw [List.cons_append, words_cons, words_cons, ih]
      cases text with
      | cons next text => cases words (next :: text) <;> rfl
      | nil =>
          cases visible : isBlank char with
          | true => rw [prependToWords_blank visible, prependToWords_blank visible]
          | false =>
              have parted : ∀ first ∈ blanks.head?, isBlank first = true :=
                fun first front => blank first (List.mem_of_mem_head? front)
              rw [List.nil_append, prependToWords_last visible parted,
                prependToWords_last visible (by simp)]

theorem trimEnd_append_blanks (text : List Char) :
    ∃ blanks, (∀ char ∈ blanks, isBlank char = true) ∧ trimEnd text ++ blanks = text := by
  refine ⟨(text.reverse.takeWhile isBlank).reverse, fun char member => ?_, ?_⟩
  · exact List.mem_takeWhile_imp (List.mem_reverse.mp member)
  · rw [trimEnd, ← List.reverse_append, List.takeWhile_append_dropWhile, List.reverse_reverse]

theorem words_trim (text : List Char) : words (trim text) = words text := by
  obtain ⟨blanks, blank, whole⟩ := trimEnd_append_blanks (trimStart text)
  rw [trim, ← words_append_blanks blank, whole, words_trimStart]

theorem words_append (present : word ≠ []) (solid : ∀ char ∈ word, isBlank char = false)
    (parted : ∀ first ∈ rest.head?, isBlank first = true) :
    words (word ++ rest) = word :: words rest := by
  induction word with
  | nil => exact absurd rfl present
  | cons char word ih =>
      have visible := solid char List.mem_cons_self
      rw [List.cons_append, words_cons]
      cases word with
      | nil => rw [List.nil_append, prependToWords_last visible parted]
      | cons next word =>
          have shown := solid next (by simp)
          rw [ih (by simp) fun other member => solid other (List.mem_cons_of_mem _ member)]
          exact prependToWords_next visible shown

theorem firstWord_append_dropWhile (line : List Char) :
    firstWord line ++ (trim line).dropWhile (!isBlank ·) = trim line :=
  List.takeWhile_append_dropWhile

theorem solid_firstWord (line : List Char) : ∀ char ∈ firstWord line, isBlank char = false := by
  intro char member
  simpa using List.mem_takeWhile_imp member

theorem blank_behind_firstWord (line : List Char) :
    ∀ first ∈ ((trim line).dropWhile (!isBlank ·)).head?, isBlank first = true := by
  intro first front
  have stopped := List.head?_dropWhile_not (!isBlank ·) (trim line)
  rw [Option.mem_def.mp front] at stopped
  simpa using stopped

theorem words_eq (line : List Char) :
    words line =
      if firstWord line = [] then [] else firstWord line :: words (afterFirstWord line) := by
  rw [← words_trim line]
  split
  · rename_i none
    -- A line that is trimmed and has anything in it begins with a word.
    cases left : trim line with
    | nil => rfl
    | cons first others =>
        have visible := trimStart_eq_self_iff.mp (trimStart_trim line) first (by simp [left])
        simp [firstWord, left, visible] at none
  · rename_i some
    rw [← firstWord_append_dropWhile,
      words_append some (solid_firstWord line) (blank_behind_firstWord line), afterFirstWord, words_trim]

theorem solid_of_mem_words (member : word ∈ words text) : ∀ char ∈ word, isBlank char = false := by
  induction text generalizing word with
  | nil => simp [words] at member
  | cons char rest ih =>
      rw [words_cons] at member
      unfold prependToWords at member
      split at member
      · exact ih member
      · rename_i visible
        have single : ∀ other ∈ [char], isBlank other = false := by simpa using visible
        split at member
        · rename_i front others found
          split at member
          · rcases List.mem_cons.mp member with rfl | later
            · exact single
            · exact ih later
          · rw [found] at ih
            rcases List.mem_cons.mp member with rfl | later
            · intro other inside
              rcases List.mem_cons.mp inside with rfl | old
              · simpa using visible
              · exact ih List.mem_cons_self other old
            · exact ih (List.mem_cons_of_mem _ later)
        · rcases List.mem_cons.mp member with rfl | later
          · exact single
          · exact ih later

end Chars

namespace Text

variable {line word command : String} {others : List String}

theorem isWord_of_mem_words (member : word ∈ words line) : Tree.isWord word = true := by
  refine Tree.isWord_iff.mpr ⟨ne_empty_of_mem_words member, ?_⟩
  obtain ⟨chars, inside, rfl⟩ := List.mem_map.mp member
  rw [String.toList_ofList]
  exact Chars.solid_of_mem_words inside

theorem head?_trimEnd {char : Char} (front : line.toList.head? = some char)
    (visible : Chars.isBlank char = false) : (trimEnd line).toList.head? = some char := by
  rw [trimEnd, String.toList_ofList, Chars.trimEnd_eq_rdropWhile]
  have present : line.toList.rdropWhile Chars.isBlank ≠ [] := by
    intro none
    have blank := List.rdropWhile_eq_nil_iff.mp none char (List.mem_of_mem_head? front)
    simp [visible] at blank
  obtain ⟨rest, whole⟩ := List.rdropWhile_prefix Chars.isBlank line.toList
  rw [← whole, List.head?_append_of_ne_nil _ present] at front
  exact front

theorem splitFirstWord_of_words (cut : words line = command :: others) :
    (splitFirstWord line).1 = command ∧ words (splitFirstWord line).2 = others := by
  rw [words, Chars.words_eq] at cut
  split at cut
  · simp at cut
  · rw [List.map_cons] at cut
    obtain ⟨rfl, rfl⟩ := List.cons.inj cut
    exact ⟨rfl, by rw [splitFirstWord, words, String.toList_ofList]⟩

theorem words_eq_nil_iff : words line = [] ↔ isBlank line = true := by
  rw [← fst_splitFirstWord_eq_empty_iff, words, Chars.words_eq, splitFirstWord,
    String.ofList_eq_empty_iff]
  split
  · rename_i none
    simp [none]
  · rename_i some
    simp [some]

theorem words_append (isWord : Tree.isWord word = true) {rest : String}
    (parted : ∀ first ∈ rest.toList.head?, Chars.isBlank first = true) :
    words (word ++ rest) = word :: words rest := by
  obtain ⟨present, solid⟩ := Tree.isWord_iff.mp isWord
  rw [words, String.toList_append, Chars.words_append (by simpa using present) solid parted,
    List.map_cons, String.ofList_toList]
  rfl

theorem words_append_space (isWord : Tree.isWord word = true) (rest : String) :
    words (word ++ " " ++ rest) = word :: words rest := by
  have blank : Chars.isBlank ' ' = true := by decide
  have passed : words (" " ++ rest) = words rest := by
    rw [words, String.toList_append]
    exact congrArg (List.map String.ofList) (Chars.prependToWords_blank blank _ _)
  rw [String.append_assoc, words_append isWord (by simpa using blank), passed]

theorem words_of_isWord (isWord : Tree.isWord word = true) : words word = [word] := by
  have alone := words_append isWord (by simp : ∀ first ∈ "".toList.head?, _)
  rwa [String.append_empty] at alone

theorem words_intercalate {words : List String}
    (solid : ∀ word ∈ words, Tree.isWord word = true) :
    Text.words (" ".intercalate words) = words := by
  induction words with
  | nil => rfl
  | cons word others ih =>
      have first := solid word List.mem_cons_self
      cases others with
      | nil =>
          have single : " ".intercalate [word] = word := by simp
          rw [single, words_of_isWord first]
      | cons next others =>
          rw [String.intercalate_cons_cons, words_append_space first,
            ih fun other member => solid other (List.mem_cons_of_mem _ member)]

end Text

end MenuShell

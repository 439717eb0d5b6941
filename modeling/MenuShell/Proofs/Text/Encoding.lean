import Mathlib.Data.List.DropRight
import MenuShell.Text.Lines
import MenuShell.Text.Words

/-!
Writing lines and reading them back. A line comes back as it was if it has no newline inside and does
not end in a carriage return.
-/

namespace MenuShell

theorem pieces_separator {α : Type} [BEq α] [LawfulBEq α] {separator : α} {front : List α}
    (solid : separator ∉ front) (back : List α) :
    pieces separator (front ++ separator :: back) =
      (front ++ [separator]) :: pieces separator back := by
  induction front with
  | nil =>
      have step : pieces separator (separator :: back) =
          prependToPieces separator separator (pieces separator back) := rfl
      rw [List.nil_append, step, prependToPieces.eq_def, beq_self_eq_true]
      rfl
  | cons item front ih =>
      have other : (item == separator) = false := by
        rw [beq_eq_false_iff_ne]
        rintro rfl
        exact solid List.mem_cons_self
      have step : pieces separator (item :: front ++ separator :: back) =
          prependToPieces separator item (pieces separator (front ++ separator :: back)) := rfl
      rw [step, ih fun member => solid (List.mem_cons_of_mem _ member), prependToPieces.eq_def, other]
      rfl

namespace Text

theorem decode?_encode (text : String) : decode? (encode text) = some text := by
  have valid : ByteArray.IsValidUTF8 ⟨(encode text).toArray⟩ := text.isValidUTF8
  rw [decode?, String.fromUTF8?, dif_pos valid]
  rfl

structure IsLine (line : String) : Prop where
  solid : '\n' ∉ line.toList
  ending : line.toList.getLast? ≠ some '\r'

instance (line : String) : Decidable (IsLine line) :=
  decidable_of_iff ('\n' ∉ line.toList ∧ line.toList.getLast? ≠ some '\r')
    ⟨fun ⟨solid, ending⟩ => ⟨solid, ending⟩, fun ⟨solid, ending⟩ => ⟨solid, ending⟩⟩

theorem IsLine.stripNewline_eq {line : String} (isLine : IsLine line) :
    stripNewline (String.ofList (line.toList ++ ['\n'])) = line := by
  have ending := isLine.ending
  rw [← List.head?_reverse] at ending
  have reversed : (line.toList ++ ['\n']).reverse = '\n' :: line.toList.reverse := by simp
  rw [stripNewline, String.toList_ofList, reversed]
  split
  · rename_i rest same
    rw [(List.cons.inj same).2] at ending
    simp at ending
  · rename_i rest _ same
    rw [← (List.cons.inj same).2]
    simp
  · rename_i other
    exact absurd rfl (other _)

theorem IsLine.lines_append {line : String} (isLine : IsLine line) (rest : String) :
    lines (line ++ "\n" ++ rest) = line :: lines rest := by
  have cut : (line ++ "\n" ++ rest).toList = line.toList ++ '\n' :: rest.toList := by simp
  rw [lines, cut, pieces_separator isLine.solid, List.map_cons, isLine.stripNewline_eq]
  rfl

theorem isLine_trim {line : String} (solid : '\n' ∉ line.toList) : IsLine (trim line) where
  solid := by
    rw [trim, String.toList_ofList]
    intro member
    have started : '\n' ∈ Chars.trimStart line.toList :=
      (List.rdropWhile_prefix Chars.isBlank _).subset member
    exact solid ((List.dropWhile_suffix Chars.isBlank).subset started)
  ending := by
    -- A carriage return is white space, so none is left at the end.
    rw [trim, String.toList_ofList]
    intro last
    have reversed : (Chars.trim line.toList).reverse =
        (Chars.trimStart line.toList).reverse.dropWhile Chars.isBlank :=
      List.reverse_reverse _
    rw [← List.head?_reverse, reversed] at last
    have visible := List.head?_dropWhile_not Chars.isBlank (Chars.trimStart line.toList).reverse
    rw [last] at visible
    simp [Chars.isBlank] at visible

end Text

end MenuShell

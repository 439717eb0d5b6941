import Mathlib.Data.List.Induction
import Mathlib.Data.Nat.Digits.Defs
import MenuShell.Commands.Number

/-!
Numbers as they are typed. The text is read to the end: a sign, if there is one, then ASCII digits and
nothing else; and the value has to fit a machine word.
-/

namespace MenuShell

namespace Number

variable {text : String} {chars digits : List Char} {value : Int}

def digitOf (digit : Char) : Nat :=
  digit.toNat - '0'.toNat

structure Numeral (digits : List Char) (value : Nat) : Prop where
  present : digits ≠ []
  ascii : ∀ digit ∈ digits, '0' ≤ digit ∧ digit ≤ '9'
  value : value = Nat.ofDigits 10 (digits.reverse.map digitOf)

inductive Denotes : String → Int → Prop
  | plain {digits : List Char} {value : Nat} : Numeral digits value →
      Denotes (String.ofList digits) value
  | plus {digits : List Char} {value : Nat} : Numeral digits value →
      Denotes (String.ofList ('+' :: digits)) value
  | minus {digits : List Char} {value : Nat} : Numeral digits value →
      Denotes (String.ofList ('-' :: digits)) (-value)

theorem digitsValue_eq (digits : List Char) :
    digitsValue digits = Nat.ofDigits 10 (digits.reverse.map digitOf) := by
  induction digits using List.reverseRecOn with
  | nil => rfl
  | append_singleton digits digit ih =>
      rw [digitsValue, List.foldl_append, ← digitsValue, ih, List.reverse_append, List.map_append,
        List.reverse_singleton, List.map_singleton, List.singleton_append, Nat.ofDigits_cons,
        List.foldl_cons, List.foldl_nil, Nat.add_comm]
      rfl

theorem isDigit_iff {digit : Char} : digit.isDigit = true ↔ '0' ≤ digit ∧ digit ≤ '9' := by
  rw [Char.isDigit, Bool.and_eq_true, decide_eq_true_eq, decide_eq_true_eq]
  rfl

theorem isDigits_iff :
    isDigits digits = true ↔ digits ≠ [] ∧ ∀ digit ∈ digits, '0' ≤ digit ∧ digit ≤ '9' := by
  simp [isDigits, isDigit_iff]

theorem natural?_eq_some_iff {value : Nat} :
    natural? digits = some value ↔ Numeral digits value := by
  rw [natural?]
  split
  · rename_i valid
    obtain ⟨present, ascii⟩ := isDigits_iff.mp valid
    rw [Option.some.injEq, digitsValue_eq]
    exact ⟨fun same => ⟨present, ascii, same.symm⟩, fun numeral => numeral.value.symm⟩
  · rename_i invalid
    refine iff_of_false (by simp) fun numeral => invalid ?_
    exact isDigits_iff.mpr ⟨numeral.present, numeral.ascii⟩

theorem Numeral.integer?_eq {value : Nat} (numeral : Numeral digits value) :
    integer? digits = some (value : Int) := by
  have read := natural?_eq_some_iff.mpr numeral
  unfold integer?
  -- A numeral does not begin with a sign.
  split
  · exact absurd (numeral.ascii '+' List.mem_cons_self) (by decide)
  · exact absurd (numeral.ascii '-' List.mem_cons_self) (by decide)
  · rw [read]
    rfl

theorem integer?_eq_some_iff : integer? text.toList = some value ↔ Denotes text value := by
  constructor
  · intro read
    rw [← String.ofList_toList (s := text)]
    generalize text.toList = chars at read
    unfold integer? at read
    split at read
    all_goals
      obtain ⟨magnitude, digits, rfl⟩ := Option.map_eq_some_iff.mp read
      rw [natural?_eq_some_iff] at digits
    · exact .plus digits
    · exact .minus digits
    · exact .plain digits
  · rintro (numeral | numeral | numeral)
    · rw [String.toList_ofList, numeral.integer?_eq]
    · rw [String.toList_ofList, integer?, natural?_eq_some_iff.mpr numeral]
      rfl
    · rw [String.toList_ofList, integer?, natural?_eq_some_iff.mpr numeral]
      rfl

theorem word?_eq_some_iff :
    word? text = some value ↔ Denotes text value ∧ -2 ^ 63 ≤ value ∧ value < 2 ^ 63 := by
  rw [word?, Option.filter_eq_some_iff, integer?_eq_some_iff, Bool.and_eq_true, decide_eq_true_eq,
    decide_eq_true_eq]
  rfl

theorem foldl_ofInt (numbers : List Int) :
    numbers.foldl (fun total number => total + Int64.ofInt number) 0 = Int64.ofInt numbers.sum := by
  induction numbers using List.reverseRecOn with
  | nil => rfl
  | append_singleton numbers number ih =>
      rw [List.foldl_append, ih, List.sum_append, List.sum_singleton, Int64.ofInt_add]
      rfl

end Number

end MenuShell

import MenuShell.Comparison

/-!
Lower case and the beginnings of a text. Every character but one is put into lower case by itself, so
that the lower case of a beginning begins the lower case of the text. The exception is the capital
sigma: where a text is cut behind one in the middle of a word, the front ends in a final sigma that the
whole text does not have.
-/

namespace MenuShell

namespace LetterCase

/-- A capital sigma ends a word in the front, with ignorable characters behind it at most, but not
in the text that the rest completes. -/
def severs (front rest : List Char) : Bool :=
  match front.reverse.dropWhile isIgnorable with
  | 'Σ' :: before => meetsCased before && meetsCased rest
  | _ => false

theorem meetsCased_append (first second : List Char) :
    meetsCased (first ++ second) =
      if first.all isIgnorable then meetsCased second else meetsCased first := by
  induction first with
  | nil => rfl
  | cons char first ih =>
      by_cases ignorable : isIgnorable char = true
      · simpa [meetsCased, ignorable] using ih
      · simp [meetsCased, ignorable]

theorem meetsCased_of_all_ignorable {text : List Char} (ignorable : text.all isIgnorable = true) :
    meetsCased text = false := by
  have meets := meetsCased_append text []
  rw [List.append_nil, if_pos ignorable] at meets
  exact meets

theorem lowerSigma_append_iff (before tail rest : List Char) :
    lowerSigma before tail = lowerSigma before (tail ++ rest) ↔
      ¬ (meetsCased before = true ∧ tail.all isIgnorable = true ∧ meetsCased rest = true) := by
  rw [lowerSigma, lowerSigma, meetsCased_append]
  by_cases ignorable : tail.all isIgnorable = true
  · rw [if_pos ignorable, meetsCased_of_all_ignorable ignorable]
    cases meetsCased before <;> cases meetsCased rest <;> simp [ignorable]
  · simp [ignorable]

theorem lowerAfter_prefix_iff (before front rest : List Char) :
    lowerAfter before front <+: lowerAfter before (front ++ rest) ↔
      ∀ head tail, front = head ++ 'Σ' :: tail →
        lowerSigma (head.reverse ++ before) tail =
          lowerSigma (head.reverse ++ before) (tail ++ rest) := by
  induction front generalizing before with
  | nil => simp [lowerAfter]
  | cons char front ih =>
      rw [List.cons_append, lowerAfter, lowerAfter]
      by_cases sigma : char = 'Σ'
      · subst char
        rw [if_pos rfl, if_pos rfl, List.singleton_append, List.singleton_append,
          List.cons_prefix_cons, ih]
        constructor
        · rintro ⟨same, later⟩ head tail parts
          cases head with
          | nil =>
              obtain ⟨-, rfl⟩ := List.cons.inj parts
              exact same
          | cons first head =>
              obtain ⟨rfl, others⟩ := List.cons.inj parts
              simpa using later head tail others
        · intro all
          refine ⟨all [] front rfl, ?_⟩
          rintro head tail rfl
          simpa using all ('Σ' :: head) tail rfl
      · rw [if_neg sigma, if_neg sigma, List.prefix_append_right_inj, ih]
        constructor
        · intro later head tail parts
          cases head with
          | nil => exact absurd (List.cons.inj parts).1 sigma
          | cons first head =>
              obtain ⟨rfl, others⟩ := List.cons.inj parts
              simpa using later head tail others
        · rintro all head tail rfl
          simpa using all (char :: head) tail rfl

theorem severs_iff (front rest : List Char) :
    severs front rest = true ↔
      ∃ head tail, front = head ++ 'Σ' :: tail ∧ meetsCased head.reverse = true ∧
        tail.all isIgnorable = true ∧ meetsCased rest = true := by
  have visible : isIgnorable 'Σ' = false := by decide +kernel
  constructor
  · intro severed
    unfold severs at severed
    split at severed
    · rename_i before reached
      rw [Bool.and_eq_true] at severed
      refine ⟨before.reverse, (front.reverse.takeWhile isIgnorable).reverse, ?_, ?_, ?_, severed.2⟩
      · have whole := List.takeWhile_append_dropWhile (p := isIgnorable) (l := front.reverse)
        rw [reached, ← List.reverse_inj] at whole
        simpa using whole.symm
      · simpa using severed.1
      · rw [List.all_reverse]
        exact List.all_takeWhile
    · exact absurd severed Bool.false_ne_true
  · rintro ⟨head, tail, rfl, cased, ignorable, met⟩
    have passed : (head ++ 'Σ' :: tail).reverse.dropWhile isIgnorable = 'Σ' :: head.reverse := by
      rw [List.reverse_append, List.reverse_cons, List.append_assoc,
        List.dropWhile_append_of_pos (by simpa using ignorable)]
      simp [visible]
    rw [severs, passed]
    simp [cased, met]

theorem lowerChar_ne_nil (char : Char) : lowerChar char ≠ [] := by
  unfold lowerChar
  dsimp only
  split
  · simp
  · split <;> simp

theorem length_lowerAfter_append (before first second : List Char) :
    (lowerAfter before (first ++ second)).length =
      (lowerAfter before first).length + (lowerAfter (first.reverse ++ before) second).length := by
  induction first generalizing before with
  | nil => simp [lowerAfter]
  | cons char first ih =>
      rw [List.cons_append, lowerAfter, lowerAfter, List.length_append, List.length_append, ih]
      by_cases sigma : char = 'Σ'
      · simp [sigma, Nat.add_assoc]
      · simp [sigma, Nat.add_assoc]

theorem lowerAfter_eq_nil {before text : List Char} (none : lowerAfter before text = []) :
    text = [] := by
  cases text with
  | nil => rfl
  | cons char text =>
      rw [lowerAfter, List.append_eq_nil_iff] at none
      by_cases sigma : char = 'Σ'
      · simp [sigma] at none
      · rw [if_neg sigma] at none
        exact absurd none.1 (lowerChar_ne_nil char)

end LetterCase

namespace Chars

/-- A beginning still begins the text in lower case, unless it has been cut off inside a word behind
a sigma. -/
theorem lower_prefix_iff (front rest : List Char) :
    lower front <+: lower (front ++ rest) ↔ LetterCase.severs front rest = false := by
  rw [lower, lower, LetterCase.lowerAfter_prefix_iff, ← Bool.not_eq_true,
    LetterCase.severs_iff]
  constructor
  · rintro all ⟨head, tail, rfl, cased, ignorable, met⟩
    have same := all head tail rfl
    rw [List.append_nil, LetterCase.lowerSigma_append_iff] at same
    exact same ⟨cased, ignorable, met⟩
  · rintro unsevered head tail rfl
    rw [List.append_nil, LetterCase.lowerSigma_append_iff]
    rintro ⟨cased, ignorable, met⟩
    exact unsevered ⟨head, tail, rfl, cased, ignorable, met⟩

theorem length_lower_le (front rest : List Char) :
    (lower front).length ≤ (lower (front ++ rest)).length := by
  rw [lower, lower, LetterCase.length_lowerAfter_append]
  omega

theorem eq_nil_of_lower_eq {front rest : List Char} (same : lower (front ++ rest) = lower front) :
    rest = [] := by
  have length := congrArg List.length same
  rw [lower, lower, LetterCase.length_lowerAfter_append] at length
  have none : (LetterCase.lowerAfter (front.reverse ++ []) rest).length = 0 := by omega
  exact LetterCase.lowerAfter_eq_nil (List.length_eq_zero_iff.mp none)

end Chars

namespace Comparison

def severs : Comparison → List Char → List Char → Bool
  | .sensitive, _, _ => false
  | .insensitive, front, rest => LetterCase.severs front rest

theorem begins_append_iff (mode : Comparison) (front rest : String) :
    mode.begins (front ++ rest) front = true ↔ mode.severs front.toList rest.toList = false := by
  cases mode with
  | sensitive => simp [begins, key, severs]
  | insensitive =>
      rw [severs, ← Chars.lower_prefix_iff]
      simp [begins, key, Text.lower]

theorem length_key_le (mode : Comparison) (front rest : String) :
    (mode.key front).toList.length ≤ (mode.key (front ++ rest)).toList.length := by
  cases mode with
  | sensitive => simp [key]
  | insensitive =>
      have length := Chars.length_lower_le front.toList rest.toList
      simpa [key, Text.lower] using length

theorem eq_empty_of_same_append {mode : Comparison} {front rest : String}
    (same : mode.same (front ++ rest) front = true) : rest = "" := by
  cases mode with
  | sensitive =>
      have whole : front ++ rest = front := by simpa [Comparison.same, key] using same
      have length := congrArg String.length whole
      rw [String.length_append] at length
      exact String.length_eq_zero_iff.mp (by omega)
  | insensitive =>
      have whole : Text.lower (front ++ rest) = Text.lower front := by
        simpa [Comparison.same, key] using same
      have lowered : Chars.lower (front.toList ++ rest.toList) = Chars.lower front.toList := by
        have texts := congrArg String.toList whole
        simpa [Text.lower] using texts
      have none := Chars.eq_nil_of_lower_eq lowered
      simpa using none

end Comparison

end MenuShell

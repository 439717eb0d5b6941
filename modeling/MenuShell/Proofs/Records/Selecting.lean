import Mathlib.Data.String.Basic
import Mathlib.Order.Bounds.Basic
import MenuShell.Proofs.Records.Keeping

/-!
Which name is meant. Among sorted names the first that fits is the least of all that do, so the choice
rests on the set of the names alone.
-/

namespace MenuShell

theorem find?_eq_some_iff_isLeast {Item : Type} [PartialOrder Item] {items : List Item} {item : Item}
    {accepts : Item → Bool} (sorted : items.Pairwise (· ≤ ·)) :
    items.find? accepts = some item ↔
      IsLeast {other | other ∈ items ∧ accepts other = true} item := by
  induction items with
  | nil => simp [IsLeast]
  | cons first others ih =>
      obtain ⟨below, rest⟩ := List.pairwise_cons.mp sorted
      by_cases accepted : accepts first = true
      · have least : IsLeast {other | other ∈ first :: others ∧ accepts other = true} first := by
          refine ⟨⟨List.mem_cons_self, accepted⟩, ?_⟩
          rintro other ⟨member, -⟩
          rcases List.mem_cons.mp member with rfl | later
          · exact le_rfl
          · exact below other later
        rw [List.find?_cons_of_pos accepted]
        constructor
        · rintro ⟨⟩
          exact least
        · intro also
          rw [least.unique also]
      · have same : {other | other ∈ first :: others ∧ accepts other = true} =
            {other | other ∈ others ∧ accepts other = true} := by
          ext other
          constructor
          · rintro ⟨member, ok⟩
            rcases List.mem_cons.mp member with rfl | later
            · exact absurd ok accepted
            · exact ⟨later, ok⟩
          · rintro ⟨later, ok⟩
            exact ⟨List.mem_cons_of_mem _ later, ok⟩
        rw [List.find?_cons_of_neg accepted, ih rest, same]

theorem sortTexts_pairwise (texts : List String) : (sortTexts texts).Pairwise (· ≤ ·) := by
  have sorted : (sortTexts texts).Pairwise fun left right => decide (left ≤ right) = true :=
    sortBy_pairwise (by simpa using le_total) (by simpa using fun _ _ _ => le_trans) texts
  simpa using sorted

theorem mem_sortTexts {text : String} {texts : List String} :
    text ∈ sortTexts texts ↔ text ∈ texts :=
  mem_sortBy

namespace RecordName

variable {names : List String} {name wanted : String}

theorem isInfixOf_iff (part whole : List Char) : isInfixOf part whole = true ↔ part <:+: whole := by
  induction whole with
  | nil => simp [isInfixOf]
  | cons char rest ih =>
      rw [isInfixOf, Bool.or_eq_true, List.isPrefixOf_iff_prefix, ih, List.infix_cons_iff]

def Begins (wanted name : String) : Prop :=
  (Text.lower wanted).toList <+: (Text.lower name).toList

def Contains (wanted name : String) : Prop :=
  wanted.toList <:+: name.toList

theorem startsLike_iff : startsLike name wanted = true ↔ Begins wanted name :=
  List.isPrefixOf_iff_prefix

theorem contains_iff : contains name wanted = true ↔ Contains wanted name :=
  isInfixOf_iff _ _

/-- The stored name that a wanted one refers to. Names are in the order of their characters. -/
inductive Refers (stored : String → Prop) (wanted : String) : String → Prop
  | exact : stored wanted → Refers stored wanted wanted
  | beginning {name : String} : ¬stored wanted →
      IsLeast {other | stored other ∧ Begins wanted other} name → Refers stored wanted name
  | part {name : String} : ¬stored wanted → (∀ other, stored other → ¬Begins wanted other) →
      IsLeast {other | stored other ∧ Contains wanted other} name → Refers stored wanted name

def Qualifies (wanted name : String) : Prop :=
  name = wanted ∨ Begins wanted name ∨ Contains wanted name

theorem Refers.mem {stored : String → Prop} (refers : Refers stored wanted name) : stored name := by
  cases refers with
  | exact there => exact there
  | beginning _ least => exact least.1.1
  | part _ _ least => exact least.1.1

theorem select?_eq_some_iff (sorted : names.Pairwise (· ≤ ·)) :
    select? names wanted = some name ↔ Refers (· ∈ names) wanted name := by
  have first : names.find? (startsLike · wanted) = some name ↔ _ :=
    find?_eq_some_iff_isLeast sorted
  have second : names.find? (contains · wanted) = some name ↔ _ :=
    find?_eq_some_iff_isLeast sorted
  simp only [startsLike_iff, contains_iff] at first second
  by_cases there : wanted ∈ names
  · rw [select?_of_mem there]
    constructor
    · rintro ⟨⟩
      exact .exact there
    · intro refers
      cases refers with
      | exact => rfl
      | beginning missing => exact absurd there missing
      | part missing => exact absurd there missing
  · rw [select?, if_neg (by simpa using there), Option.or_eq_some_iff, first, second,
      List.find?_eq_none]
    simp only [startsLike_iff]
    constructor
    · rintro (least | ⟨none, least⟩)
      · exact .beginning there least
      · exact .part there none least
    · intro refers
      cases refers with
      | exact stored => exact absurd stored there
      | beginning _ least => exact .inl least
      | part _ none least => exact .inr ⟨none, least⟩

theorem select?_eq_none_iff :
    select? names wanted = none ↔ ∀ name ∈ names, ¬Qualifies wanted name := by
  by_cases there : wanted ∈ names
  · rw [select?_of_mem there]
    constructor
    · rintro ⟨⟩
    · intro none
      exact absurd (.inl rfl) (none wanted there)
  · rw [select?, if_neg (by simpa using there), Option.or_eq_none_iff, List.find?_eq_none,
      List.find?_eq_none]
    simp only [startsLike_iff, contains_iff, Qualifies, not_or]
    constructor
    · rintro ⟨first, second⟩ name member
      refine ⟨?_, first name member, second name member⟩
      rintro rfl
      exact there member
    · intro none
      exact ⟨fun name member => (none name member).2.1, fun name member => (none name member).2.2⟩

theorem select?_congr {others : List String} (sorted : names.Pairwise (· ≤ ·))
    (alsoSorted : others.Pairwise (· ≤ ·)) (same : ∀ name, name ∈ names ↔ name ∈ others)
    (wanted : String) :
    select? names wanted = select? others wanted := by
  apply Option.ext
  intro name
  have stored : (· ∈ names) = (· ∈ others) := funext fun name => propext (same name)
  rw [select?_eq_some_iff sorted, select?_eq_some_iff alsoSorted, stored]

end RecordName

end MenuShell

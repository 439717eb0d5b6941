/-!
Sorting by insertion. Items that are equal in the order keep their places among each other.
-/

namespace MenuShell

variable {Item : Type}

def insertBy (le : Item → Item → Bool) (item : Item) : List Item → List Item
  | [] => [item]
  | next :: others =>
    if le item next then item :: next :: others else next :: insertBy le item others

def sortBy (le : Item → Item → Bool) (items : List Item) : List Item :=
  items.foldr (insertBy le) []

theorem insertBy_perm (le : Item → Item → Bool) (item : Item) (items : List Item) :
    (insertBy le item items).Perm (item :: items) := by
  induction items with
  | nil => exact .refl _
  | cons next others ih =>
    rw [insertBy]
    split
    · exact .refl _
    · exact (ih.cons next).trans (.swap item next others)

theorem sortBy_perm (le : Item → Item → Bool) (items : List Item) :
    (sortBy le items).Perm items := by
  induction items with
  | nil => exact .refl _
  | cons item others ih => exact (insertBy_perm le item _).trans (ih.cons item)

theorem mem_sortBy {le : Item → Item → Bool} {item : Item} {items : List Item} :
    item ∈ sortBy le items ↔ item ∈ items :=
  (sortBy_perm le items).mem_iff

theorem insertBy_pairwise {le : Item → Item → Bool}
    (total : ∀ left right, le left right = true ∨ le right left = true)
    (transitive : ∀ left middle right, le left middle = true → le middle right = true →
      le left right = true)
    (item : Item) (items : List Item) (sorted : items.Pairwise fun left right => le left right) :
    (insertBy le item items).Pairwise fun left right => le left right := by
  induction items with
  | nil => exact List.pairwise_singleton _ _
  | cons next others ih =>
    have ⟨below, rest⟩ := List.pairwise_cons.1 sorted
    rw [insertBy]
    split
    case isTrue before =>
      refine List.pairwise_cons.2 ⟨fun other member => ?_, sorted⟩
      rcases List.mem_cons.1 member with rfl | later
      · exact before
      · exact transitive _ _ _ before (below other later)
    case isFalse after =>
      refine List.pairwise_cons.2 ⟨fun other member => ?_, ih rest⟩
      rcases List.mem_cons.1 ((insertBy_perm le item others).mem_iff.1 member) with rfl | later
      · exact (total other next).resolve_left after
      · exact below other later

theorem sortBy_pairwise {le : Item → Item → Bool}
    (total : ∀ left right, le left right = true ∨ le right left = true)
    (transitive : ∀ left middle right, le left middle = true → le middle right = true →
      le left right = true)
    (items : List Item) : (sortBy le items).Pairwise fun left right => le left right := by
  induction items with
  | nil => exact .nil
  | cons item others ih => exact insertBy_pairwise total transitive item _ ih

theorem insertBy_congr {le other : Item → Item → Bool} {item : Item} {items : List Item}
    (same : ∀ next ∈ items, le item next = other item next) :
    insertBy le item items = insertBy other item items := by
  induction items with
  | nil => rfl
  | cons next others ih =>
    rw [insertBy, insertBy, same next List.mem_cons_self,
      ih fun later member => same later (List.mem_cons_of_mem _ member)]

theorem sortBy_congr {le other : Item → Item → Bool} {items : List Item}
    (same : ∀ left ∈ items, ∀ right ∈ items, le left right = other left right) :
    sortBy le items = sortBy other items := by
  induction items with
  | nil => rfl
  | cons item others ih =>
    have sorted : sortBy le others = sortBy other others :=
      ih fun left leftMember right rightMember =>
        same left (List.mem_cons_of_mem _ leftMember) right (List.mem_cons_of_mem _ rightMember)
    simp only [sortBy, List.foldr_cons]
    rw [← sortBy, ← sortBy, sorted]
    apply insertBy_congr
    intro next member
    exact same item List.mem_cons_self next (List.mem_cons_of_mem _ (mem_sortBy.1 member))

def sortTexts (texts : List String) : List String :=
  sortBy (fun left right => decide (left ≤ right)) texts

end MenuShell

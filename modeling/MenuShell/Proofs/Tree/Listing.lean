import MenuShell.Proofs.Text.Spacing
import MenuShell.Proofs.Tree.Advice

/-!
The rows of a menu's list. Every visible child has one, in strict order, and the abbreviation in it is
the shortest beginning of the selector that means the child, left out if it would save less than two
characters. Whatever abbreviation is shown can be typed and means the child in whose row it stands.
-/

namespace MenuShell

namespace Tree

variable {Action : Type} {tree : Tree Action} {menu id other : NodeId} {mode : Comparison}
  {word short text : String}

theorem mem_beginnings : short ∈ beginnings word ↔ short ≠ "" ∧ ∃ rest, word = short ++ rest := by
  rw [beginnings, List.mem_map]
  constructor
  · rintro ⟨index, inside, rfl⟩
    rw [List.mem_range] at inside
    refine ⟨?_, String.ofList (word.toList.drop (index + 1)), ?_⟩
    · intro none
      have length := congrArg String.length none
      rw [String.length_ofList, List.length_take, String.length_toList, String.length_empty]
        at length
      omega
    · rw [← String.ofList_append, List.take_append_drop, String.ofList_toList]
  · rintro ⟨some, rest, rfl⟩
    have present : short.length ≠ 0 := mt String.length_eq_zero_iff.mp some
    refine ⟨short.length - 1, ?_, ?_⟩
    · rw [List.mem_range, String.length_append]
      omega
    · rw [Nat.sub_add_cancel (Nat.pos_of_ne_zero present), String.toList_append,
        ← String.length_toList, List.take_left, String.ofList_toList]

theorem beginnings_pairwise (word : String) :
    (beginnings word).Pairwise fun shorter longer => shorter.length < longer.length := by
  rw [beginnings, List.pairwise_map]
  refine List.pairwise_lt_range.imp_of_mem ?_
  intro first second firstInside secondInside before
  rw [List.mem_range, ← String.length_toList] at firstInside secondInside
  simp
  omega

structure IsShortest (tree : Tree Action) (mode : Comparison) (menu id : NodeId) (short : String) :
    Prop where
  present : short ≠ ""
  begins : ∃ rest, tree.selector id = short ++ rest
  means : tree.resolveNamed menu short mode = .ok id
  least : ∀ other rest, other ≠ "" → tree.selector id = other ++ rest →
    tree.resolveNamed menu other mode = .ok id → short.length ≤ other.length

theorem IsShortest.unique (first : tree.IsShortest mode menu id short)
    (second : tree.IsShortest mode menu id text) : short = text := by
  obtain ⟨rest, begun⟩ := first.begins
  obtain ⟨others, alike⟩ := second.begins
  have length : short.length = text.length :=
    Nat.le_antisymm (first.least text others second.present alike second.means)
      (second.least short rest first.present begun first.means)
  have same := congrArg String.toList (begun.symm.trans alike)
  rw [String.toList_append, String.toList_append] at same
  refine String.toList_inj.mp (List.append_inj_left same ?_)
  rw [String.length_toList, String.length_toList, length]

theorem isShortest_of_shortestMeaning? (found : tree.shortestMeaning? menu id mode = some short) :
    tree.IsShortest mode menu id short := by
  obtain ⟨means, shorter, longer, parts, none⟩ := List.find?_eq_some_iff_append.mp found
  have member : short ∈ beginnings (tree.selector id) := by simp [parts]
  obtain ⟨present, begins⟩ := mem_beginnings.mp member
  refine ⟨present, begins, resolveNamed_eq_ok_iff.mpr (by simpa using means), ?_⟩
  intro other rest some begun alsoMeans
  have among : other ∈ beginnings (tree.selector id) := mem_beginnings.mpr ⟨some, rest, begun⟩
  have ordered := beginnings_pairwise (tree.selector id)
  rw [parts] at among ordered
  rcases List.mem_append.mp among with before | behind
  · simpa [resolveNamed_eq_ok_iff.mp alsoMeans] using none other before
  · rcases List.mem_cons.mp behind with rfl | later
    · exact Nat.le_refl _
    · have tail := (List.pairwise_append.mp ordered).2.1
      exact Nat.le_of_lt ((List.pairwise_cons.mp tail).1 other later)

theorem shortestMeaning?_eq_some_iff :
    tree.shortestMeaning? menu id mode = some short ↔ tree.IsShortest mode menu id short := by
  constructor
  · exact isShortest_of_shortestMeaning?
  · intro shortest
    obtain ⟨rest, begun⟩ := shortest.begins
    have means := resolveNamed_eq_ok_iff.mp shortest.means
    cases found : tree.shortestMeaning? menu id mode with
    | none =>
        have member := mem_beginnings.mpr ⟨shortest.present, rest, begun⟩
        have all := List.find?_eq_none.mp found short member
        simp [means] at all
    | some first => rw [(isShortest_of_shortestMeaning? found).unique shortest]

theorem exists_isShortest (named : tree.selector id ≠ "")
    (means : tree.resolveNamed menu (tree.selector id) mode = .ok id) :
    ∃ short, tree.IsShortest mode menu id short := by
  cases found : tree.shortestMeaning? menu id mode with
  | some short => exact ⟨short, shortestMeaning?_eq_some_iff.mp found⟩
  | none =>
      have member : tree.selector id ∈ beginnings (tree.selector id) :=
        mem_beginnings.mpr ⟨named, "", (String.append_empty).symm⟩
      have all := List.find?_eq_none.mp found _ member
      simp [resolveNamed_eq_ok_iff.mp means] at all

theorem abbreviation?_eq_some_iff :
    tree.abbreviation? menu id mode = some short ↔
      tree.IsShortest mode menu id short ∧ short.length < (tree.selector id).length - 1 := by
  rw [abbreviation?, Option.filter_eq_some_iff, shortestMeaning?_eq_some_iff, decide_eq_true_eq]
  refine and_congr_right fun _ => ?_
  omega

theorem isWord_of_append {rest : String} (isWord : Tree.isWord (short ++ rest) = true)
    (present : short ≠ "") : Tree.isWord short = true := by
  obtain ⟨-, solid⟩ := isWord_iff.mp isWord
  refine isWord_iff.mpr ⟨present, fun char member => solid char ?_⟩
  rw [String.toList_append]
  exact List.mem_append_left _ member

theorem Reachable.isWord_of_abbreviation (reachable : tree.Reachable)
    (visible : id ∈ tree.visibleChildren menu)
    (shown : tree.abbreviation? menu id mode = some short) : isWord short = true := by
  have shortest := (abbreviation?_eq_some_iff.mp shown).1
  obtain ⟨rest, begun⟩ := shortest.begins
  exact isWord_of_append (begun ▸ (reachable.selector_of_visible visible).2) shortest.present

theorem candidates_of_abbreviation (shown : tree.abbreviation? menu id mode = some short) :
    tree.candidates menu short mode = [id] :=
  resolveNamed_eq_ok_iff.mp (abbreviation?_eq_some_iff.mp shown).1.means

theorem not_same_of_candidates (means : tree.candidates menu word mode = [id])
    (visible : other ∈ tree.visibleChildren menu) (different : other ≠ id) :
    mode.same (tree.selector other) word = false := by
  rw [← Bool.not_eq_true]
  intro same
  have member : other ∈ tree.candidates menu word mode := mem_candidates.mpr (.inl ⟨visible, same⟩)
  rw [means, List.mem_singleton] at member
  exact different member

theorem nodup_abbreviations (distinct : (tree.visibleChildren menu).Nodup) :
    ((tree.abbreviations menu mode).filterMap Prod.snd).Nodup := by
  rw [abbreviations, List.filterMap_map]
  refine ((sortBy_perm _ _).nodup_iff.mpr distinct).filterMap ?_
  intro first second short shown alsoShown
  have means := (candidates_of_abbreviation shown).symm.trans (candidates_of_abbreviation alsoShown)
  exact List.singleton_inj.mp means

/-- In the list of a menu every visible child has one row, in strict order. Where the selector of a
child means the child, its abbreviation is the shortest beginning that does, if that is shorter by two
characters at least. A line that begins with an abbreviation goes to the child in whose row it is
shown; it is shown in no other row and is no other child's selector. -/
theorem list_shows_shortest_meanings (reachable : tree.Reachable) (menu : NodeId)
    (mode : Comparison) :
    (∃ order : List NodeId, order.Perm (tree.visibleChildren menu) ∧ order.Nodup ∧
      tree.abbreviations menu mode =
        order.map (fun id => (tree.selector id, tree.abbreviation? menu id mode)) ∧
      (order.map tree.selector).Pairwise SelectorBefore) ∧
    ((tree.abbreviations menu mode).filterMap Prod.snd).Nodup ∧
    ∀ id ∈ tree.visibleChildren menu,
      (root ∈ tree.lineage menu → mode = tree.comparison menu →
        tree.resolveNamed menu (tree.selector id) mode = .ok id) ∧
      (tree.resolveNamed menu (tree.selector id) mode = .ok id →
        ∃ short, tree.IsShortest mode menu id short ∧ tree.abbreviation? menu id mode =
          if short.length < (tree.selector id).length - 1 then some short else none) ∧
      ∀ short, tree.abbreviation? menu id mode = some short →
        (∀ lead rest : String, Text.isBlank lead = true →
          (∀ first ∈ rest.toList.head?, Chars.isBlank first = true) →
          tree.resolve menu (Text.splitFirstWord (lead ++ short ++ rest)).1 mode =
            .ok (.named id)) ∧
        ∀ other ∈ tree.visibleChildren menu, other ≠ id →
          mode.same (tree.selector other) short = false := by
  have distinct : (tree.visibleChildren menu).Nodup := (reachable.forest.nodup menu).filter _
  refine ⟨?_, nodup_abbreviations distinct, fun id visible => ⟨?_, ?_, ?_⟩⟩
  · refine ⟨tree.sortBySelector (tree.visibleChildren menu), sortBy_perm _ _,
      (sortBy_perm _ _).nodup_iff.mpr distinct, rfl, ?_⟩
    exact sortBySelector_order (reachable.distinct.spelled menu) distinct
      fun child => mem_children_of_visible
  · rintro connected rfl
    exact resolveNamed_eq_ok_iff.mpr (reachable.candidates_selector connected visible)
  · intro means
    have named : tree.selector id ≠ "" :=
      (isWord_iff.mp (reachable.selector_of_visible visible).2).1
    obtain ⟨short, shortest⟩ := exists_isShortest named means
    refine ⟨short, shortest, ?_⟩
    split
    · rename_i saves
      exact abbreviation?_eq_some_iff.mpr ⟨shortest, saves⟩
    · rename_i long
      rw [Option.eq_none_iff_forall_ne_some]
      intro text shown
      obtain ⟨alsoShortest, saves⟩ := abbreviation?_eq_some_iff.mp shown
      exact long (shortest.unique alsoShortest ▸ saves)
  · intro short shown
    have means := candidates_of_abbreviation shown
    refine ⟨?_, fun other sibling => not_same_of_candidates means sibling⟩
    intro lead rest blank parted
    have typed : (Text.splitFirstWord (lead ++ short ++ rest)).1 = short := by
      rw [String.append_assoc, ← Text.splitFirstWord_trim, Text.trim_blanks_append blank,
        Text.splitFirstWord_trim,
        Text.splitFirstWord_append (reachable.isWord_of_abbreviation visible shown) parted]
    rw [typed, resolve_eq_named_iff, means]

theorem list_shows_shortest_meanings_of_nested_words :
    let tree := (empty .insensitive : Tree Unit).applyAll
      [.add 0 (.leaf "Go" ()), .add 0 (.leaf "address" ()), .add 0 (.leaf "add" ())]
    tree.abbreviations 0 .insensitive = [("add", none), ("address", some "addr"), ("Go", none)] ∧
      tree.resolve 0 (Text.splitFirstWord "  addr \t x").1 .insensitive = .ok (.named 2) ∧
      Comparison.insensitive.same "add" "addr" = false ∧
      ∃ short, tree.IsShortest .insensitive 0 1 short ∧
        tree.abbreviation? 0 1 .insensitive = if short.length < 1 then some short else none := by
  intro tree
  have reachable : tree.Reachable := ⟨.insensitive, Reaches.refl.applyAll (by decide)⟩
  obtain ⟨-, -, rows⟩ := list_shows_shortest_meanings reachable 0 .insensitive
  have shown : tree.abbreviation? 0 2 .insensitive = some "addr" := by decide +kernel
  obtain ⟨typed, others⟩ := (rows 2 (by decide)).2.2 "addr" shown
  have selector : tree.selector 1 = "Go" := by decide
  have sibling : tree.selector 3 = "add" := by decide
  refine ⟨by decide +kernel, ?_, ?_, ?_⟩
  · refine typed "  " " \t x" (by decide) fun first front => ?_
    obtain rfl : ' ' = first := Option.some.inj front
    decide
  · exact sibling ▸ others 3 (by decide) (by decide)
  · obtain ⟨full, shortest, -⟩ := rows 1 (by decide)
    have cut := shortest (full (by decide) (by decide))
    rwa [selector] at cut

end Tree

end MenuShell

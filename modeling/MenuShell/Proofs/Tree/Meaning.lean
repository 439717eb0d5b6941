import Mathlib.Data.String.Basic
import MenuShell.Proofs.Tree.Siblings
import MenuShell.Tree.Resolve

/-!
What a word means in a menu, said of the menu's visible children alone. A child equal to the word is
its meaning, and because siblings differ there is at most one; without one, the word means the only
child that starts with it. Several of those are listed, each once and in order, and where there are
none the default item is left.
-/

namespace MenuShell

namespace Comparison

variable {mode : Comparison} {text word : String}

theorem same_iff : mode.same text word = true ↔ mode.key text = mode.key word := by
  simp [same]

theorem begins_iff :
    mode.begins text word = true ↔ (mode.key word).toList <+: (mode.key text).toList := by
  simp [begins]

theorem begins_of_same (same : mode.same text word = true) : mode.begins text word = true := by
  have keys : mode.key text = mode.key word := same_iff.mp same
  exact begins_iff.mpr (keys ▸ List.prefix_refl _)

end Comparison

namespace Tree

variable {Action : Type} {tree : Tree Action} {menu id : NodeId} {mode : Comparison} {word : String}

def SelectorBefore (left right : String) : Prop :=
  Text.lower left < Text.lower right ∨ Text.lower left = Text.lower right ∧ left < right

theorem selectorLe_iff {left right : String} :
    selectorLe left right = true ↔
      Text.lower left < Text.lower right ∨ Text.lower left = Text.lower right ∧ left ≤ right := by
  simp [selectorLe]

theorem selectorLe_total (left right : String) :
    selectorLe left right = true ∨ selectorLe right left = true := by
  rw [selectorLe_iff, selectorLe_iff]
  rcases lt_trichotomy (Text.lower left) (Text.lower right) with below | same | above
  · exact .inl (.inl below)
  · rcases le_total left right with le | ge
    · exact .inl (.inr ⟨same, le⟩)
    · exact .inr (.inr ⟨same.symm, ge⟩)
  · exact .inr (.inl above)

theorem selectorLe_trans (left middle right : String) (first : selectorLe left middle = true)
    (second : selectorLe middle right = true) : selectorLe left right = true := by
  rw [selectorLe_iff] at first second ⊢
  rcases first with below | ⟨same, le⟩
  · rcases second with further | ⟨alike, -⟩
    · exact .inl (below.trans further)
    · exact .inl (alike ▸ below)
  · rcases second with further | ⟨alike, higher⟩
    · exact .inl (same ▸ further)
    · exact .inr ⟨same.trans alike, le.trans higher⟩

theorem before_of_selectorLe {left right : String} (le : selectorLe left right = true)
    (different : left ≠ right) : SelectorBefore left right := by
  rcases selectorLe_iff.mp le with below | ⟨same, le⟩
  · exact .inl below
  · exact .inr ⟨same, lt_of_le_of_ne le different⟩

theorem SelectorBefore.asymm {left right : String} (before : SelectorBefore left right) :
    ¬ SelectorBefore right left := by
  rintro (above | ⟨same, above⟩)
  · rcases before with below | ⟨alike, -⟩
    · exact lt_asymm below above
    · exact above.ne' alike
  · rcases before with below | ⟨-, below⟩
    · exact below.ne' same
    · exact lt_asymm below above

theorem SelectorBefore.irrefl {selector : String} (before : SelectorBefore selector selector) :
    False :=
  before.asymm before

theorem eq_of_selectorBefore {first second : List String} (firstOrder : first.Pairwise SelectorBefore)
    (secondOrder : second.Pairwise SelectorBefore)
    (members : ∀ selector, selector ∈ first ↔ selector ∈ second) : first = second := by
  have distinct {selectors : List String} (order : selectors.Pairwise SelectorBefore) :
      selectors.Nodup := by
    apply order.imp
    rintro left _ before rfl
    exact before.irrefl
  have perm : first.Perm second :=
    (List.perm_ext_iff_of_nodup (distinct firstOrder) (distinct secondOrder)).mpr members
  exact perm.eq_of_pairwise (fun left right _ _ before after => absurd after before.asymm)
    firstOrder secondOrder

def Equals (tree : Tree Action) (mode : Comparison) (menu : NodeId) (word : String) (id : NodeId) :
    Prop :=
  id ∈ tree.visibleChildren menu ∧ mode.same (tree.selector id) word = true

def Starts (tree : Tree Action) (mode : Comparison) (menu : NodeId) (word : String) (id : NodeId) :
    Prop :=
  id ∈ tree.visibleChildren menu ∧ mode.begins (tree.selector id) word = true

theorem Equals.starts (equals : tree.Equals mode menu word id) : tree.Starts mode menu word id :=
  ⟨equals.1, Comparison.begins_of_same equals.2⟩

theorem mem_children_of_visible (visible : id ∈ tree.visibleChildren menu) :
    id ∈ (tree.node menu).children :=
  (List.mem_filter.mp visible).1

theorem Apart.equals_unique {other : NodeId} (apart : tree.Apart mode menu)
    (equals : tree.Equals mode menu word id) (others : tree.Equals mode menu word other) :
    id = other := by
  by_contra different
  have differs := apart id (mem_children_of_visible equals.1) other
    (mem_children_of_visible others.1) different
  have same : mode.same (tree.selector id) (tree.selector other) = true := by
    rw [Comparison.same_iff, Comparison.same_iff.mp equals.2, Comparison.same_iff.mp others.2]
  simp [differs] at same

theorem mem_candidates :
    id ∈ tree.candidates menu word mode ↔
      tree.Equals mode menu word id ∨
        (∀ other, ¬ tree.Equals mode menu word other) ∧ tree.Starts mode menu word id := by
  have exact_iff (other : NodeId) :
      other ∈ tree.exactMatches menu word mode ↔ tree.Equals mode menu word other :=
    List.mem_filter
  rw [candidates, sortBySelector, mem_sortBy]
  split
  case isTrue none =>
    have absent (other : NodeId) : ¬ tree.Equals mode menu word other := by
      rw [← exact_iff, List.isEmpty_iff.mp none]
      exact List.not_mem_nil
    have starts_iff : id ∈ tree.abbreviated menu word mode ↔ tree.Starts mode menu word id :=
      List.mem_filter
    simp [starts_iff, absent]
  case isFalse some =>
    obtain ⟨other, member⟩ := List.exists_mem_of_ne_nil _ (mt List.isEmpty_iff.mpr some)
    have present : ¬ ∀ other, ¬ tree.Equals mode menu word other :=
      fun absent => absent other ((exact_iff other).mp member)
    rw [exact_iff]
    simp only [present, false_and, or_false]

theorem nodup_candidates (forest : tree.Forest) : (tree.candidates menu word mode).Nodup := by
  have visible : (tree.visibleChildren menu).Nodup := (forest.nodup menu).filter _
  rw [candidates, sortBySelector, (sortBy_perm _ _).nodup_iff]
  split
  · exact visible.filter _
  · exact visible.filter _

theorem candidates_eq_singleton_iff (forest : tree.Forest) :
    tree.candidates menu word mode = [id] ↔
      ∀ other, other ∈ tree.candidates menu word mode ↔ other = id := by
  rw [← List.perm_singleton, List.perm_ext_iff_of_nodup (nodup_candidates forest) (by simp)]
  simp only [List.mem_singleton]

theorem candidates_eq_nil_iff :
    tree.candidates menu word mode = [] ↔ ∀ other, ¬ tree.Starts mode menu word other := by
  rw [List.eq_nil_iff_forall_not_mem]
  constructor
  · intro absent other starts
    by_cases present : ∃ equal, tree.Equals mode menu word equal
    · obtain ⟨equal, equals⟩ := present
      exact absent equal (mem_candidates.mpr (.inl equals))
    · exact absent other (mem_candidates.mpr (.inr ⟨not_exists.mp present, starts⟩))
  · intro absent other member
    rcases mem_candidates.mp member with equals | ⟨-, starts⟩
    · exact absent other equals.starts
    · exact absent other starts

theorem candidates_singleton_iff (forest : tree.Forest) (apart : tree.Apart mode menu) :
    tree.candidates menu word mode = [id] ↔
      tree.Equals mode menu word id ∨
        (∀ other, ¬ tree.Equals mode menu word other) ∧ tree.Starts mode menu word id ∧
          ∀ other, tree.Starts mode menu word other → other = id := by
  rw [candidates_eq_singleton_iff forest]
  constructor
  · intro only
    rcases mem_candidates.mp ((only id).mpr rfl) with equals | ⟨absent, starts⟩
    · exact .inl equals
    · refine .inr ⟨absent, starts, ?_⟩
      intro other begun
      exact (only other).mp (mem_candidates.mpr (.inr ⟨absent, begun⟩))
  · rintro (equals | ⟨absent, starts, alone⟩) other
    · constructor
      · intro member
        rcases mem_candidates.mp member with alike | ⟨absent, -⟩
        · exact apart.equals_unique alike equals
        · exact absurd equals (absent id)
      · rintro rfl
        exact mem_candidates.mpr (.inl equals)
    · constructor
      · intro member
        rcases mem_candidates.mp member with alike | ⟨-, begun⟩
        · exact absurd alike (absent other)
        · exact alone other begun
      · rintro rfl
        exact mem_candidates.mpr (.inr ⟨absent, starts⟩)

theorem several_candidates_iff (forest : tree.Forest) (apart : tree.Apart mode menu) :
    2 ≤ (tree.candidates menu word mode).length ↔
      (∀ other, ¬ tree.Equals mode menu word other) ∧
        ∃ first second, first ≠ second ∧ tree.Starts mode menu word first ∧
          tree.Starts mode menu word second := by
  constructor
  · intro several
    obtain ⟨first, second, rest, found⟩ :
        ∃ first second rest, tree.candidates menu word mode = first :: second :: rest := by
      match tree.candidates menu word mode, several with
      | first :: second :: rest, _ => exact ⟨first, second, rest, rfl⟩
    have absent (other : NodeId) : ¬ tree.Equals mode menu word other := by
      intro equals
      have single := (candidates_singleton_iff forest apart).mpr (.inl equals)
      rw [found] at single
      simp at single
    have begun {other : NodeId} (member : other ∈ tree.candidates menu word mode) :
        tree.Starts mode menu word other := by
      rcases mem_candidates.mp member with equals | ⟨-, starts⟩
      · exact absurd equals (absent other)
      · exact starts
    have distinct : (tree.candidates menu word mode).Nodup := nodup_candidates forest
    rw [found, List.nodup_cons] at distinct
    refine ⟨absent, first, second, ?_, begun (by simp [found]), begun (by simp [found])⟩
    rintro rfl
    exact distinct.1 List.mem_cons_self
  · rintro ⟨absent, first, second, different, firstStarts, secondStarts⟩
    have pair : [first, second].Nodup := by simpa using different
    apply pair.length_le_of_subset
    intro other member
    rcases List.mem_pair.mp member with rfl | rfl
    · exact mem_candidates.mpr (.inr ⟨absent, firstStarts⟩)
    · exact mem_candidates.mpr (.inr ⟨absent, secondStarts⟩)

theorem sortBySelector_order (spelled : tree.Apart .sensitive menu) {ids : List NodeId}
    (distinct : ids.Nodup) (children : ids ⊆ (tree.node menu).children) :
    ((tree.sortBySelector ids).map tree.selector).Pairwise SelectorBefore := by
  rw [List.pairwise_map]
  have sorted : (tree.sortBySelector ids).Pairwise fun left right =>
      selectorLe (tree.selector left) (tree.selector right) = true := by
    apply sortBy_pairwise
    · intro left right
      exact selectorLe_total _ _
    · intro left middle right
      exact selectorLe_trans _ _ _
  have unlike : (tree.sortBySelector ids).Nodup := (sortBy_perm _ _).nodup_iff.mpr distinct
  refine (sorted.and unlike).imp_of_mem ?_
  rintro left right leftMember rightMember ⟨le, different⟩
  have differs := spelled left (children (mem_sortBy.mp leftMember)) right
    (children (mem_sortBy.mp rightMember)) different
  refine before_of_selectorLe le ?_
  intro alike
  simp [alike, same_self] at differs

theorem candidates_order (forest : tree.Forest) (spelled : tree.Apart .sensitive menu) :
    ((tree.candidates menu word mode).map tree.selector).Pairwise SelectorBefore := by
  have distinct : (tree.candidates menu word mode).Nodup := nodup_candidates forest
  have children : tree.candidates menu word mode ⊆ (tree.node menu).children := by
    intro child member
    rcases mem_candidates.mp member with equals | ⟨-, starts⟩
    · exact mem_children_of_visible equals.1
    · exact mem_children_of_visible starts.1
  rw [candidates, sortBySelector] at distinct children ⊢
  exact sortBySelector_order spelled ((sortBy_perm _ _).nodup_iff.mp distinct)
    fun child member => children (mem_sortBy.mpr member)

/-! ### Resolving -/

theorem resolveNamed_eq_ok_iff :
    tree.resolveNamed menu word mode = .ok id ↔ tree.candidates menu word mode = [id] := by
  rw [resolveNamed]
  split <;> simp_all

theorem starts_of_resolveNamed (resolved : tree.resolveNamed menu word mode = .ok id) :
    tree.Starts mode menu word id := by
  have member : id ∈ tree.candidates menu word mode := by
    rw [resolveNamed_eq_ok_iff.mp resolved]
    exact List.mem_singleton_self id
  rcases mem_candidates.mp member with equals | ⟨-, starts⟩
  · exact equals.starts
  · exact starts

theorem resolve_eq_named_iff :
    tree.resolve menu word mode = .ok (.named id) ↔ tree.candidates menu word mode = [id] := by
  rcases found : tree.candidates menu word mode with _ | ⟨only, _ | ⟨second, rest⟩⟩
  · cases fallback : tree.visibleDefault? menu <;> simp [resolve, resolveNamed, found, fallback]
  · simp [resolve, resolveNamed, found]
  · simp [resolve, resolveNamed, found]

theorem resolve_eq_ambiguous_iff {token : String} {selectors : List String} :
    tree.resolve menu word mode = .error (.ambiguous token selectors) ↔
      token = word ∧ 2 ≤ (tree.candidates menu word mode).length ∧
        selectors = (tree.candidates menu word mode).map tree.selector := by
  rcases found : tree.candidates menu word mode with _ | ⟨only, _ | ⟨second, rest⟩⟩
  · cases fallback : tree.visibleDefault? menu <;> simp [resolve, resolveNamed, found, fallback]
  · simp [resolve, resolveNamed, found]
  · simp [resolve, resolveNamed, found, eq_comm]

theorem resolve_eq_fallback_iff :
    tree.resolve menu word mode = .ok (.fallback id) ↔
      tree.candidates menu word mode = [] ∧ tree.visibleDefault? menu = some id := by
  rcases found : tree.candidates menu word mode with _ | ⟨only, _ | ⟨second, rest⟩⟩
  · cases fallback : tree.visibleDefault? menu <;> simp [resolve, resolveNamed, found, fallback]
  · simp [resolve, resolveNamed, found]
  · simp [resolve, resolveNamed, found]

theorem resolve_eq_unknown_iff {token : String} {suggestions : List String} :
    tree.resolve menu word mode = .error (.unknown token suggestions) ↔
      (token = word ∧ suggestions = tree.suggestions menu word mode) ∧
        tree.candidates menu word mode = [] ∧ tree.visibleDefault? menu = none := by
  rcases found : tree.candidates menu word mode with _ | ⟨only, _ | ⟨second, rest⟩⟩
  · cases fallback : tree.visibleDefault? menu <;>
      simp [resolve, resolveNamed, found, fallback, eq_comm]
  · simp [resolve, resolveNamed, found]
  · simp [resolve, resolveNamed, found]

theorem parent_of_resolve {resolution : Resolution} (forest : tree.Forest)
    (means : tree.resolve menu word mode = .ok resolution) :
    (tree.node resolution.id).parent? = some menu := by
  cases resolution with
  | named child =>
      have starts := starts_of_resolveNamed
        (resolveNamed_eq_ok_iff.mpr (resolve_eq_named_iff.mp means))
      exact ((forest.named menu child).mp (mem_children_of_visible starts.1)).2
  | fallback item =>
      have visible := (resolve_eq_fallback_iff.mp means).2
      exact ((forest.unnamed menu item).mp (Option.eq_some_of_filter_eq_some visible)).2

theorem Reachable.apart_of_connected (reachable : tree.Reachable)
    (connected : root ∈ tree.lineage menu) : tree.Apart (tree.comparison menu) menu := by
  have forest := reachable.forest
  have distinct := reachable.distinct
  have governed := governed_of_ascent forest (forest.ascent_lineage menu)
    ⟨root, connected, distinct.rooted⟩
  exact distinct.governed menu _ governed

theorem Reachable.candidates_selector (reachable : tree.Reachable)
    (connected : root ∈ tree.lineage menu) (visible : id ∈ tree.visibleChildren menu) :
    tree.candidates menu (tree.selector id) (tree.comparison menu) = [id] := by
  rw [candidates_singleton_iff reachable.forest (reachable.apart_of_connected connected)]
  exact .inl ⟨visible, same_self _ _⟩

/-- In a menu that is connected to the root, under the mode in force there, a word has exactly one of
four meanings. -/
theorem resolve_of_connected (reachable : tree.Reachable) (connected : root ∈ tree.lineage menu)
    (word : String) :
    let mode := tree.comparison menu
    let equals := tree.Equals mode menu word
    let starts := tree.Starts mode menu word
    let meaning := tree.resolve menu word mode
    (∀ id, meaning = .ok (.named id) ↔
      equals id ∨
        (∀ other, ¬ equals other) ∧ starts id ∧ ∀ other, starts other → other = id) ∧
    (∀ token selectors, meaning = .error (.ambiguous token selectors) ↔
      token = word ∧
        ((∀ other, ¬ equals other) ∧
          ∃ first second, first ≠ second ∧ starts first ∧ starts second) ∧
        selectors.Pairwise SelectorBefore ∧
        ∀ selector, selector ∈ selectors ↔ ∃ id, starts id ∧ tree.selector id = selector) ∧
    (∀ id, meaning = .ok (.fallback id) ↔
      (∀ other, ¬ equals other ∧ ¬ starts other) ∧ tree.visibleDefault? menu = some id) ∧
    ((∃ suggestions, meaning = .error (.unknown word suggestions)) ↔
      (∀ other, ¬ equals other ∧ ¬ starts other) ∧ tree.visibleDefault? menu = none) ∧
    ∀ id ∈ tree.visibleChildren menu,
      tree.resolve menu (tree.selector id) mode = .ok (.named id) := by
  intro mode equals starts meaning
  have forest := reachable.forest
  have apart : tree.Apart mode menu := reachable.apart_of_connected connected
  have nothing : tree.candidates menu word mode = [] ↔
      ∀ other, ¬ equals other ∧ ¬ starts other := by
    rw [candidates_eq_nil_iff]
    constructor
    · intro absent other
      exact ⟨fun same => absent other same.starts, absent other⟩
    · exact fun absent other => (absent other).2
  refine ⟨?_, ?_, ?_, ?_, ?_⟩
  · intro id
    rw [resolve_eq_named_iff, candidates_singleton_iff forest apart]
  · intro token selectors
    have order : ((tree.candidates menu word mode).map tree.selector).Pairwise SelectorBefore :=
      candidates_order forest (reachable.distinct.spelled menu)
    rw [resolve_eq_ambiguous_iff, several_candidates_iff forest apart]
    refine and_congr_right fun _ => and_congr_right fun several => ?_
    have listed (selector : String) :
        selector ∈ (tree.candidates menu word mode).map tree.selector ↔
          ∃ id, starts id ∧ tree.selector id = selector := by
      rw [List.mem_map]
      refine exists_congr fun id => and_congr_left fun _ => ?_
      rw [mem_candidates]
      simp only [several.1 id, several.1, not_false_eq_true, implies_true, true_and, false_or]
      rfl
    constructor
    · rintro rfl
      exact ⟨order, listed⟩
    · rintro ⟨ordered, members⟩
      apply eq_of_selectorBefore ordered order
      intro selector
      rw [members, listed]
  · intro id
    rw [resolve_eq_fallback_iff, nothing]
  · rw [← nothing]
    constructor
    · rintro ⟨suggestions, unknown⟩
      exact (resolve_eq_unknown_iff.mp unknown).2
    · exact fun absent => ⟨_, resolve_eq_unknown_iff.mpr ⟨⟨rfl, rfl⟩, absent⟩⟩
  · intro id visible
    rw [resolve_eq_named_iff, candidates_singleton_iff forest apart]
    exact .inl ⟨visible, same_self _ _⟩

theorem resolve_of_hidden_sibling :
    let hidden : Node Unit := { Node.leaf "adder" () with switch? := some "expert" }
    let tree := (empty .insensitive : Tree Unit).applyAll
      [.add 0 (.leaf "address" ()), .add 0 (.leaf "Add" ()), .add 0 hidden,
        .add 0 (.defaultItem ()), .turn "expert" false]
    tree.resolve 0 "ADD" .insensitive = .ok (.named 2) ∧
      tree.resolve 0 "address" .insensitive = .ok (.named 1) ∧
      (∀ other, ¬ tree.Equals .insensitive 0 "adde" other ∧
        ¬ tree.Starts .insensitive 0 "adde" other) ∧
      ["Add", "address"].Pairwise SelectorBefore := by
  intro hidden tree
  have reachable : tree.Reachable := ⟨.insensitive, Reaches.refl.applyAll (by decide)⟩
  have connected : root ∈ tree.lineage 0 := by decide
  have mode : tree.comparison 0 = .insensitive := by decide
  have meanings := resolve_of_connected reachable connected
  rw [mode] at meanings
  obtain ⟨named, -, -, -, -⟩ := meanings "ADD"
  obtain ⟨-, ambiguous, -, -, -⟩ := meanings "ad"
  obtain ⟨-, -, fallback, -, -⟩ := meanings "adde"
  obtain ⟨-, -, -, -, full⟩ := meanings ""
  have address : tree.selector 1 = "address" := by decide
  have whole := full 1 (by decide)
  rw [address] at whole
  refine ⟨(named 2).mpr (.inl ⟨by decide, by decide⟩), whole, ?_, ?_⟩
  · exact ((fallback 4).mp (by decide)).1
  · exact ((ambiguous "ad" ["Add", "address"]).mp (by decide)).2.2.1

end Tree

end MenuShell

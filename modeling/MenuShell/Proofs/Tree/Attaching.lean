import MenuShell.Proofs.Tree.Rearranging
import MenuShell.Proofs.Tree.Refusals

/-!
Attaching several nodes below one parent. Each of them can be attached after the others exactly if it
can be attached by itself and goes together with each of the others, and neither depends on an order.
Once they hang there, no word in any menu tells in which order they came.
-/

namespace MenuShell

namespace Tree

variable {Action : Type} {tree later : Tree Action} {parent child other id below above menu : NodeId}
  {mode : Comparison}

theorem Inherits.mem_lineage (forest : tree.Forest) (inherits : tree.Inherits below above) :
    above ∈ tree.lineage below := by
  induction inherits with
  | refl id => exact forest.mem_lineage_self id
  | step _ linked _ ih =>
      rw [forest.lineage_step linked]
      exact List.mem_cons_of_mem _ ih

theorem inherits_link (free : tree.Free parent child) (forest : tree.Forest)
    (notAbove : other ∉ tree.lineage parent) :
    (tree.link parent child).Inherits below other ↔ tree.Inherits below other := by
  constructor
  · intro inherits
    induction inherits with
    | refl id => exact .refl id
    | @step below upper _ own linked _ ih =>
        have reached := ih notAbove
        rw [comparison_link] at own
        rw [parent_link free.childBound] at linked
        split at linked
        · obtain rfl := Option.some.inj linked
          exact absurd (reached.mem_lineage forest) notAbove
        · exact .step own linked reached
  · intro inherits
    induction inherits with
    | refl id => exact .refl id
    | @step below upper _ own linked _ ih =>
        have different : below ≠ child := by
          rintro rfl
          simp [free.loose] at linked
        refine .step ?_ ?_ (ih notAbove)
        · rw [comparison_link, own]
        · rw [parent_link free.childBound, if_neg different, linked]

theorem apart_link_of_ne (parentBound : parent < tree.size) (elsewhere : menu ≠ parent) :
    (tree.link parent child).Apart mode menu ↔ tree.Apart mode menu := by
  simp only [Apart, children_link parentBound, elsewhere, false_and, if_false, selector,
    selector_link]

theorem lineage_parent_link (free : tree.Free parent child) (forest : tree.Forest) :
    (tree.link parent child).lineage parent = tree.lineage parent := by
  have ascent : (tree.link parent child).Ascent parent (tree.lineage parent) :=
    (forest.ascent_lineage parent).link_of_not_mem free.childBound free.notAbove
  exact (forest.link free).lineage_eq ascent

theorem comparison_parent_link (free : tree.Free parent child) (forest : tree.Forest) :
    (tree.link parent child).comparison parent = tree.comparison parent := by
  rw [comparison, comparison, lineage_parent_link free forest]
  simp only [comparison_link]

theorem comparison_child_link (free : tree.Free parent child) (forest : tree.Forest)
    (own : (tree.node child).comparison? = none) :
    (tree.link parent child).comparison child = tree.comparison parent := by
  have linked : ((tree.link parent child).node child).parent? = some parent := by
    rw [parent_link free.childBound, if_pos rfl]
  rw [comparison_inherited (forest.link free) (by rw [comparison_link, own]) linked,
    comparison_parent_link free forest]

theorem clash?_link_eq_none_iff (free : tree.Free parent child) (forest : tree.Forest)
    (own : (tree.node child).comparison? = none) :
    (tree.link parent child).clash? child = none ↔
      ∀ below, tree.Inherits below child → tree.Apart (tree.comparison parent) below := by
  rw [clash?_eq_none_iff (forest.link free), comparison_child_link free forest own]
  apply forall_congr'
  intro below
  rw [inherits_link free forest free.notAbove]
  apply imp_congr_right
  intro inherits
  apply apart_link_of_ne free.parentBound
  rintro rfl
  exact free.notAbove (inherits.mem_lineage forest)

/-- The node is free to be hung below the parent and brings no siblings that are equal there. -/
structure Attachable (tree : Tree Action) (parent child : NodeId) : Prop where
  free : tree.Free parent child
  settles : (tree.node child).comparison? = none →
    ∀ below, tree.Inherits below child → tree.Apart (tree.comparison parent) below

theorem attach_isOk_iff (forest : tree.Forest) (parentBound : parent < tree.size)
    (childBound : child < tree.size) :
    (tree.attach parent child).1.isOk = true ↔ tree.Attachable parent child := by
  have obstacle_iff := attachObstacle?_eq_none_iff parentBound childBound
  unfold attach
  cases obstacle : tree.attachObstacle? parent child with
  | some error =>
      constructor
      · intro succeeded
        simp [Except.isOk, Except.toBool] at succeeded
      · intro attachable
        simp [obstacle_iff.mpr attachable.free] at obstacle
  | none =>
      have free := obstacle_iff.mp obstacle
      dsimp only
      cases own : (tree.node child).comparison? with
      | some mode =>
          refine ⟨fun _ => ⟨free, ?_⟩, fun _ => rfl⟩
          intro inherits
          simp [own] at inherits
      | none =>
          have clear := clash?_link_eq_none_iff free forest own
          cases clash : (tree.link parent child).clash? child with
          | none => exact ⟨fun _ => ⟨free, fun _ => clear.mp clash⟩, fun _ => rfl⟩
          | some selector =>
              constructor
              · intro succeeded
                simp [Except.isOk, Except.toBool] at succeeded
              · intro attachable
                simp [clear.mpr (attachable.settles own)] at clash

theorem Attachable.attach_eq (attachable : tree.Attachable parent child) (forest : tree.Forest) :
    tree.attach parent child = (.ok (), tree.link parent child) := by
  have free := attachable.free
  rcases attach_cases forest free.parentBound free.childBound with ⟨error, failed⟩ | ⟨hung, -⟩
  · have succeeded := (attach_isOk_iff forest free.parentBound free.childBound).mpr attachable
    simp [failed, Except.isOk, Except.toBool] at succeeded
  · exact hung

/-! ### One node after another -/

structure Compatible (tree : Tree Action) (parent first second : NodeId) : Prop where
  different : first ≠ second
  unnamed : (tree.node first).selector? = none → (tree.node second).selector? ≠ none
  unlike : ∀ left right, (tree.node first).selector? = some left →
    (tree.node second).selector? = some right → (tree.comparison parent).same left right = false

theorem Compatible.symm {first second : NodeId} (compatible : tree.Compatible parent first second) :
    tree.Compatible parent second first := by
  refine ⟨compatible.different.symm, ?_, ?_⟩
  · exact fun secondUnnamed firstUnnamed => compatible.unnamed firstUnnamed secondUnnamed
  · intro left right leftName rightName
    rw [same_comm]
    exact compatible.unlike right left rightName leftName

theorem child?_link_eq_none_iff {selector : String} (free : tree.Free parent child)
    (forest : tree.Forest) :
    (tree.link parent child).child? parent selector = none ↔
      tree.child? parent selector = none ∧
        ∀ name, (tree.node child).selector? = some name →
          (tree.comparison parent).same selector name = false := by
  rw [child?, child?, comparison_parent_link free forest]
  simp only [children_link free.parentBound, selector_link, true_and]
  cases named : (tree.node child).selector? with
  | none => simp
  | some name => simp [named, same_comm _ name selector]

theorem free_link_iff (free : tree.Free parent child) (forest : tree.Forest) :
    (tree.link parent child).Free parent other ↔
      tree.Free parent other ∧ tree.Compatible parent other child := by
  have lineage_eq := lineage_parent_link free forest
  have above_iff : ((tree.link parent child).node other).parent? = none ↔
      other ≠ child ∧ (tree.node other).parent? = none := by
    rw [parent_link free.childBound]
    split <;> simp_all
  have vacant_iff : ((tree.link parent child).node parent).defaultChild? = none ↔
      (tree.node child).selector? ≠ none ∧ (tree.node parent).defaultChild? = none := by
    rw [defaultChild_link free.parentBound]
    split <;> simp_all
  constructor
  · intro linked
    obtain ⟨different, loose⟩ := above_iff.mp linked.loose
    have unlike (selector : String) (name : (tree.node other).selector? = some selector) :=
      (child?_link_eq_none_iff free forest).mp (linked.unlike selector (by rw [selector_link, name]))
    have vacant (unnamed : (tree.node other).selector? = none) :=
      vacant_iff.mp (linked.vacant (by rw [selector_link, unnamed]))
    refine ⟨⟨free.parentBound, ?_, linked.notRoot, loose, ?_, ?_, ?_, ?_⟩, ⟨different, ?_, ?_⟩⟩
    · simpa only [size_link] using linked.childBound
    · exact lineage_eq ▸ linked.notAbove
    · exact fun unnamed => (vacant unnamed).2
    · exact fun selector name => linked.word selector (by rw [selector_link, name])
    · exact fun selector name => (unlike selector name).1
    · exact fun unnamed => (vacant unnamed).1
    · exact fun left right leftName rightName => (unlike left leftName).2 right rightName
  · rintro ⟨loose, compatible⟩
    refine ⟨?_, ?_, loose.notRoot, above_iff.mpr ⟨compatible.different, loose.loose⟩, ?_, ?_, ?_, ?_⟩
    · simpa only [size_link] using free.parentBound
    · simpa only [size_link] using loose.childBound
    · exact lineage_eq ▸ loose.notAbove
    · intro unnamed
      rw [selector_link] at unnamed
      exact vacant_iff.mpr ⟨compatible.unnamed unnamed, loose.vacant unnamed⟩
    · intro selector name
      rw [selector_link] at name
      exact loose.word selector name
    · intro selector name
      rw [selector_link] at name
      exact (child?_link_eq_none_iff free forest).mpr
        ⟨loose.unlike selector name, fun right => compatible.unlike selector right name⟩

theorem attachable_link_iff (free : tree.Free parent child) (forest : tree.Forest) :
    (tree.link parent child).Attachable parent other ↔
      tree.Attachable parent other ∧ tree.Compatible parent other child := by
  have settles_iff (loose : tree.Free parent other) :
      (∀ below, (tree.link parent child).Inherits below other →
        (tree.link parent child).Apart ((tree.link parent child).comparison parent) below) ↔
      ∀ below, tree.Inherits below other → tree.Apart (tree.comparison parent) below := by
    rw [comparison_parent_link free forest]
    apply forall_congr'
    intro below
    rw [inherits_link free forest loose.notAbove]
    apply imp_congr_right
    intro inherits
    apply apart_link_of_ne free.parentBound
    rintro rfl
    exact loose.notAbove (inherits.mem_lineage forest)
  constructor
  · rintro ⟨linked, settles⟩
    obtain ⟨loose, compatible⟩ := (free_link_iff free forest).mp linked
    rw [comparison_link, settles_iff loose] at settles
    exact ⟨⟨loose, settles⟩, compatible⟩
  · rintro ⟨⟨loose, settles⟩, compatible⟩
    rw [← settles_iff loose, ← comparison_link parent child] at settles
    exact ⟨(free_link_iff free forest).mpr ⟨loose, compatible⟩, settles⟩

theorem compatible_link (free : tree.Free parent child) (forest : tree.Forest) :
    (tree.link parent child).Compatible parent = tree.Compatible parent := by
  funext first second
  apply propext
  constructor
  · rintro ⟨different, unnamed, unlike⟩
    simp only [selector_link, comparison_parent_link free forest] at unnamed unlike
    exact ⟨different, unnamed, unlike⟩
  · rintro ⟨different, unnamed, unlike⟩
    refine ⟨different, ?_, ?_⟩
    · simpa only [selector_link] using unnamed
    · simpa only [selector_link, comparison_parent_link free forest] using unlike

def succeeds (tree : Tree Action) (edits : List (Edit Action)) : Bool :=
  (tree.answers edits).all (·.isOk)

theorem succeeds_cons (edit : Edit Action) (others : List (Edit Action)) :
    tree.succeeds (edit :: others) =
      ((tree.apply edit).1.isOk && (tree.apply edit).2.succeeds others) := rfl

theorem succeeds_attach_iff {children : List NodeId} (forest : tree.Forest)
    (parentBound : parent < tree.size) (inside : ∀ child ∈ children, child < tree.size) :
    tree.succeeds (children.map (.attach parent)) = true ↔
      (∀ child ∈ children, tree.Attachable parent child) ∧
        children.Pairwise (tree.Compatible parent) := by
  induction children generalizing tree with
  | nil => simp [succeeds, answers]
  | cons child others ih =>
      have childBound := inside child List.mem_cons_self
      have first := attach_isOk_iff forest parentBound childBound
      rw [List.map_cons, succeeds_cons, apply, linked, isOk_map, Bool.and_eq_true, first,
        List.forall_mem_cons, List.pairwise_cons]
      by_cases attachable : tree.Attachable parent child
      · have free := attachable.free
        rw [attachable.attach_eq forest]
        dsimp only
        rw [ih (forest.link free) (by rwa [size_link])]
        · simp only [attachable_link_iff free forest, compatible_link free forest]
          constructor
          · rintro ⟨-, each, pairwise⟩
            refine ⟨⟨attachable, fun other member => (each other member).1⟩, ?_, pairwise⟩
            exact fun other member => (each other member).2.symm
          · rintro ⟨⟨-, each⟩, compatible, pairwise⟩
            refine ⟨attachable, ?_, pairwise⟩
            exact fun other member => ⟨each other member, (compatible other member).symm⟩
        · intro other member
          rw [size_link]
          exact inside other (List.mem_cons_of_mem _ member)
      · simp [attachable]

theorem parent_applyAll_attach {children : List NodeId} (forest : tree.Forest)
    (parentBound : parent < tree.size) (inside : ∀ child ∈ children, child < tree.size)
    (succeeded : tree.succeeds (children.map (.attach parent)) = true) (id : NodeId) :
    ((tree.applyAll (children.map (.attach parent))).node id).parent? =
      if id ∈ children then some parent else (tree.node id).parent? := by
  induction children generalizing tree with
  | nil => simp [applyAll]
  | cons child others ih =>
      rw [List.map_cons, succeeds_cons, apply, linked, isOk_map, Bool.and_eq_true] at succeeded
      have attachable :=
        (attach_isOk_iff forest parentBound (inside child List.mem_cons_self)).mp succeeded.1
      have rest := succeeded.2
      rw [attachable.attach_eq forest] at rest
      rw [List.map_cons, applyAll, List.foldl_cons, ← applyAll, apply, linked,
        attachable.attach_eq forest]
      dsimp only
      rw [ih (forest.link attachable.free) (by rwa [size_link]) ?_ rest,
        parent_link attachable.free.childBound]
      · by_cases same : id = child <;> simp [same]
      · intro other member
        rw [size_link]
        exact inside other (List.mem_cons_of_mem _ member)

theorem parent_detach (child id : NodeId) :
    ((tree.detach child).2.node id).parent? =
      if id = child then none else (tree.node id).parent? := by
  unfold detach
  cases below : (tree.node child).parent? with
  | none => split <;> simp_all
  | some parent => exact parent_unlink (lt_size_of_parent below) id

theorem parent_applyAll_detach (children : List NodeId) (id : NodeId) :
    ((tree.applyAll (children.map .detach)).node id).parent? =
      if id ∈ children then none else (tree.node id).parent? := by
  induction children generalizing tree with
  | nil => simp [applyAll]
  | cons child others ih =>
      rw [List.map_cons, applyAll, List.foldl_cons, ← applyAll, apply, linked, ih, parent_detach]
      by_cases same : id = child <;> simp [same]

/-! ### Moving nodes about -/

def Edit.rehangs : Edit Action → Bool
  | .attach _ _ | .detach _ => true
  | _ => false

theorem Rehung.link (parent child : NodeId) : Rehung tree (tree.link parent child) :=
  ⟨size_link, by simp only [Tree.link, switches_modify], unlinked_link tree parent child⟩

theorem Rehung.unlink (parent child : NodeId) : Rehung tree (tree.unlink parent child) :=
  ⟨size_unlink, by simp only [Tree.unlink, switches_modify], unlinked_unlink tree parent child⟩

theorem Rehung.apply {edit : Edit Action} (forest : tree.Forest) (within : edit.Within tree)
    (rehangs : edit.rehangs = true) : Rehung tree (tree.apply edit).2 := by
  cases edit with
  | attach parent child =>
      rw [Tree.apply, linked]
      rcases attach_cases forest within.1 within.2 with ⟨error, failed⟩ | ⟨hung, -⟩
      · rw [failed]
        exact .refl tree
      · rw [hung]
        exact .link parent child
  | detach child =>
      rw [Tree.apply, linked]
      rcases detach_cases tree child with ⟨error, failed⟩ | ⟨parent, -, letGo⟩
      · rw [failed]
        exact .refl tree
      · rw [letGo]
        exact .unlink parent child
  | insert _ | copy _ | add _ _ | setComparison _ _ | setHelp _ _ | setPrompt _ _ | setAction _ _
  | setSwitch _ _ | turn _ _ => simp [Edit.rehangs] at rehangs

theorem Rehung.applyAll {edits : List (Edit Action)} (forest : tree.Forest)
    (permitted : tree.Permitted edits) (rehangs : edits.all Edit.rehangs = true) :
    Rehung tree (tree.applyAll edits) := by
  induction edits generalizing tree with
  | nil => exact .refl tree
  | cons edit others ih =>
      rw [List.all_cons, Bool.and_eq_true] at rehangs
      have first := Rehung.apply forest permitted.1 rehangs.1
      exact first.trans (ih (forest.moves (apply_cases forest permitted.1).1) permitted.2 rehangs.2)

theorem permitted_of_rehangs {edits : List (Edit Action)} (forest : tree.Forest)
    (rehangs : edits.all Edit.rehangs = true) (within : ∀ edit ∈ edits, edit.Within tree) :
    tree.Permitted edits := by
  induction edits generalizing tree with
  | nil => trivial
  | cons edit others ih =>
      rw [List.all_cons, Bool.and_eq_true] at rehangs
      obtain ⟨firstWithin, othersWithin⟩ := List.forall_mem_cons.mp within
      have size := (Rehung.apply forest firstWithin rehangs.1).size
      refine ⟨firstWithin, ih (forest.moves (apply_cases forest firstWithin).1) rehangs.2 ?_⟩
      intro other member
      have otherWithin := othersWithin other member
      cases other with
      | attach parent child => exact ⟨size ▸ otherWithin.1, size ▸ otherWithin.2⟩
      | detach child => exact Nat.lt_of_lt_of_eq otherWithin size.symm
      | _ => simpa [Edit.rehangs] using List.all_eq_true.mp rehangs.2 _ member

theorem Reachable.applyAll {edits : List (Edit Action)} (reachable : tree.Reachable)
    (permitted : tree.Permitted edits) : (tree.applyAll edits).Reachable := by
  obtain ⟨mode, reaches⟩ := reachable
  exact ⟨mode, reaches.applyAll permitted⟩

theorem permitted_attach {children : List NodeId} (forest : tree.Forest)
    (parentBound : parent < tree.size) (inside : ∀ child ∈ children, child < tree.size) :
    tree.Permitted (children.map (.attach parent)) := by
  apply permitted_of_rehangs forest
  · simp [Edit.rehangs]
  · intro edit member
    obtain ⟨child, listed, rfl⟩ := List.mem_map.mp member
    exact ⟨parentBound, inside child listed⟩

theorem permitted_detach {children : List NodeId} (forest : tree.Forest)
    (inside : ∀ child ∈ children, child < tree.size) :
    tree.Permitted (children.map .detach) := by
  apply permitted_of_rehangs forest
  · simp [Edit.rehangs]
  · intro edit member
    obtain ⟨child, listed, rfl⟩ := List.mem_map.mp member
    exact inside child listed

theorem succeeds_attach_perm {first second : List NodeId} (forest : tree.Forest)
    (parentBound : parent < tree.size) (inside : ∀ child ∈ first, child < tree.size)
    (perm : first.Perm second) :
    tree.succeeds (first.map (.attach parent)) = tree.succeeds (second.map (.attach parent)) := by
  have secondInside : ∀ child ∈ second, child < tree.size := by
    intro child member
    exact inside child (perm.mem_iff.mpr member)
  rw [Bool.eq_iff_iff, succeeds_attach_iff forest parentBound inside,
    succeeds_attach_iff forest parentBound secondInside, perm.pairwise_iff Compatible.symm]
  simp only [perm.mem_iff]

theorem Rehung.sameMeanings (rehung : Rehung tree later) (reachable : tree.Reachable)
    (laterForest : later.Forest)
    (above : ∀ id < tree.size, (later.node id).parent? = (tree.node id).parent?) (menu : NodeId) :
    SameMeanings tree later menu := by
  have rearranged : Rearranged tree later := by
    refine ⟨rehung, ?_⟩
    intro id
    by_cases inside : id < tree.size
    · exact above id inside
    · rw [node_of_size_le (Nat.le_of_not_lt inside),
        node_of_size_le (rehung.size ▸ Nat.le_of_not_lt inside)]
  exact rearranged.sameMeanings reachable.forest laterForest (reachable.distinct.spelled menu)

/-- Nodes can be attached below a parent in every order or in none, and the order is not seen by any
word in any menu. Nor is it seen whether nodes have moved about that hang again where they hung. -/
theorem meanings_of_attaching (reachable : tree.Reachable) (bound : parent < tree.size) :
    (∀ first second : List NodeId, first.Perm second → (∀ child ∈ first, child < tree.size) →
      tree.succeeds (first.map (.attach parent)) = tree.succeeds (second.map (.attach parent)) ∧
        (tree.succeeds (first.map (.attach parent)) = true → ∀ menu,
          SameMeanings (tree.applyAll (first.map (.attach parent)))
            (tree.applyAll (second.map (.attach parent))) menu)) ∧
    (∀ first second : List NodeId, first.Perm second →
      (∀ child ∈ first, (tree.node child).parent? = some parent) →
      (tree.applyAll (first.map .detach)).succeeds (second.map (.attach parent)) = true → ∀ menu,
        SameMeanings tree
          ((tree.applyAll (first.map .detach)).applyAll (second.map (.attach parent))) menu) ∧
    ∀ edits, tree.Permitted edits → edits.all Edit.rehangs = true →
      (∀ id < tree.size, ((tree.applyAll edits).node id).parent? = (tree.node id).parent?) →
      ∀ menu, SameMeanings tree (tree.applyAll edits) menu := by
  have forest := reachable.forest
  refine ⟨?_, ?_, ?_⟩
  · intro first second perm inside
    have secondInside : ∀ child ∈ second, child < tree.size := by
      intro child member
      exact inside child (perm.mem_iff.mpr member)
    have alike := succeeds_attach_perm forest bound inside perm
    refine ⟨alike, ?_⟩
    intro succeeded menu
    have permitted := permitted_attach forest bound inside
    have secondPermitted := permitted_attach forest bound secondInside
    have firstRehung := Rehung.applyAll forest permitted (by simp [Edit.rehangs])
    have secondRehung := Rehung.applyAll forest secondPermitted (by simp [Edit.rehangs])
    apply (firstRehung.symm.trans secondRehung).sameMeanings (reachable.applyAll permitted)
      (reachable.applyAll secondPermitted).forest
    intro id _
    rw [parent_applyAll_attach forest bound inside succeeded,
      parent_applyAll_attach forest bound secondInside (alike ▸ succeeded)]
    simp only [perm.mem_iff]
  · intro first second perm children succeeded menu
    have inside : ∀ child ∈ first, child < tree.size := by
      intro child member
      exact lt_size_of_parent (children child member)
    have permitted := permitted_detach forest inside
    have loose := reachable.applyAll permitted
    have looseRehung := Rehung.applyAll forest permitted (by simp [Edit.rehangs])
    have looseBound : parent < (tree.applyAll (first.map .detach)).size :=
      Nat.lt_of_lt_of_eq bound looseRehung.size.symm
    have secondInside : ∀ child ∈ second, child < (tree.applyAll (first.map .detach)).size := by
      intro child member
      exact Nat.lt_of_lt_of_eq (inside child (perm.mem_iff.mpr member)) looseRehung.size.symm
    have secondPermitted := permitted_attach loose.forest looseBound secondInside
    have rehung := looseRehung.trans
      (Rehung.applyAll loose.forest secondPermitted (by simp [Edit.rehangs]))
    apply rehung.sameMeanings reachable (loose.applyAll secondPermitted).forest
    intro id _
    rw [parent_applyAll_attach loose.forest looseBound secondInside succeeded,
      parent_applyAll_detach]
    by_cases listed : id ∈ first
    · rw [if_pos (perm.mem_iff.mp listed), children id listed]
    · rw [if_neg (mt perm.mem_iff.mpr listed), if_neg listed]
  · intro edits permitted rehangs above menu
    exact (Rehung.applyAll forest permitted rehangs).sameMeanings reachable
      (reachable.applyAll permitted).forest above menu

theorem meanings_of_attaching_three :
    let tree := (empty .insensitive : Tree Unit).applyAll
      [.add 0 (.menu "sub"), .insert (.leaf "go" ()), .insert (.leaf "gopher" ()),
        .insert (.defaultItem ()), .insert (.leaf "GO" ())]
    let hung := tree.applyAll [.attach 1 2, .attach 1 3, .attach 1 4]
    let turned := tree.applyAll [.attach 1 4, .attach 1 3, .attach 1 2]
    let again := hung.applyAll [.detach 3, .detach 2, .attach 1 3, .attach 1 2]
    (hung.node 1).children = [2, 3] ∧ (turned.node 1).children = [3, 2] ∧
      (again.node 1).children = [3, 2] ∧ SameMeanings hung turned 1 ∧ SameMeanings hung again 1 ∧
      tree.succeeds [.attach 1 2, .attach 1 5] = false ∧
      tree.succeeds [.attach 1 2, .attach 1 5] = tree.succeeds [.attach 1 5, .attach 1 2] := by
  intro tree hung turned again
  have reachable : tree.Reachable := ⟨.insensitive, Reaches.refl.applyAll (by decide)⟩
  have hungReachable : hung.Reachable := reachable.applyAll (by decide)
  obtain ⟨orders, -, -⟩ := meanings_of_attaching reachable (show 1 < tree.size by decide)
  obtain ⟨-, -, moved⟩ := meanings_of_attaching hungReachable (show 1 < hung.size by decide)
  refine ⟨by decide, by decide, by decide, ?_, ?_, by decide, ?_⟩
  · exact (orders [2, 3, 4] [4, 3, 2] (by decide) (by decide)).2 (by decide) 1
  · exact moved [.detach 3, .detach 2, .attach 1 3, .attach 1 2] (by decide) rfl (by decide) 1
  · exact (orders [2, 5] [5, 2] (by decide) (by decide)).1

end Tree

end MenuShell

import MenuShell.Proofs.Tree.Siblings

/-!
How far down a mode goes. A node hands its mode down, link by link, to the nodes that have none of
their own, and these are just the nodes that come to it when they climb for theirs. A change of one
node and its way up is felt there and nowhere else; setting a mode is refused exactly if it would make
siblings equal there.
-/

namespace MenuShell

namespace Tree

variable {Action : Type} {tree later : Tree Action} {above below id menu : NodeId}
  {mode : Comparison}

/-- What a node hands down comes to the node itself, and on to children and default items that have no
mode of their own. -/
inductive HandsDown (tree : Tree Action) (above : NodeId) : NodeId → Prop
  | self : HandsDown tree above above
  | further {menu child : NodeId} : HandsDown tree above menu → child ∈ (tree.node menu).allChildren →
      (tree.node child).comparison? = none → HandsDown tree above child

theorem handsDown_iff_inherits (forest : tree.Forest) :
    tree.HandsDown above below ↔ tree.Inherits below above := by
  constructor
  · intro comes
    induction comes with
    | self => exact .refl above
    | further _ hangs own ih => exact .step own (forest.mem_allChildren.mp hangs) ih
  · intro inherits
    induction inherits with
    | refl id => exact .self
    | step own linked _ ih => exact .further ih (forest.mem_allChildren.mpr linked) own

def Elsewhere (tree later : Tree Action) (id : NodeId) : Prop :=
  ∀ other, other ≠ id → (later.node other).comparison? = (tree.node other).comparison? ∧
    (later.node other).parent? = (tree.node other).parent?

theorem Elsewhere.symm (elsewhere : Elsewhere tree later id) : Elsewhere later tree id := by
  intro other different
  obtain ⟨modes, parents⟩ := elsewhere other different
  exact ⟨modes.symm, parents.symm⟩

theorem Elsewhere.inherits (elsewhere : Elsewhere tree later id)
    (inherits : tree.Inherits below id) : later.Inherits below id := by
  induction inherits with
  | refl => exact .refl _
  | @step below _ above own linked _ ih =>
      by_cases same : below = above
      · subst same
        exact .refl below
      · obtain ⟨modes, parents⟩ := elsewhere below same
        exact .step (modes.trans own) (parents.trans linked) (ih elsewhere)

theorem Elsewhere.inherits_iff (elsewhere : Elsewhere tree later id) :
    later.Inherits below id ↔ tree.Inherits below id :=
  ⟨elsewhere.symm.inherits, elsewhere.inherits⟩

theorem comparison_loose (forest : tree.Forest) (own : (tree.node id).comparison? = none)
    (loose : (tree.node id).parent? = none) : tree.comparison id = .insensitive := by
  simp [comparison, forest.lineage_eq (.top loose), own]

theorem Elsewhere.comparison_eq (elsewhere : Elsewhere tree later id) (forest : tree.Forest)
    (laterForest : later.Forest) (apart : ¬ tree.Inherits menu id) :
    later.comparison menu = tree.comparison menu := by
  have ascent := forest.ascent_lineage menu
  generalize tree.lineage menu = path at ascent
  induction ascent with
  | @top menu loose =>
      have different : menu ≠ id := fun same => apart (same ▸ .refl menu)
      obtain ⟨modes, parents⟩ := elsewhere menu different
      cases own : (tree.node menu).comparison? with
      | some mode => rw [comparison_own forest own, comparison_own laterForest (modes.trans own)]
      | none =>
          rw [comparison_loose forest own loose,
            comparison_loose laterForest (modes.trans own) (parents.trans loose)]
  | @step menu parent _ linked _ ih =>
      have different : menu ≠ id := fun same => apart (same ▸ .refl menu)
      obtain ⟨modes, parents⟩ := elsewhere menu different
      cases own : (tree.node menu).comparison? with
      | some mode => rw [comparison_own forest own, comparison_own laterForest (modes.trans own)]
      | none =>
          have higher : ¬ tree.Inherits parent id := fun inherits => apart (.step own linked inherits)
          rw [comparison_inherited forest own linked,
            comparison_inherited laterForest (modes.trans own) (parents.trans linked), ih higher]

theorem Elsewhere.comparison_cases (elsewhere : Elsewhere tree later id) (forest : tree.Forest)
    (laterForest : later.Forest) (menu : NodeId) :
    (tree.HandsDown id menu → later.comparison menu = later.comparison id) ∧
      (¬ tree.HandsDown id menu → later.comparison menu = tree.comparison menu) := by
  rw [handsDown_iff_inherits forest]
  constructor
  · intro inherits
    exact (elsewhere.inherits inherits).comparison_eq laterForest
  · intro apart
    exact elsewhere.comparison_eq forest laterForest apart

theorem elsewhere_withMode (id : NodeId) (mode : Comparison) :
    Elsewhere tree (tree.withMode id mode) id := by
  intro other different
  rw [withMode, node_modify_of_ne different]
  exact ⟨rfl, rfl⟩

theorem Forest.withMode (forest : tree.Forest) (id : NodeId) (mode : Comparison) :
    (tree.withMode id mode).Forest := by
  unfold Tree.withMode
  apply forest.modify <;> exact fun _ => rfl

theorem comparison_withMode_self (forest : tree.Forest) (bound : id < tree.size)
    (mode : Comparison) : (tree.withMode id mode).comparison id = mode := by
  apply comparison_own (forest.withMode id mode)
  rw [withMode, node_modify_self bound]

theorem apart_withMode_iff {inForce : Comparison} :
    (tree.withMode id mode).Apart inForce menu ↔ tree.Apart inForce menu := by
  have children : ((tree.withMode id mode).node menu).children = (tree.node menu).children := by
    rw [withMode, field_modify Node.children]
    exact fun _ => rfl
  simp only [Apart, children, selector, selector_withMode]

theorem clash?_withMode_eq_none_iff (forest : tree.Forest) (bound : id < tree.size) :
    (tree.withMode id mode).clash? id = none ↔
      ∀ menu, tree.HandsDown id menu → tree.Apart mode menu := by
  rw [clash?_eq_none_iff (forest.withMode id mode), comparison_withMode_self forest bound]
  simp only [(elsewhere_withMode id mode).inherits_iff, apart_withMode_iff,
    handsDown_iff_inherits forest]

theorem setComparison_isOk_iff (forest : tree.Forest) (bound : id < tree.size) :
    (tree.setComparison id mode).1.isOk = true ↔
      ∀ menu, tree.HandsDown id menu → tree.Apart mode menu := by
  rw [← clash?_withMode_eq_none_iff forest bound]
  unfold setComparison
  rw [← withMode]
  cases clash : (tree.withMode id mode).clash? id with
  | some selector => simp [clash, Except.isOk, Except.toBool]
  | none => simp [clash, Except.isOk, Except.toBool]

/-- A mode can be set exactly if no siblings are equal under it wherever the node hands it down. It is
then in force there, the other nodes keep theirs, and nothing else in the tree has changed. Siblings
are spelled differently in any case, so a case sensitive mode can always be set. -/
theorem setComparison_governs_reach (reachable : tree.Reachable) (bound : id < tree.size)
    (mode : Comparison) :
    ((tree.setComparison id mode).1.isOk = true ↔
      ∀ menu, tree.HandsDown id menu → tree.Apart mode menu) ∧
    ((tree.setComparison id mode).1.isOk = true →
      let later := (tree.setComparison id mode).2
      (∀ menu, (tree.HandsDown id menu → later.comparison menu = mode) ∧
        (¬ tree.HandsDown id menu → later.comparison menu = tree.comparison menu)) ∧
      later.node id = { tree.node id with comparison? := some mode } ∧
      (∀ other, other ≠ id → later.node other = tree.node other) ∧
      later.size = tree.size ∧ later.switches = tree.switches) ∧
    (tree.setComparison id .sensitive).1.isOk = true := by
  have forest := reachable.forest
  refine ⟨setComparison_isOk_iff forest bound, ?_, ?_⟩
  · intro succeeded later
    have changed : later = tree.withMode id mode := by
      rcases setComparison_cases bound mode with ⟨error, failed⟩ | ⟨governed, -⟩
      · simp [failed, Except.isOk, Except.toBool] at succeeded
      · exact congrArg Prod.snd governed
    rw [changed]
    refine ⟨?_, ?_, ?_, size_withMode mode, rfl⟩
    · intro menu
      have inForce := (elsewhere_withMode id mode).comparison_cases forest
        (forest.withMode id mode) menu
      rwa [comparison_withMode_self forest bound] at inForce
    · rw [withMode, node_modify_self bound]
    · intro other different
      rw [withMode, node_modify_of_ne different]
  · rw [setComparison_isOk_iff forest bound]
    intro menu _
    exact reachable.distinct.spelled menu

theorem setComparison_governs_reach_of_default_item :
    let sensitive : Node Unit := { Node.menu "own" with comparison? := some .sensitive }
    let tree := (empty .sensitive : Tree Unit).applyAll
      [.add 0 (.menu "sub"), .add 1 {}, .add 2 (.leaf "Go" ()), .add 2 (.leaf "go" ()),
        .add 1 sensitive, .add 5 (.leaf "On" ()), .add 5 (.leaf "on" ())]
    let parted := (tree.apply (.detach 4)).2
    let later := (parted.setComparison 1 .insensitive).2
    (tree.setComparison 1 .insensitive).1.isOk = false ∧
      (parted.setComparison 1 .insensitive).1.isOk = true ∧
      later.comparison 2 = .insensitive ∧ later.comparison 5 = parted.comparison 5 ∧
      (parted.setComparison 1 .sensitive).1.isOk = true := by
  intro sensitive tree parted later
  have reaches : (empty .sensitive).Reaches tree := Reaches.refl.applyAll (by decide)
  have partedReachable : parted.Reachable :=
    ⟨.sensitive, reaches.step (show (Edit.detach 4).Within tree by decide)⟩
  obtain ⟨accepts, -, -⟩ := setComparison_governs_reach ⟨.sensitive, reaches⟩
    (show 1 < tree.size by decide) .insensitive
  obtain ⟨-, governs, spelled⟩ := setComparison_governs_reach partedReachable
    (show 1 < parted.size by decide) .insensitive
  have succeeds : (parted.setComparison 1 .insensitive).1.isOk = true := by decide
  obtain ⟨inForce, -⟩ := governs succeeds
  refine ⟨?_, succeeds, ?_, ?_, spelled⟩
  · rw [Bool.eq_false_iff]
    intro accepted
    have item : tree.HandsDown 1 2 := .further .self (by decide) (by decide)
    have upper : tree.selector 3 = "Go" := by decide
    have lower : tree.selector 4 = "go" := by decide
    have differs := accepts.mp accepted 2 item 3 (by decide) 4 (by decide) (by decide)
    rw [upper, lower] at differs
    exact absurd differs (by decide)
  · exact (inForce 2).1 (.further .self (by decide) (by decide))
  · refine (inForce 5).2 fun comes => ?_
    rw [handsDown_iff_inherits partedReachable.forest] at comes
    cases comes with
    | step own _ _ => exact absurd own (by decide)

end Tree

end MenuShell

import MenuShell.Proofs.Tree.Room
import MenuShell.Proofs.Tree.Shortening
import MenuShell.Tree.Help

/-!
What is done to a hidden node stays hidden. Whoever stands neither in the node nor below it sees the
same tree when the node is given another help, prompt or action, when it is moved or let go, and
whatever happens below it: words mean what they meant, abbreviations are as short as they were, and
help shows the same text.
-/

namespace MenuShell

namespace Tree

variable {Action : Type} {tree middle later : Tree Action} {hidden menu parent child id : NodeId}

def Outside (tree : Tree Action) (hidden id : NodeId) : Prop :=
  id < tree.size ∧ hidden ∉ tree.lineage id

instance (tree : Tree Action) (hidden id : NodeId) : Decidable (tree.Outside hidden id) :=
  inferInstanceAs (Decidable (id < tree.size ∧ hidden ∉ tree.lineage id))

theorem Forest.lineage_suffix (forest : tree.Forest) {upper : NodeId}
    (member : upper ∈ tree.lineage id) : tree.lineage upper <:+ tree.lineage id := by
  obtain ⟨rest, ascent, shorter⟩ := (forest.ascent_lineage id).from_mem member
  rwa [forest.lineage_eq ascent]

namespace Outside

theorem ne_hidden (outside : tree.Outside hidden id) (forest : tree.Forest) : id ≠ hidden := by
  rintro rfl
  exact outside.2 (forest.mem_lineage_self id)

theorem upper (outside : tree.Outside hidden id) (forest : tree.Forest) {upper : NodeId}
    (member : upper ∈ tree.lineage id) : tree.Outside hidden upper := by
  refine ⟨forest.ascent_lt (forest.ascent_lineage id) outside.1 upper member, ?_⟩
  exact fun above => outside.2 ((forest.lineage_suffix member).subset above)

theorem above (outside : tree.Outside hidden id) (forest : tree.Forest)
    (linked : (tree.node id).parent? = some parent) : tree.Outside hidden parent := by
  apply outside.upper forest
  rw [forest.lineage_step linked]
  exact List.mem_cons_of_mem _ (forest.mem_lineage_self parent)

theorem below (outside : tree.Outside hidden menu) (forest : tree.Forest)
    (linked : (tree.node id).parent? = some menu) (other : id ≠ hidden) :
    tree.Outside hidden id := by
  refine ⟨lt_size_of_parent linked, ?_⟩
  rw [forest.lineage_step linked, List.mem_cons, not_or]
  exact ⟨Ne.symm other, outside.2⟩

end Outside

/-- A change of the hidden node that leaves it hidden, or of nodes below it. Storing a node that hangs
nowhere is always one. -/
def Edit.Beneath (tree : Tree Action) (hidden : NodeId) : Edit Action → Prop
  | .insert _ | .copy _ => True
  | .add parent _ => hidden ∈ tree.lineage parent
  | .attach parent child => hidden ∈ tree.lineage parent ∨ child = hidden
  | .detach id | .setComparison id _ | .setHelp id _ | .setPrompt id _ | .setAction id _ =>
    hidden ∈ tree.lineage id
  | .setSwitch id _ => hidden ∈ tree.lineage id ∧ id ≠ hidden
  | .turn _ _ => False

instance (tree : Tree Action) (hidden : NodeId) :
    (edit : Edit Action) → Decidable (edit.Beneath tree hidden)
  | .insert _ | .copy _ => inferInstanceAs (Decidable True)
  | .add parent _ => inferInstanceAs (Decidable (hidden ∈ tree.lineage parent))
  | .attach parent child =>
    inferInstanceAs (Decidable (hidden ∈ tree.lineage parent ∨ child = hidden))
  | .detach id | .setComparison id _ | .setHelp id _ | .setPrompt id _ | .setAction id _ =>
    inferInstanceAs (Decidable (hidden ∈ tree.lineage id))
  | .setSwitch id _ => inferInstanceAs (Decidable (hidden ∈ tree.lineage id ∧ id ≠ hidden))
  | .turn _ _ => inferInstanceAs (Decidable False)

/-- Two trees with the same nodes outside the hidden one, but for links to the hidden one itself. -/
structure Spares (hidden : NodeId) (tree later : Tree Action) : Prop where
  size : tree.size ≤ later.size
  switches : later.switches = tree.switches
  screen : (later.node hidden).switch? = (tree.node hidden).switch?
  own : ∀ id, tree.Outside hidden id → (later.node id).unlinked = (tree.node id).unlinked
  above : ∀ id, tree.Outside hidden id → later.Outside hidden id →
    (later.node id).parent? = (tree.node id).parent?
  children : ∀ id, tree.Outside hidden id →
    (later.node id).children.filter (· ≠ hidden) = (tree.node id).children.filter (· ≠ hidden)
  fallback : ∀ id, tree.Outside hidden id →
    (later.node id).defaultChild?.filter (· ≠ hidden) =
      (tree.node id).defaultChild?.filter (· ≠ hidden)

namespace Spares

theorem of_same (size : tree.size ≤ later.size) (switches : later.switches = tree.switches)
    (screen : (later.node hidden).switch? = (tree.node hidden).switch?)
    (same : ∀ id, tree.Outside hidden id → later.node id = tree.node id) :
    Spares hidden tree later := by
  refine ⟨size, switches, screen, ?_, ?_, ?_, ?_⟩
  · intro id outside
    rw [same id outside]
  · intro id outside _
    rw [same id outside]
  · intro id outside
    rw [same id outside]
  · intro id outside
    rw [same id outside]

theorem refl (hidden : NodeId) (tree : Tree Action) : Spares hidden tree tree :=
  of_same (Nat.le_refl _) rfl rfl fun _ _ => rfl

theorem insert (stored : hidden < tree.size) (node : Node Action) :
    Spares hidden tree (tree.insert node).2 := by
  have old : ∀ id < tree.size, (tree.insert node).2.node id = tree.node id := fun id bound =>
    node_insert_of_ne node (Nat.ne_of_lt bound)
  refine of_same (by simp) rfl ?_ ?_
  · rw [old hidden stored]
  · exact fun id outside => old id outside.1

theorem modify (beneath : hidden ∈ tree.lineage id) {change : Node Action → Node Action}
    (screen : id = hidden → ∀ node, (change node).switch? = node.switch?) :
    Spares hidden tree (tree.modify id change) := by
  refine of_same (by simp) rfl ?_ ?_
  · by_cases same : id = hidden
    · exact field_modify Node.switch? (screen same) id hidden
    · rw [node_modify_of_ne (Ne.symm same)]
  · intro other outside
    apply node_modify_of_ne
    rintro rfl
    exact outside.2 beneath

theorem add (stored : hidden < tree.size) (bound : parent < tree.size)
    (beneath : hidden ∈ tree.lineage parent) (node : Node Action) :
    Spares hidden tree ((tree.insert node).2.link parent tree.size) := by
  have grown := grown_link bound node
  refine of_same (by simp [grown.size]) rfl ?_ ?_
  · exact grown.field_old Node.switch? (fun _ => rfl) (Nat.ne_of_lt stored)
  · intro id outside
    apply grown.others id (Nat.ne_of_lt outside.1)
    rintro rfl
    exact outside.2 beneath

theorem link (forest : tree.Forest) (free : tree.Free parent child)
    (beneath : hidden ∈ tree.lineage parent ∨ child = hidden) :
    Spares hidden tree (tree.link parent child) := by
  refine ⟨by simp, rfl, ?_, ?_, ?_, ?_, ?_⟩
  · simpa only [Node.unlinked] using
      congrArg Node.switch? (unlinked_link tree parent child hidden)
  · intro id _
    exact unlinked_link tree parent child id
  · intro id outside still
    rw [parent_link free.childBound]
    split
    · -- A child that is hung below the hidden node is not outside any more.
      rename_i same
      subst same
      exfalso
      rcases beneath with below | same
      · have linked : ((tree.link parent id).node id).parent? = some parent := by
          rw [parent_link free.childBound, if_pos rfl]
        have upper := still.above (forest.link free) linked
        have kept : (tree.link parent id).lineage parent = tree.lineage parent :=
          (forest.link free).lineage_eq
            ((forest.ascent_lineage parent).link_of_not_mem free.childBound free.notAbove)
        exact upper.2 (kept ▸ below)
      · exact outside.ne_hidden forest same
    · rfl
  · intro id outside
    rw [children_link free.parentBound]
    split
    · rename_i linked
      rcases beneath with below | same
      · exact absurd (linked.1 ▸ below) outside.2
      · simp [same]
    · rfl
  · intro id outside
    rw [defaultChild_link free.parentBound]
    split
    · rename_i linked
      rcases beneath with below | same
      · exact absurd (linked.1 ▸ below) outside.2
      · simp [same, linked.1, free.vacant linked.2]
    · rfl

theorem unlink (forest : tree.Forest) (linked : (tree.node child).parent? = some parent)
    (beneath : hidden ∈ tree.lineage child) :
    Spares hidden tree (tree.unlink parent child) := by
  have parentBound := forest.parent_lt linked
  -- Only the hidden node itself can hang from a node that is outside.
  have hangs : tree.Outside hidden parent → child = hidden := by
    intro outside
    rw [forest.lineage_step linked] at beneath
    rcases List.mem_cons.mp beneath with same | above
    · exact same.symm
    · exact absurd above outside.2
  refine ⟨by simp, rfl, ?_, ?_, ?_, ?_, ?_⟩
  · simpa only [Node.unlinked] using
      congrArg Node.switch? (unlinked_unlink tree parent child hidden)
  · intro id _
    exact unlinked_unlink tree parent child id
  · intro id outside _
    rw [parent_unlink (lt_size_of_parent linked), if_neg]
    rintro rfl
    exact outside.2 beneath
  · intro id outside
    rw [children_unlink parentBound]
    split
    · rename_i upper
      rw [hangs (upper.1 ▸ outside)]
      simp
    · rfl
  · intro id outside
    rw [defaultChild_unlink parentBound]
    split
    · rename_i upper
      rw [upper.1, upper.2, hangs (upper.1 ▸ outside)]
      simp [Option.filter]
    · rfl

end Spares

theorem spares_of_beneath (forest : tree.Forest) (stored : hidden < tree.size)
    {edit : Edit Action} (within : edit.Within tree) (beneath : edit.Beneath tree hidden) :
    Spares hidden tree (tree.apply edit).2 := by
  cases edit with
  | insert node => exact .insert stored node
  | copy id => exact .insert stored _
  | add parent node =>
      rcases add_cases forest within node with ⟨error, failed⟩ | ⟨added, -⟩
      · simp only [apply, failed]
        exact .refl hidden tree
      · simp only [apply, added]
        exact .add stored within beneath node
  | attach parent child =>
      cases obstacle : tree.attachObstacle? parent child with
      | some error =>
          simp only [apply, attach, obstacle, linked]
          exact .refl hidden tree
      | none =>
          have free := (attachObstacle?_eq_none_iff within.1 within.2).mp obstacle
          rcases attach_cases forest within.1 within.2 with ⟨error, failed⟩ | ⟨hung, -⟩
          · simp only [apply, failed, linked]
            exact .refl hidden tree
          · simp only [apply, hung, linked]
            exact .link forest free beneath
  | detach child =>
      rcases detach_cases tree child with ⟨error, failed⟩ | ⟨parent, below, letGo⟩
      · simp only [apply, failed, linked]
        exact .refl hidden tree
      · simp only [apply, letGo, linked]
        exact .unlink forest below beneath
  | setComparison id mode =>
      rcases setComparison_cases within mode with ⟨error, failed⟩ | ⟨changed, -⟩
      · simp only [apply, failed, linked]
        exact .refl hidden tree
      · simp only [apply, changed, linked]
        exact .modify beneath fun _ _ => rfl
  | setHelp id _ | setPrompt id _ | setAction id _ => exact .modify beneath fun _ _ => rfl
  | setSwitch id _ => exact .modify beneath.1 fun same => absurd same beneath.2
  | turn _ _ => exact beneath.elim

/-! ### What is seen from outside -/

theorem visibleChildren_of_hidden (hides : tree.isVisible hidden = false) (menu : NodeId) :
    tree.visibleChildren menu =
      ((tree.node menu).children.filter (· ≠ hidden)).filter tree.isVisible := by
  rw [visibleChildren, List.filter_filter]
  apply List.filter_congr
  intro id _
  by_cases same : id = hidden <;> simp [same, hides]

theorem visibleDefault?_of_hidden (hides : tree.isVisible hidden = false) (menu : NodeId) :
    tree.visibleDefault? menu =
      ((tree.node menu).defaultChild?.filter (· ≠ hidden)).filter tree.isVisible := by
  rw [visibleDefault?, defaultChild?]
  cases (tree.node menu).defaultChild? with
  | none => rfl
  | some item => by_cases same : item = hidden <;> simp [Option.filter, same, hides]

theorem Outside.visible_child (outside : tree.Outside hidden menu) (forest : tree.Forest)
    (hides : tree.isVisible hidden = false) (visible : id ∈ tree.visibleChildren menu) :
    tree.Outside hidden id := by
  obtain ⟨child, shown⟩ := List.mem_filter.mp visible
  apply outside.below forest ((forest.named menu id).mp child).2
  rintro rfl
  simp [hides] at shown

theorem stored_of_hidden (hides : tree.isVisible hidden = false) : hidden < tree.size := by
  apply lt_size_of_ne
  intro blank
  simp [isVisible, blank] at hides

namespace Spares

section View

variable (spares : Spares hidden tree later)

include spares

theorem field (outside : tree.Outside hidden id) {Value : Type} (field : Node Action → Value)
    (apart : ∀ node, field (Node.unlinked node) = field node) :
    field (later.node id) = field (tree.node id) := by
  rw [← apart, ← apart (tree.node id), spares.own id outside]

theorem selector_eq (outside : tree.Outside hidden id) :
    later.selector id = tree.selector id := by
  rw [selector, selector, spares.field outside Node.selector? fun _ => rfl]

theorem isOn_eq : later.isOn = tree.isOn := by
  funext switch
  rw [isOn, isOn, spares.switches]

theorem isVisible_eq (outside : tree.Outside hidden id) :
    later.isVisible id = tree.isVisible id := by
  rw [isVisible, isVisible, spares.isOn_eq, spares.field outside Node.switch? fun _ => rfl]

theorem hides (hides : tree.isVisible hidden = false) : later.isVisible hidden = false := by
  rw [isVisible, spares.isOn_eq, spares.screen]
  exact hides

variable (forest : tree.Forest)

include forest

theorem visibleChildren_eq (hides : tree.isVisible hidden = false)
    (outside : tree.Outside hidden menu) :
    later.visibleChildren menu = tree.visibleChildren menu := by
  rw [visibleChildren_of_hidden (spares.hides hides), visibleChildren_of_hidden hides,
    spares.children menu outside]
  apply List.filter_congr
  intro id member
  obtain ⟨child, other⟩ := List.mem_filter.mp member
  exact spares.isVisible_eq
    (outside.below forest ((forest.named menu id).mp child).2 (of_decide_eq_true other))

theorem visibleDefault?_eq (hides : tree.isVisible hidden = false)
    (outside : tree.Outside hidden menu) :
    later.visibleDefault? menu = tree.visibleDefault? menu := by
  rw [visibleDefault?_of_hidden (spares.hides hides), visibleDefault?_of_hidden hides,
    spares.fallback menu outside]
  cases default : (tree.node menu).defaultChild? with
  | none => rfl
  | some item =>
      have linked := ((forest.unnamed menu item).mp default).2
      by_cases same : item = hidden
      · simp [Option.filter, same]
      · simp [Option.filter, same, spares.isVisible_eq (outside.below forest linked same)]

variable (laterForest : later.Forest)

include laterForest

theorem lineage_eq (outside : tree.Outside hidden id) (still : later.Outside hidden id) :
    later.lineage id = tree.lineage id := by
  have ascent := forest.ascent_lineage id
  generalize tree.lineage id = path at ascent
  induction ascent with
  | top free =>
      have kept := spares.above _ outside still
      exact laterForest.lineage_eq (.top (by rw [kept, free]))
  | step linked _ ih =>
      have kept := spares.above _ outside still
      rw [linked] at kept
      rw [laterForest.lineage_step kept,
        ih (outside.above forest linked) (still.above laterForest kept)]

theorem comparison_eq (outside : tree.Outside hidden id) (still : later.Outside hidden id) :
    later.comparison id = tree.comparison id := by
  have modes : ∀ upper ∈ tree.lineage id,
      (later.node upper).comparison? = (tree.node upper).comparison? := fun upper member =>
    spares.field (outside.upper forest member) Node.comparison? fun _ => rfl
  rw [comparison, comparison, spares.lineage_eq forest laterForest outside still]
  congr 1
  generalize tree.lineage id = path at modes
  induction path with
  | nil => rfl
  | cons upper above ih =>
      rw [List.findSome?_cons, List.findSome?_cons, modes upper List.mem_cons_self,
        ih fun other member => modes other (List.mem_cons_of_mem _ member)]

end View

end Spares

/-! ### What a menu answers -/

structure SameAnswers (tree later : Tree Action) (menu : NodeId) : Prop where
  candidates : ∀ word mode, later.candidates menu word mode = tree.candidates menu word mode
  resolve : ∀ word mode, later.resolve menu word mode = tree.resolve menu word mode
  resolveNamed : ∀ word mode, later.resolveNamed menu word mode = tree.resolveNamed menu word mode
  visible : later.visibleChildren menu = tree.visibleChildren menu
  abbreviation : ∀ id ∈ tree.visibleChildren menu, ∀ mode,
    later.abbreviation? menu id mode = tree.abbreviation? menu id mode
  abbreviations : ∀ mode, later.abbreviations menu mode = tree.abbreviations menu mode
  hasVisibleChildren : later.hasVisibleChildren menu = tree.hasVisibleChildren menu
  help : ∀ topic, later.help menu topic = tree.help menu topic

namespace SameAnswers

theorem refl (tree : Tree Action) (menu : NodeId) : SameAnswers tree tree menu :=
  ⟨fun _ _ => rfl, fun _ _ => rfl, fun _ _ => rfl, rfl, fun _ _ _ => rfl, fun _ => rfl, rfl,
    fun _ => rfl⟩

theorem trans (first : SameAnswers tree middle menu) (second : SameAnswers middle later menu) :
    SameAnswers tree later menu := by
  refine ⟨?_, ?_, ?_, ?_, ?_, ?_, ?_, ?_⟩
  · intro word mode
    rw [second.candidates, first.candidates]
  · intro word mode
    rw [second.resolve, first.resolve]
  · intro word mode
    rw [second.resolveNamed, first.resolveNamed]
  · rw [second.visible, first.visible]
  · intro id visible mode
    rw [second.abbreviation id (first.visible ▸ visible), first.abbreviation id visible]
  · intro mode
    rw [second.abbreviations, first.abbreviations]
  · rw [second.hasVisibleChildren, first.hasVisibleChildren]
  · intro topic
    rw [second.help, first.help]

end SameAnswers

structure SameView (tree later : Tree Action) (menu : NodeId) : Prop where
  visible : later.visibleChildren menu = tree.visibleChildren menu
  fallback : later.visibleDefault? menu = tree.visibleDefault? menu
  selectors : ∀ id ∈ tree.visibleChildren menu, later.selector id = tree.selector id

namespace SameView

variable (view : SameView tree later menu)

include view

theorem sortBySelector_eq {ids : List NodeId} (listed : ids ⊆ tree.visibleChildren menu) :
    later.sortBySelector ids = tree.sortBySelector ids := by
  apply sortBy_congr
  intro left leftMember right rightMember
  rw [view.selectors left (listed leftMember), view.selectors right (listed rightMember)]

theorem filter_eq (holds : String → Bool) :
    ((later.visibleChildren menu).filter fun id => holds (later.selector id)) =
      (tree.visibleChildren menu).filter fun id => holds (tree.selector id) := by
  rw [view.visible]
  apply List.filter_congr
  intro id member
  rw [view.selectors id member]

theorem candidates_eq (word : String) (mode : Comparison) :
    later.candidates menu word mode = tree.candidates menu word mode := by
  have exact_eq : later.exactMatches menu word mode = tree.exactMatches menu word mode :=
    view.filter_eq fun selector => mode.same selector word
  have abbreviated_eq : later.abbreviated menu word mode = tree.abbreviated menu word mode :=
    view.filter_eq fun selector => mode.begins selector word
  rw [candidates, candidates, exact_eq, abbreviated_eq]
  apply view.sortBySelector_eq
  split
  · exact List.filter_subset_self _
  · exact List.filter_subset_self _

theorem selectors_eq (word : String) (mode : Comparison) :
    (tree.candidates menu word mode).map later.selector =
      (tree.candidates menu word mode).map tree.selector := by
  apply List.map_congr_left
  intro id member
  apply view.selectors id
  rcases mem_candidates.mp member with equals | ⟨-, starts⟩
  · exact equals.1
  · exact starts.1

theorem resolveNamed_eq (word : String) (mode : Comparison) :
    later.resolveNamed menu word mode = tree.resolveNamed menu word mode := by
  have suggestions_eq : later.suggestions menu word mode = tree.suggestions menu word mode := by
    cases mode with
    | insensitive => rfl
    | sensitive =>
        simp only [suggestions, view.candidates_eq, view.selectors_eq]
  have listed := view.selectors_eq word mode
  rw [resolveNamed, resolveNamed, view.candidates_eq, suggestions_eq]
  split <;> simp_all

theorem resolve_eq (word : String) (mode : Comparison) :
    later.resolve menu word mode = tree.resolve menu word mode := by
  rw [resolve, resolve, view.resolveNamed_eq, view.fallback]

theorem abbreviation?_eq (visible : id ∈ tree.visibleChildren menu) (mode : Comparison) :
    later.abbreviation? menu id mode = tree.abbreviation? menu id mode := by
  simp only [abbreviation?, shortestMeaning?, view.selectors id visible, view.candidates_eq]

theorem abbreviations_eq (mode : Comparison) :
    later.abbreviations menu mode = tree.abbreviations menu mode := by
  rw [abbreviations, abbreviations, view.visible,
    view.sortBySelector_eq (List.Subset.refl _)]
  apply List.map_congr_left
  intro id member
  have visible : id ∈ tree.visibleChildren menu := mem_sortBy.mp member
  rw [view.selectors id visible, view.abbreviation?_eq visible]

theorem hasVisibleChildren_eq : later.hasVisibleChildren menu = tree.hasVisibleChildren menu := by
  rw [hasVisibleChildren, hasVisibleChildren, view.visible, view.fallback]

end SameView

namespace Spares

section Help

variable (spares : Spares hidden tree later) (forest : tree.Forest) (laterForest : later.Forest)
  (hides : tree.isVisible hidden = false)

include spares forest hides

theorem sameView (outside : tree.Outside hidden menu) : SameView tree later menu := by
  refine ⟨spares.visibleChildren_eq forest hides outside,
    spares.visibleDefault?_eq forest hides outside, ?_⟩
  intro id visible
  exact spares.selector_eq (outside.visible_child forest hides visible)

theorem itemHelp_eq (outside : tree.Outside hidden menu) :
    later.itemHelp menu = tree.itemHelp menu := by
  rw [itemHelp, itemHelp, describe, describe, spares.visibleChildren_eq forest hides outside,
    spares.field outside Node.help? fun _ => rfl, spares.field outside Node.selector? fun _ => rfl]

include laterForest

theorem listing_eq (outside : tree.Outside hidden menu) (still : later.Outside hidden menu) :
    later.listing menu = tree.listing menu := by
  have view := spares.sameView forest hides outside
  rw [listing, listing, spares.comparison_eq forest laterForest outside still,
    view.abbreviations_eq]

theorem descend_eq (words : List String) (outside : tree.Outside hidden menu)
    (still : later.Outside hidden menu) :
    later.descend menu words = tree.descend menu words ∧
      ∀ id, tree.descend menu words = .ok id → tree.Outside hidden id ∧ later.Outside hidden id := by
  -- The way that a topic leads passes visible children only, so it never enters the hidden node.
  induction words generalizing menu with
  | nil =>
      refine ⟨rfl, ?_⟩
      rintro id ⟨⟩
      exact ⟨outside, still⟩
  | cons word others ih =>
      have view := spares.sameView forest hides outside
      simp only [descend]
      rw [spares.comparison_eq forest laterForest outside still, view.resolveNamed_eq]
      cases meaning : tree.resolveNamed menu word (tree.comparison menu) with
      | error error => exact ⟨rfl, by simp⟩
      | ok child =>
          have visible : child ∈ tree.visibleChildren menu := (starts_of_resolveNamed meaning).1
          have laterVisible : child ∈ later.visibleChildren menu := view.visible ▸ visible
          exact ih (outside.visible_child forest hides visible)
            (still.visible_child laterForest (spares.hides hides) laterVisible)

theorem help_eq (outside : tree.Outside hidden menu) (still : later.Outside hidden menu)
    (topic : String) : later.help menu topic = tree.help menu topic := by
  rw [help, help]
  split
  · rw [spares.itemHelp_eq forest hides outside,
      spares.listing_eq forest laterForest hides outside still]
  · obtain ⟨same, places⟩ :=
      spares.descend_eq forest laterForest hides (topicWords topic) outside still
    rw [same]
    cases led : tree.descend menu (topicWords topic) with
    | error error => rfl
    | ok id =>
        obtain ⟨idOutside, idStill⟩ := places id led
        dsimp only
        rw [spares.itemHelp_eq forest hides idOutside,
          spares.listing_eq forest laterForest hides idOutside idStill]

theorem sameAnswers (outside : tree.Outside hidden menu) (still : later.Outside hidden menu) :
    SameAnswers tree later menu := by
  have view := spares.sameView forest hides outside
  exact ⟨view.candidates_eq, view.resolve_eq, view.resolveNamed_eq, view.visible,
    fun _ visible => view.abbreviation?_eq visible, view.abbreviations_eq,
    view.hasVisibleChildren_eq, spares.help_eq forest laterForest hides outside still⟩

end Help

end Spares

def Confined (tree : Tree Action) (hidden menu : NodeId) : List (Edit Action) → Prop
  | [] => tree.Outside hidden menu
  | edit :: others =>
    (tree.Outside hidden menu ∧ edit.Within tree ∧ edit.Beneath tree hidden) ∧
      Confined (tree.apply edit).2 hidden menu others

instance decidableConfined (tree : Tree Action) (hidden menu : NodeId) :
    (edits : List (Edit Action)) → Decidable (tree.Confined hidden menu edits)
  | [] => inferInstanceAs (Decidable (tree.Outside hidden menu))
  | edit :: others =>
    have := decidableConfined (tree.apply edit).2 hidden menu others
    inferInstanceAs (Decidable (_ ∧ Confined (tree.apply edit).2 hidden menu others))

theorem Confined.outside {edits : List (Edit Action)} (confined : tree.Confined hidden menu edits) :
    tree.Outside hidden menu := by
  cases edits with
  | nil => exact confined
  | cons _ _ => exact confined.1.1

/-- Nothing that is done in or below a hidden node, and neither moving it nor letting it go, changes
what a menu elsewhere answers. -/
theorem sameAnswers_of_confined (reachable : tree.Reachable)
    (hides : tree.isVisible hidden = false) (edits : List (Edit Action))
    (confined : tree.Confined hidden menu edits) :
    SameAnswers tree (tree.applyAll edits) menu := by
  have forest := reachable.forest
  clear reachable
  induction edits generalizing tree with
  | nil => exact .refl tree menu
  | cons edit others ih =>
      obtain ⟨⟨outside, within, beneath⟩, rest⟩ := confined
      have spares := spares_of_beneath forest (stored_of_hidden hides) within beneath
      have laterForest := forest.moves (apply_cases forest within).1
      have step := spares.sameAnswers forest laterForest hides outside rest.outside
      exact step.trans (ih (spares.hides hides) rest laterForest)

theorem sameAnswers_of_hidden_menu :
    let hidden : Node Unit := { Node.menu "add" with switch? := some "expert" }
    let tree := (empty .sensitive : Tree Unit).applyAll
      [.add 0 (.leaf "address" ()), .add 0 hidden, .add 2 (.leaf "one" ()), .add 0 (.menu "more"),
        .turn "expert" false]
    let later := tree.applyAll
      [.setHelp 2 (some "adds"), .setAction 2 (some ()), .setComparison 2 .insensitive, .detach 3,
        .add 2 (.leaf "two" ()), .detach 2, .attach 4 2, .detach 2]
    (tree.node 0).children = [1, 2, 4] ∧ (later.node 0).children = [1, 4] ∧
      later.candidates 0 "add" .sensitive = [1] ∧ SameAnswers tree later 0 := by
  intro hidden tree later
  have reachable : tree.Reachable := ⟨.sensitive, Reaches.refl.applyAll (by decide)⟩
  refine ⟨by decide, by decide, by decide, ?_⟩
  exact sameAnswers_of_confined reachable (show tree.isVisible 2 = false by decide) _ (by decide)

end Tree

end MenuShell

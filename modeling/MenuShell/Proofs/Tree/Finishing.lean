import Mathlib.Data.Nat.Find
import MenuShell.Proofs.Tree.Walking
import MenuShell.Script

/-!
Walks through a tree come to an end. Each is given here as it goes, step by step and without a bound: a
line handed down from command to command, a look upwards, the search of a region for siblings that
cannot be told apart, and help that goes down by the words of its topic. In a forest each of them ends,
and a line passes fewer menus on its way than its node has levels below it, however often a default
item hands it on as it is.
-/

namespace MenuShell

namespace Tree

variable {Action : Type} {tree : Tree Action} {menu id child : NodeId} {line : String} {route : Route}
  {height count : Nat}

inductive Descent (tree : Tree Action) : NodeId → List NodeId → Prop
  | stop (id : NodeId) : Descent tree id [id]
  | step {id child : NodeId} {below : List NodeId} : child ∈ (tree.node id).allChildren →
      Descent tree child below → Descent tree id (id :: below)

/-- The subtree of a node has this many levels, the node's own among them. -/
structure HasHeight (tree : Tree Action) (id : NodeId) (height : Nat) : Prop where
  reached : ∃ way, tree.Descent id way ∧ way.length = height
  longest : ∀ way, tree.Descent id way → way.length ≤ height

theorem Forest.descent_length_le {way : List NodeId} (forest : tree.Forest)
    (descent : tree.Descent id way) : way.length + (tree.lineage id).length ≤ tree.size + 1 := by
  induction descent with
  | stop id =>
      have short := forest.ascent_length_le (forest.ascent_lineage id)
      rw [List.length_singleton]
      omega
  | step below _ ih =>
      rw [forest.lineage_step (forest.mem_allChildren.mp below), List.length_cons] at ih
      rw [List.length_cons]
      omega

theorem Forest.exists_hasHeight (forest : tree.Forest) (id : NodeId) :
    ∃ height, tree.HasHeight id height := by
  classical
  let Reached (levels : Nat) : Prop := ∃ way, tree.Descent id way ∧ way.length = levels
  have bounded : ∀ way, tree.Descent id way → way.length ≤ tree.size + 1 := fun way descent =>
    Nat.le_of_add_right_le (forest.descent_length_le descent)
  have first : Reached 1 := ⟨[id], .stop id, rfl⟩
  refine ⟨Nat.findGreatest Reached (tree.size + 1), ?_, ?_⟩
  · exact Nat.findGreatest_spec (Nat.le_add_left 1 tree.size) first
  · intro way descent
    exact Nat.le_findGreatest (bounded way descent) ⟨way, descent, rfl⟩

/-- A line that is given to a node or typed in a menu takes this many resolutions to this end. -/
inductive Settles (tree : Tree Action) : Visit → Nat → Route → Prop
  | act {id : NodeId} {line : String} : (tree.node id).action?.isSome →
      Settles tree (.execute id line) 0 (.act id line)
  | pass {id : NodeId} {line : String} {count : Nat} {route : Route} :
      (tree.node id).action? = none → tree.hasVisibleChildren id = true →
      Settles tree (.dispatch id line) count route → Settles tree (.execute id line) count route
  | unbound {id : NodeId} {line : String} :
      (tree.node id).action? = none → tree.hasVisibleChildren id = false →
      Settles tree (.execute id line) 0 (.unbound (tree.describe id))
  | named {menu child : NodeId} {line : String} {count : Nat} {route : Route} :
      tree.resolve menu (Text.splitFirstWord line).1 (tree.comparison menu) = .ok (.named child) →
      Settles tree (.execute child (Text.splitFirstWord line).2) count route →
      Settles tree (.dispatch menu line) (count + 1) route
  | fallback {menu item : NodeId} {line : String} {count : Nat} {route : Route} :
      tree.resolve menu (Text.splitFirstWord line).1 (tree.comparison menu) = .ok (.fallback item) →
      Settles tree (.execute item line) count route →
      Settles tree (.dispatch menu line) (count + 1) route
  | report {menu : NodeId} {line : String} {error : MenuError} :
      tree.resolve menu (Text.splitFirstWord line).1 (tree.comparison menu) = .error error →
      Settles tree (.dispatch menu line) 1 (.report error)

theorem Settles.unique {visit : Visit} {other : Nat} {elsewhere : Route}
    (settles : tree.Settles visit count route) (again : tree.Settles visit other elsewhere) :
    other = count ∧ elsewhere = route := by
  induction settles generalizing other elsewhere with
  | act acts =>
      cases again with
      | act _ => exact ⟨rfl, rfl⟩
      | pass passive _ _ => simp [passive] at acts
      | unbound passive _ => simp [passive] at acts
  | pass passive shows _ ih =>
      cases again with
      | act acts => simp [passive] at acts
      | pass _ _ others => exact ih others
      | unbound _ bare => simp [shows] at bare
  | unbound passive bare =>
      cases again with
      | act acts => simp [passive] at acts
      | pass _ shows _ => simp [shows] at bare
      | unbound _ _ => exact ⟨rfl, rfl⟩
  | named means _ ih =>
      cases again with
      | named alike others =>
          obtain ⟨⟩ := means.symm.trans alike
          obtain ⟨rfl, rfl⟩ := ih others
          exact ⟨rfl, rfl⟩
      | fallback alike _ => cases means.symm.trans alike
      | report alike => cases means.symm.trans alike
  | fallback means _ ih =>
      cases again with
      | named alike _ => cases means.symm.trans alike
      | fallback alike others =>
          obtain ⟨⟩ := means.symm.trans alike
          obtain ⟨rfl, rfl⟩ := ih others
          exact ⟨rfl, rfl⟩
      | report alike => cases means.symm.trans alike
  | report means =>
      cases again with
      | named alike _ => cases means.symm.trans alike
      | fallback alike _ => cases means.symm.trans alike
      | report alike =>
          obtain ⟨⟩ := means.symm.trans alike
          exact ⟨rfl, rfl⟩

theorem Settles.iff {visit : Visit} (settles : tree.Settles visit count route) (other : Nat)
    (last : Route) : tree.Settles visit other last ↔ other = count ∧ last = route := by
  constructor
  · exact settles.unique
  · rintro ⟨rfl, rfl⟩
    exact settles

def route? (tree : Tree Action) : Visit → Option Route
  | .menu _ => none
  | .execute id line => tree.executeRoute? id line
  | .dispatch menu line => tree.dispatchRoute? menu line

theorem Settles.route?_eq {visit : Visit} (settles : tree.Settles visit count route)
    (forest : tree.Forest) : tree.route? visit = some route := by
  induction settles with
  | act acts => rw [route?, executeRoute?_eq forest, if_pos acts]
  | pass passive shows _ ih => rw [route?, executeRoute?_of_passive forest passive shows, ← ih, route?]
  | unbound passive bare =>
      rw [route?, executeRoute?_eq forest, passive, bare]
      rfl
  | named means _ ih =>
      simp only [route?, dispatchRoute?, choose, means]
      exact ih
  | fallback means _ ih =>
      simp only [route?, dispatchRoute?, choose, means]
      exact ih
  | report means => simp only [route?, dispatchRoute?, choose, means]

theorem exists_settles_dispatch (forest : tree.Forest)
    (short : ∀ way, tree.Descent menu way → way.length ≤ height + 1)
    (below : ∀ child ∈ (tree.node menu).allChildren, ∀ line, ∃ count route,
      tree.Settles (.execute child line) count route ∧ count < height) (line : String) :
    ∃ count route, tree.Settles (.dispatch menu line) count route ∧ count ≤ height + 1 ∧
      ((tree.node menu).allChildren ≠ [] → count < height + 1) := by
  -- Every resolution leads one level down, so a menu's children settle a line a level below it.
  cases means : tree.resolve menu (Text.splitFirstWord line).1 (tree.comparison menu) with
  | error error =>
      refine ⟨1, _, .report means, short _ (.stop menu), fun some => ?_⟩
      obtain ⟨child, others, all⟩ := List.exists_cons_of_ne_nil some
      exact short _ (.step (by simp [all]) (.stop child))
  | ok resolution =>
      have member := forest.mem_allChildren.mpr (parent_of_resolve forest means)
      cases resolution with
      | named child =>
          obtain ⟨count, route, settles, less⟩ := below child member _
          have lower := Nat.succ_lt_succ less
          exact ⟨count + 1, route, .named means settles, Nat.le_of_lt lower, fun _ => lower⟩
      | fallback item =>
          obtain ⟨count, route, settles, less⟩ := below item member line
          have lower := Nat.succ_lt_succ less
          exact ⟨count + 1, route, .fallback means settles, Nat.le_of_lt lower, fun _ => lower⟩

theorem allChildren_ne_nil (shows : tree.hasVisibleChildren id = true) :
    (tree.node id).allChildren ≠ [] := by
  intro none
  obtain ⟨children, fallback⟩ := List.append_eq_nil_iff.mp none
  rw [Option.toList_eq_nil_iff] at fallback
  simp [hasVisibleChildren, visibleChildren, visibleDefault?, defaultChild?, children, fallback] at shows

theorem exists_settles_execute (forest : tree.Forest)
    (short : ∀ way, tree.Descent id way → way.length ≤ height) (line : String) :
    ∃ count route, tree.Settles (.execute id line) count route ∧ count < height := by
  induction height generalizing id line with
  | zero => exact absurd (short _ (.stop id)) (by simp)
  | succ height ih =>
      cases acts : (tree.node id).action? with
      | some action => exact ⟨0, _, .act (by simp [acts]), Nat.zero_lt_succ height⟩
      | none =>
          cases shows : tree.hasVisibleChildren id with
          | false => exact ⟨0, _, .unbound acts shows, Nat.zero_lt_succ height⟩
          | true =>
              obtain ⟨count, route, settles, -, less⟩ := exists_settles_dispatch forest short
                (fun child member => ih fun way descent =>
                  Nat.le_of_succ_le_succ (short _ (.step member descent))) line
              exact ⟨count, route, .pass acts shows settles, less (allChildren_ne_nil shows)⟩

theorem exists_settles_typed (forest : tree.Forest)
    (short : ∀ way, tree.Descent menu way → way.length ≤ height) (line : String) :
    ∃ count route, tree.Settles (.dispatch menu line) count route ∧ count ≤ height ∧
      ((tree.node menu).allChildren ≠ [] → count < height) := by
  cases height with
  | zero => exact absurd (short _ (.stop menu)) (by simp)
  | succ height =>
      refine exists_settles_dispatch forest short (fun child member => ?_) line
      refine exists_settles_execute forest fun way descent => ?_
      exact Nat.le_of_succ_le_succ (short _ (.step member descent))

/-! ### Looks upwards and searches below -/

/-- A look upwards from a node stops where something is seen, or above a node that hangs nowhere. -/
inductive LooksUp {Value : Type} (tree : Tree Action) (seen : NodeId → Option Value) :
    Option NodeId → Option Value → Prop
  | above : LooksUp tree seen none none
  | found {id : NodeId} {value : Value} : seen id = some value →
      LooksUp tree seen (some id) (some value)
  | further {id : NodeId} {answer : Option Value} : seen id = none →
      LooksUp tree seen (tree.node id).parent? answer → LooksUp tree seen (some id) answer

theorem Ascent.looksUp {Value : Type} {path : List NodeId} (ascent : tree.Ascent id path)
    (seen : NodeId → Option Value) : tree.LooksUp seen (some id) (path.findSome? seen) := by
  induction ascent with
  | @top id loose =>
      rw [List.findSome?_singleton]
      cases here : seen id with
      | some value => exact .found here
      | none => exact .further here (loose ▸ .above)
  | @step id _ _ linked _ ih =>
      rw [List.findSome?_cons]
      cases here : seen id with
      | some value => exact .found here
      | none => exact .further here (linked ▸ ih)

def clashAt? (tree : Tree Action) (id : NodeId) : Option String :=
  firstClash? (tree.comparison id) (tree.childSelectors id)

/-- A search of nodes, and below each of the children that take their mode from it, stops at the first
clash. -/
inductive Searches (tree : Tree Action) : List NodeId → Option String → Prop
  | nothing : Searches tree [] none
  | clashes {id : NodeId} {others : List NodeId} {selector : String} :
      tree.clashAt? id = some selector → Searches tree (id :: others) (some selector)
  | deeper {id : NodeId} {others : List NodeId} {selector : String} : tree.clashAt? id = none →
      Searches tree (tree.inheritingChildren id) (some selector) →
      Searches tree (id :: others) (some selector)
  | onward {id : NodeId} {others : List NodeId} {answer : Option String} :
      tree.clashAt? id = none → Searches tree (tree.inheritingChildren id) none →
      Searches tree others answer → Searches tree (id :: others) answer

theorem searches_within (bound : Nat) (forest : tree.Forest) (ids : List NodeId)
    (enough : ∀ id ∈ ids, tree.size < bound + (tree.lineage id).length) :
    tree.Searches ids ((ids.flatMap (tree.regionWithin bound)).findSome? tree.clashAt?) := by
  -- The children of a node lie one step deeper, so a bound that is smaller by one will do for them.
  induction bound generalizing ids with
  | zero =>
      cases ids with
      | nil => exact .nothing
      | cons id others =>
          have deep := enough id List.mem_cons_self
          have short := forest.ascent_length_le (forest.ascent_lineage id)
          omega
  | succ bound deeper =>
      induction ids with
      | nil => exact .nothing
      | cons id others ih =>
          have later := ih fun other member => enough other (List.mem_cons_of_mem _ member)
          have below := deeper (tree.inheritingChildren id) fun child member => by
            have linked := ((mem_inheritingChildren forest).mp member).1
            have deep := enough id List.mem_cons_self
            rw [forest.lineage_step linked, List.length_cons]
            omega
          rw [List.flatMap_cons, regionWithin, List.cons_append, List.findSome?_cons]
          cases clash : tree.clashAt? id with
          | some selector => exact .clashes clash
          | none =>
              dsimp only
              rw [List.findSome?_append]
              cases found : ((tree.inheritingChildren id).flatMap
                  (tree.regionWithin bound)).findSome? tree.clashAt? with
              | some selector => exact .deeper clash (found ▸ below)
              | none => exact .onward clash (found ▸ below) later

theorem clash?_eq (forest : tree.Forest) (id : NodeId) :
    tree.clash? id = (tree.region id).findSome? tree.clashAt? := by
  rw [clash?, ← List.head?_filterMap, ← List.head?_filterMap]
  congr 1
  apply List.filterMap_congr
  intro below member
  rw [clashAt?, ((mem_region_iff forest).mp member).comparison_eq forest]

theorem Forest.searches (forest : tree.Forest) (id : NodeId) :
    tree.Searches [id] (tree.clash? id) := by
  have all := searches_within tree.size forest [id] fun other member => by
    have present := List.length_pos_of_mem (forest.mem_lineage_self other)
    omega
  rwa [List.flatMap_singleton, ← region, ← clash?_eq forest] at all

/-! ### Help -/

/-- Help for a topic goes down by its first word until nothing is left of it; a topic that the user has
typed is answered with instructions around the list. -/
inductive Tells (tree : Tree Action) : Bool → NodeId → String → String → Prop
  | outside {id : NodeId} :
      Tells tree false id "" (tree.itemHelp id ++ framed (tree.listing id))
  | inside {id : NodeId} : Tells tree true id "" (tree.itemHelp id ++ tree.listing id)
  | down {inner : Bool} {id child : NodeId} {topic text : String} : topic ≠ "" →
      tree.resolveNamed id (Text.splitFirstWord topic).1 (tree.comparison id) = .ok child →
      Tells tree true child (Text.splitFirstWord topic).2 text → Tells tree inner id topic text
  | fails {inner : Bool} {id : NodeId} {topic : String} {error : MenuError} : topic ≠ "" →
      tree.resolveNamed id (Text.splitFirstWord topic).1 (tree.comparison id) = .error error →
      Tells tree inner id topic (Tree.line error.message)

theorem topicWords_empty : topicWords "" = [] := by
  simp [topicWords]

theorem topicWords_eq_cons {topic : String} (some : topic ≠ "") :
    topicWords topic =
      (Text.splitFirstWord topic).1 :: topicWords (Text.splitFirstWord topic).2 := by
  cases typed : Text.words topic with
  | nil =>
      have unnamed := Text.fst_splitFirstWord_eq_empty_iff.mpr (Text.words_eq_nil_iff.mp typed)
      have full : topic.isEmpty = false := by simpa using some
      rw [unnamed, Text.snd_splitFirstWord_of_fst unnamed, topicWords_empty, topicWords, full,
        if_neg Bool.false_ne_true, typed]
  | cons word others =>
      obtain ⟨first, rest⟩ := Text.splitFirstWord_of_words typed
      rw [topicWords_of_words typed (List.cons_ne_nil _ _), first]
      refine congrArg (word :: ·) ?_
      by_cases last : (Text.splitFirstWord topic).2 = ""
      · rw [last] at rest ⊢
        rw [topicWords_empty, ← rest, Text.words_eq_nil_iff]
        decide
      · refine (topicWords_of_words rest ?_).symm
        rintro rfl
        have visible := Text.isBlank_afterFirstWord last
        simp [Text.words_eq_nil_iff.mp rest] at visible

def tidings (tree : Tree Action) : Except MenuError NodeId → String
  | .ok last => tree.itemHelp last ++ tree.listing last
  | .error error => Tree.line error.message

theorem help_of_topic {topic : String} (some : topic ≠ "") (menu : NodeId) :
    tree.help menu topic = tree.tidings (tree.descend menu (topicWords topic)) := by
  rw [help, topicWords_eq_cons some]
  dsimp only
  cases tree.descend menu _ <;> rfl

theorem tells_inside (tree : Tree Action) (id : NodeId) (topic : String) :
    tree.Tells true id topic (tree.tidings (tree.descend id (topicWords topic))) := by
  induction words : topicWords topic generalizing id topic with
  | nil =>
      have whole : topic = "" := by
        by_contra some
        simp [topicWords_eq_cons some] at words
      rw [whole]
      exact .inside
  | cons word others ih =>
      have some : topic ≠ "" := by
        rintro rfl
        simp [topicWords_empty] at words
      rw [topicWords_eq_cons some] at words
      obtain ⟨rfl, left⟩ := List.cons.inj words
      cases means : tree.resolveNamed id (Text.splitFirstWord topic).1 (tree.comparison id) with
      | error error =>
          rw [descend, means]
          exact .fails some means
      | ok child =>
          rw [descend, means]
          exact .down some means (ih child _ left)

theorem tells_help (tree : Tree Action) (menu : NodeId) (topic : String) :
    tree.Tells false menu topic (tree.help menu topic) := by
  by_cases whole : topic = ""
  · rw [whole, help, topicWords_empty]
    exact .outside
  · rw [help_of_topic whole, topicWords_eq_cons whole]
    cases means : tree.resolveNamed menu (Text.splitFirstWord topic).1 (tree.comparison menu) with
    | error error =>
        rw [descend, means]
        exact .fails whole means
    | ok child =>
        rw [descend, means]
        exact .down whole means (tells_inside tree child _)

/-- However a tree has been built, all walks through it end. A line does so, in an action, a report or a
command that does nothing, after fewer resolutions than its node has levels, or as many where it is
typed in a menu without children. So do the looks upwards for a mode and for an ancestor, the searches
for siblings that cannot be told apart, also those made in attaching a node and in changing a mode, and
help for any topic. -/
theorem walks_end (reachable : tree.Reachable) :
    (∀ id, ∃ height, tree.HasHeight id height ∧ ∀ line,
      (∃ count route, count < height ∧ tree.executeRoute? id line = some route ∧
        ∀ other last, tree.Settles (.execute id line) other last ↔ other = count ∧ last = route) ∧
      ∃ count route, count ≤ height ∧ ((tree.node id).allChildren ≠ [] → count < height) ∧
        tree.dispatchRoute? id line = some route ∧
        ∀ other last, tree.Settles (.dispatch id line) other last ↔ other = count ∧ last = route) ∧
    (∀ id, ∃ own?, tree.LooksUp (fun above => (tree.node above).comparison?) (some id) own? ∧
      tree.comparison id = own?.getD .insensitive) ∧
    (∀ candidate id, ∃ found?, tree.LooksUp (Option.guard (· == candidate)) (some id) found? ∧
      (tree.lineage id).contains candidate = found?.isSome) ∧
    (∀ id, tree.Searches [id] (tree.clash? id)) ∧
    (∀ parent child, parent < tree.size → child < tree.size →
      tree.attachObstacle? parent child = none →
      (tree.link parent child).Searches [child] ((tree.link parent child).clash? child)) ∧
    (∀ id mode, (tree.withMode id mode).Searches [id] ((tree.withMode id mode).clash? id)) ∧
    ∀ menu topic, tree.Tells false menu topic (tree.help menu topic) := by
  have forest := reachable.forest
  refine ⟨fun id => ?_, fun id => ?_, fun candidate id => ?_, forest.searches,
    fun parent child parentBound childBound clear => ?_, fun id mode => ?_, tells_help tree⟩
  · obtain ⟨height, known⟩ := forest.exists_hasHeight id
    refine ⟨height, known, fun line => ⟨?_, ?_⟩⟩
    · obtain ⟨count, route, settles, less⟩ := exists_settles_execute forest known.longest line
      exact ⟨count, route, less, settles.route?_eq forest, settles.iff⟩
    · obtain ⟨count, route, settles, less, inner⟩ := exists_settles_typed forest known.longest line
      exact ⟨count, route, less, inner, settles.route?_eq forest, settles.iff⟩
  · exact ⟨_, (forest.ascent_lineage id).looksUp _, rfl⟩
  · refine ⟨_, (forest.ascent_lineage id).looksUp _, ?_⟩
    rw [List.findSome?_guard, Bool.eq_iff_iff, List.find?_isSome]
    simp
  · exact (forest.link ((attachObstacle?_eq_none_iff parentBound childBound).mp clear)).searches child
  · refine Forest.searches ?_ id
    apply forest.modify <;> exact fun _ => rfl

theorem walks_end_of_default_item :
    let tree := (empty .insensitive : Tree Unit).applyAll
      [.add 0 (.menu "a"), .add 1 {}, .add 2 (.leaf "x" ()), .add 0 (.menu "b"), .detach 1,
        .attach 4 1, .attach 1 4]
    (∃ height, tree.HasHeight 0 height ∧ ∃ count route, count < height ∧
      tree.dispatchRoute? 0 "b a x y" = some route ∧
      tree.Settles (.dispatch 0 "b a x y") count route) ∧
    tree.Tells false 0 " \t" (tree.help 0 " \t") := by
  intro tree
  have reachable : tree.Reachable := ⟨.insensitive, Reaches.refl.applyAll (by decide)⟩
  have some : (tree.node 0).allChildren ≠ [] := by decide
  clear_value tree
  obtain ⟨lines, -, -, -, -, -, tells⟩ := walks_end reachable
  obtain ⟨height, known, ends⟩ := lines 0
  obtain ⟨count, route, -, less, leads, settles⟩ := (ends "b a x y").2
  exact ⟨⟨height, known, count, route, less some, leads, (settles count route).mpr ⟨rfl, rfl⟩⟩,
    tells 0 " \t"⟩

end Tree

end MenuShell

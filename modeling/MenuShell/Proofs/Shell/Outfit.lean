import MenuShell.CommandLine
import MenuShell.Proofs.Shell.Usual
import MenuShell.Proofs.Tree.Room

/-!
The tree of the whole program. All its commands find room, every command of it does something or has
something below it, and what the commands do is usual, but for `pause`.
-/

namespace MenuShell

open Shell

def Builder.Yields {Host Value : Type} (steps : Builder Host Value) (tree : Tree (Action Host))
    (post : Value → Tree (Action Host) → Prop) : Prop :=
  ∃ value later, steps.build tree = (.ok value, later) ∧ post value later

namespace Builder.Yields

variable {Host Value Other : Type} {tree : Tree (Action Host)} {steps : Builder Host Value}
  {middle : Value → Tree (Action Host) → Prop}

theorem bind {next : Value → Builder Host Other} {post : Other → Tree (Action Host) → Prop}
    (first : steps.Yields tree middle)
    (others : ∀ value later, middle value later → (next value).Yields later post) :
    (steps >>= next).Yields tree post := by
  obtain ⟨value, later, built, known⟩ := first
  obtain ⟨last, final, finished, holds⟩ := others value later known
  refine ⟨last, final, ?_, holds⟩
  rw [build_bind, built]
  exact finished

theorem done {value : Value} {post : Value → Tree (Action Host) → Prop} (holds : post value tree) :
    (pure value : Builder Host Value).Yields tree post :=
  ⟨value, tree, rfl, holds⟩

theorem discard {post : Tree (Action Host) → Prop}
    (yields : steps.Yields tree fun _ later => post later) :
    (Functor.discard steps).Yields tree fun _ later => post later := by
  obtain ⟨value, later, built, holds⟩ := yields
  refine ⟨PUnit.unit, later, ?_, holds⟩
  have unfolded : (Functor.discard steps).build tree =
      (steps >>= fun _ => (pure PUnit.unit : Builder Host PUnit)).build tree := rfl
  rw [unfolded, build_bind, built]
  rfl

end Builder.Yields

def Node.IsUsual {Host : Type} (node : Node (Action Host)) : Prop :=
  ∀ action, node.action? = some action → action = Commands.runPause ∨ Shell.IsUsual action

namespace Tree

variable {Host : Type} {tree later : Tree (Action Host)} {parent menu id : NodeId}
  {node : Node (Action Host)} {action : Action Host} {selector : String}
  {names words : List String} {idle : List NodeId}

def Served (tree : Tree (Action Host)) (id : NodeId) : Prop :=
  (tree.node id).action?.isSome ∨ (tree.node id).children ≠ []

/-- A tree that shows all its commands, and whose commands, but for the idle ones, do something or
have something below them. -/
structure Equipped (tree : Tree (Action Host)) (idle : List NodeId) : Prop where
  reachable : tree.Reachable
  shown : ∀ id, (tree.node id).switch? = none
  usual : ∀ id, (tree.node id).IsUsual
  served : ∀ id < tree.size, id ∉ idle → tree.Served id

theorem Grown.served_new (grown : Grown tree parent node later) (acts : node.action?.isSome) :
    later.Served tree.size := by
  rw [Served, grown.field_new Node.action? fun _ => rfl]
  exact .inl acts

theorem Grown.served_old (grown : Grown tree parent node later) (old : id ≠ tree.size)
    (served : tree.Served id) : later.Served id := by
  rw [Served, grown.field_old Node.action? (fun _ => rfl) old]
  refine served.imp_right fun some => ?_
  by_cases upper : id = parent
  · rw [upper, grown.upper]
    rw [upper] at some
    cases node.selector? <;> simp [above, some]
  · rwa [grown.others id old upper]

theorem Equipped.grow (equipped : tree.Equipped idle) (grown : Grown tree parent node later)
    (reachable : later.Reachable) (shown : node.switch? = none) (usual : node.IsUsual) :
    later.Equipped (tree.size :: idle) := by
  refine ⟨reachable, ?_, ?_, ?_⟩
  · intro id
    by_cases new : id = tree.size
    · rw [new, grown.field_new Node.switch? fun _ => rfl, shown]
    · rw [grown.field_old Node.switch? (fun _ => rfl) new, equipped.shown]
  · intro id action acts
    by_cases new : id = tree.size
    · rw [new, grown.field_new Node.action? fun _ => rfl] at acts
      exact usual action acts
    · rw [grown.field_old Node.action? (fun _ => rfl) new] at acts
      exact equipped.usual id action acts
  · intro id stored busy
    rw [List.mem_cons, not_or] at busy
    rw [grown.size] at stored
    exact grown.served_old busy.1 (equipped.served id (by omega) busy.2)

theorem Equipped.settle (equipped : tree.Equipped (id :: idle)) (served : tree.Served id) :
    tree.Equipped idle := by
  refine ⟨equipped.reachable, equipped.shown, equipped.usual, ?_⟩
  intro other stored busy
  by_cases same : other = id
  · rwa [same]
  · exact equipped.served other stored (by simp [same, busy])

def fits (names : List String) (selector : String) : Bool :=
  isWord selector && isUnlike names selector

theorem room_of_fits (known : tree.childSelectors parent = names)
    (fresh : fits names selector = true) : tree.Room parent (some selector) := by
  rw [Room, known]
  simpa [fits] using fresh

structure Stocked (tree : Tree (Action Host)) (names : List String) : Prop
    extends tree.Equipped [root] where
  names : tree.childSelectors root = names

structure Furnished (tree : Tree (Action Host)) (names : List String) (menu : NodeId)
    (words : List String) : Prop extends tree.Equipped [menu, root] where
  names : tree.childSelectors root = names
  stored : menu < tree.size
  inner : menu ≠ root
  words : tree.childSelectors menu = words
  vacant : (tree.node menu).defaultChild? = none

theorem Stocked.add (stocked : tree.Stocked names) (named : node.selector? = some selector)
    (fresh : fits names selector = true) (shown : node.switch? = none) (usual : node.IsUsual) :
    (Builder.add root node).Yields tree fun menu later =>
      later.Furnished (names ++ [selector]) menu [] ∧
        (node.action?.isSome → later.Served menu) := by
  have room := room_of_fits stocked.names fresh
  rw [← named] at room
  have forest := stocked.reachable.forest
  obtain ⟨later, added, grown, reachable⟩ := room.add stocked.reachable forest.planted
  refine ⟨tree.size, later, added, ⟨?_, ?_, ?_, ?_, grown.childSelectors_new, ?_⟩, ?_⟩
  · exact stocked.toEquipped.grow grown reachable shown usual
  · rw [grown.childSelectors_parent forest named, stocked.names]
  · rw [grown.size]
    exact Nat.lt_succ_self _
  · exact Nat.ne_of_gt forest.planted
  · rw [grown.new]
    rfl
  · exact grown.served_new

theorem Furnished.finish (furnished : tree.Furnished names menu words)
    (served : tree.Served menu) : tree.Stocked names :=
  ⟨furnished.toEquipped.settle served, furnished.names⟩

theorem Furnished.served_menu (furnished : tree.Furnished names menu words) (some : words ≠ []) :
    tree.Served menu := by
  refine .inr fun none => some ?_
  rw [← furnished.words, childSelectors, none]
  rfl

theorem Furnished.add (furnished : tree.Furnished names menu words)
    (named : node.selector? = some selector) (fresh : fits words selector = true)
    (shown : node.switch? = none) (usual : node.IsUsual) (acts : node.action?.isSome) :
    (Builder.add menu node).Yields tree fun _ later =>
      later.Furnished names menu (words ++ [selector]) := by
  have room := room_of_fits furnished.words fresh
  rw [← named] at room
  have forest := furnished.reachable.forest
  obtain ⟨later, added, grown, reachable⟩ := room.add furnished.reachable furnished.stored
  have size := grown.size
  have equipped := furnished.toEquipped.grow grown reachable shown usual
  refine ⟨tree.size, later, added, equipped.settle (grown.served_new acts), ?_, ?_,
    furnished.inner, ?_, ?_⟩
  · rw [grown.childSelectors_of_ne forest forest.planted furnished.inner.symm, furnished.names]
  · exact Nat.lt_trans furnished.stored (by omega)
  · rw [grown.childSelectors_parent forest named, furnished.words]
  · rw [grown.upper, named]
    exact furnished.vacant

theorem Furnished.close (furnished : tree.Furnished names menu words) (some : words ≠ [])
    (unnamed : node.selector? = none) (shown : node.switch? = none) (usual : node.IsUsual)
    (acts : node.action?.isSome) :
    (Builder.add menu node).Yields tree fun _ later => later.Stocked names ∧ menu < later.size := by
  have room : tree.Room menu none := furnished.vacant
  rw [← unnamed] at room
  have forest := furnished.reachable.forest
  obtain ⟨later, added, grown, reachable⟩ := room.add furnished.reachable furnished.stored
  have size := grown.size
  have old : menu ≠ tree.size := Nat.ne_of_lt furnished.stored
  have equipped := furnished.toEquipped.grow grown reachable shown usual
  have settled := equipped.settle (grown.served_new acts)
  refine ⟨tree.size, later, added, ⟨settled.settle ?_, ?_⟩, ?_⟩
  · exact grown.served_old old (furnished.served_menu some)
  · rw [grown.childSelectors_of_ne forest forest.planted furnished.inner.symm, furnished.names]
  · exact Nat.lt_trans furnished.stored (by omega)

theorem Stocked.setAction (stocked : tree.Stocked names) (stored : id < tree.size)
    (usual : Shell.IsUsual action) :
    (Builder.setAction id action).Yields tree fun _ later => later.Stocked names := by
  let change (node : Node (Action Host)) : Node (Action Host) :=
    { node with action? := some action }
  refine ⟨(), tree.modify id change, rfl, ⟨?_, ?_, ?_, ?_⟩, ?_⟩
  · obtain ⟨mode, reaches⟩ := stocked.reachable
    have within : (Edit.setAction id (some action)).Within tree := stored
    exact ⟨mode, reaches.step within⟩
  · intro other
    have kept : ∀ node, (change node).switch? = node.switch? := fun _ => rfl
    rw [field_modify Node.switch? kept]
    exact stocked.shown other
  · intro other act acts
    by_cases same : other = id
    · subst same
      rw [node_modify_self stored] at acts
      exact .inr (Option.some.inj acts ▸ usual)
    · rw [node_modify_of_ne same] at acts
      exact stocked.usual other act acts
  · intro other bound busy
    rw [size_modify] at bound
    by_cases same : other = id
    · subst same
      rw [Served, node_modify_self stored]
      exact .inl rfl
    · rw [Served, node_modify_of_ne same]
      exact stocked.served other bound busy
  · have selectors : ∀ node, (change node).selector? = node.selector? := fun _ => rfl
    have children : ∀ node, (change node).children = node.children := fun _ => rfl
    rw [← stocked.names, childSelectors, childSelectors, field_modify Node.children children]
    simp only [field_modify Node.selector? selectors]

/-! ### Installing -/

theorem isUsual_of_action (acts : node.action? = some action)
    (usual : action = Commands.runPause ∨ Shell.IsUsual action) : node.IsUsual := by
  intro other others
  rw [acts] at others
  exact Option.some.inj others ▸ usual

theorem Stocked.command (stocked : tree.Stocked names) (selector help : String)
    (fresh : fits names selector = true)
    (usual : action = Commands.runPause ∨ Shell.IsUsual action) :
    (discard (Builder.add root ((Node.leaf selector action).withHelp help))).Yields tree
      fun _ later => later.Stocked (names ++ [selector]) := by
  have plain : ((Node.leaf selector action).withHelp help).IsUsual := isUsual_of_action rfl usual
  obtain ⟨menu, later, built, furnished, served⟩ := stocked.add rfl fresh rfl plain
  exact .discard ⟨menu, later, built, furnished.finish (served rfl)⟩

theorem Furnished.command (furnished : tree.Furnished names menu words) (selector help : String)
    (fresh : fits words selector = true) (usual : Shell.IsUsual action) :
    (discard (Builder.add menu ((Node.leaf selector action).withHelp help))).Yields tree
      fun _ later => later.Furnished names menu (words ++ [selector]) :=
  .discard (furnished.add rfl fresh rfl (isUsual_of_action rfl (.inr usual)) rfl)

theorem Furnished.default (furnished : tree.Furnished names menu words) (some : words ≠ [])
    (usual : Shell.IsUsual action) :
    (discard (Builder.add menu (Node.defaultItem action))).Yields tree
      fun _ later => later.Stocked names ∧ menu < later.size :=
  .discard (furnished.close some rfl rfl (isUsual_of_action rfl (.inr usual)) rfl)

theorem Stocked.installCapture (stocked : tree.Stocked names) (endWord : String)
    (named : node.selector? = some selector) (fresh : fits names selector = true)
    (shown : node.switch? = none) (still : node.action? = none) (word : isWord endWord = true) :
    (Commands.installCapture root node endWord).Yields tree fun menu later =>
      later.Stocked (names ++ [selector]) ∧ menu < later.size := by
  refine .bind (stocked.add named fresh shown (by simp [Node.IsUsual, still])) ?_
  rintro menu first ⟨furnished, -⟩
  refine .bind (furnished.command endWord _ (by simp [fits, word, isUnlike]) isUsual_quit) ?_
  intro _ second furnished
  refine .bind (furnished.default (by simp) (isUsual_request fun _ => trivial)) ?_
  intro _ third stocked
  exact .done stocked

theorem Stocked.installProcedures (stocked : tree.Stocked ["help", "quit"]) (settings : Settings)
    (word : isWord settings.endProc = true) :
    (Commands.installProcedures settings root).Yields tree fun _ later =>
      later.Stocked ["help", "quit", "proc", "call", "return", "goto"] := by
  refine .bind (stocked.installCapture settings.endProc rfl (by decide) rfl rfl word) ?_
  rintro menu first ⟨stocked, stored⟩
  refine .bind (stocked.setAction stored (isUsual_runProc menu)) ?_
  intro _ second stocked
  refine .bind (stocked.command "call" _ (by decide) (.inr ?_)) ?_
  · exact isUsual_request_withArguments fun _ => trivial
  intro _ third stocked
  refine .bind (stocked.command "return" _ (by decide) (.inr ?_)) ?_
  · exact isUsual_request_withArguments fun _ => trivial
  intro _ fourth stocked
  refine stocked.command "goto" _ (by decide) (.inr ?_)
  exact isUsual_request_withArguments fun _ => trivial

theorem Stocked.installRecording
    (stocked : tree.Stocked ["help", "quit", "proc", "call", "return", "goto"])
    (settings : Settings) (word : isWord settings.endRecord = true) :
    (Commands.installRecording settings root).Yields tree fun _ later =>
      later.Stocked ["help", "quit", "proc", "call", "return", "goto", "record", "replay"] := by
  refine .bind (stocked.installCapture settings.endRecord rfl (by decide) rfl rfl word) ?_
  rintro menu first ⟨stocked, stored⟩
  refine .bind (stocked.setAction stored (isUsual_runRecord menu)) ?_
  intro _ second stocked
  exact stocked.command "replay" _ (by decide) (.inr isUsual_runReplay)

theorem Stocked.installConvert (stocked : tree.Stocked names)
    (fresh : fits names "convert" = true) :
    (Commands.installConvert : Builder Host Unit).Yields tree fun _ later =>
      later.Stocked (names ++ ["convert"]) := by
  refine .bind (stocked.add rfl fresh rfl (by simp [Node.IsUsual, Node.menu, Node.withHelp])) ?_
  rintro menu first ⟨furnished, -⟩
  refine .bind (furnished.command "upper" _ (by decide) (isUsual_say Text.upper)) ?_
  intro _ second furnished
  obtain ⟨done, third, built, furnished⟩ :=
    furnished.command "lower" _ (by decide) (isUsual_say Text.lower)
  exact ⟨done, third, built, furnished.finish (furnished.served_menu (by simp))⟩

theorem Furnished.installMenuCommands (furnished : tree.Furnished names menu []) :
    (Commands.installMenuCommands menu).Yields tree fun _ later =>
      later.Furnished names menu ["help", "quit"] := by
  refine .bind (furnished.command "help" _ (by decide) ?_) ?_
  · exact isUsual_request_withArguments fun _ => trivial
  intro _ later furnished
  refine furnished.command "quit" _ (by decide) ?_
  exact isUsual_withArguments fun _ _ _ _ => .done .quit

theorem Stocked.installAdd (stocked : tree.Stocked names) (fresh : fits names "add" = true) :
    (Commands.installAdd : Builder Host Unit).Yields tree fun _ later =>
      later.Stocked (names ++ ["add"]) := by
  let node : Node (Action Host) := ((Node.menu "add").withHelp
    "add\nAdds numbers until \"=\" is entered.").withPrompt "+"
  have menuAdded : (Commands.addMenu root node).Yields tree fun menu later =>
      later.Furnished (names ++ ["add"]) menu ["help", "quit"] := by
    refine .bind (stocked.add rfl fresh rfl ?_) ?_
    · simp [node, Node.IsUsual, Node.menu, Node.withHelp, Node.withPrompt]
    rintro menu first ⟨furnished, -⟩
    refine .bind furnished.installMenuCommands ?_
    intro _ second furnished
    exact .done furnished
  refine .bind menuAdded ?_
  intro menu first furnished
  refine .bind (furnished.command "=" _ (by decide) isUsual_quit) ?_
  intro _ second furnished
  refine .bind (furnished.default (by simp) (isUsual_runNumber menu)) ?_
  rintro _ third ⟨stocked, stored⟩
  exact stocked.setAction stored (isUsual_runAdd menu)

theorem Stocked.installSamples (stocked : tree.Stocked
      ["help", "quit", "proc", "call", "return", "goto", "record", "replay", "if"]) :
    (Commands.installSamples : Builder Host Unit).Yields tree fun _ later => later.Stocked
      ["help", "quit", "proc", "call", "return", "goto", "record", "replay", "if", "echo", "pause",
        "repeat", "convert", "add", "greet"] := by
  refine .bind (stocked.command "echo" _ (by decide) (.inr (isUsual_say id))) ?_
  intro _ first stocked
  refine .bind (stocked.command "pause" _ (by decide) (.inl rfl)) ?_
  intro _ second stocked
  refine .bind (stocked.command "repeat" _ (by decide) (.inr isUsual_runRepeat)) ?_
  intro _ third stocked
  refine .bind (stocked.installConvert (by decide)) ?_
  intro _ fourth stocked
  refine .bind (stocked.installAdd (by decide)) ?_
  intro _ fifth stocked
  exact stocked.command "greet" _ (by decide) (.inr isUsual_runGreet)

theorem stocked_prompted (mode : Comparison) (prompt : String) :
    ((empty mode : Tree (Action Host)).modify root fun node =>
      { node with prompt? := some prompt }).Stocked [] := by
  let change (node : Node (Action Host)) : Node (Action Host) :=
    { node with prompt? := some prompt }
  have shown : ∀ node, (change node).switch? = node.switch? := fun _ => rfl
  have acts : ∀ node, (change node).action? = node.action? := fun _ => rfl
  have children : ∀ node, (change node).children = node.children := fun _ => rfl
  refine ⟨⟨?_, ?_, ?_, ?_⟩, ?_⟩
  · have within : (Edit.setPrompt root (some prompt)).Within (empty mode : Tree (Action Host)) :=
      Nat.zero_lt_one
    exact ⟨mode, Reaches.refl.step within⟩
  · intro id
    rw [field_modify Node.switch? shown, node_empty]
  · intro id action known
    rw [field_modify Node.action? acts, node_empty] at known
    contradiction
  · intro id stored busy
    rw [size_modify, size_empty] at stored
    exact absurd (List.mem_singleton.mpr (Nat.lt_one_iff.mp stored)) busy
  · rw [childSelectors, field_modify Node.children children, node_empty]
    rfl

theorem Stocked.installMenuCommands (stocked : tree.Stocked []) :
    (Commands.installMenuCommands root).Yields tree fun _ later =>
      later.Stocked ["help", "quit"] := by
  refine .bind (stocked.command "help" _ (by decide) (.inr ?_)) ?_
  · exact isUsual_request_withArguments fun _ => trivial
  intro _ later stocked
  refine stocked.command "quit" _ (by decide) (.inr ?_)
  exact isUsual_withArguments fun _ _ _ _ => .done .quit

theorem stocked_initialTree (settings : Settings) :
    (initialTree settings : Tree (Action Host)).Stocked ["help", "quit"] := by
  have stocked := @stocked_prompted Host settings.comparison settings.prompt
  obtain ⟨_, later, built, holds⟩ := stocked.installMenuCommands
  rwa [initialTree, built]

theorem stocked_installAll (settings : Settings) (endProc : isWord settings.endProc = true)
    (endRecord : isWord settings.endRecord = true) :
    (CommandLine.installAll settings).Yields (initialTree settings) fun _ later => later.Stocked
      ["help", "quit", "proc", "call", "return", "goto", "record", "replay", "if", "echo", "pause",
        "repeat", "convert", "add", "greet"] := by
  have stocked : (initialTree settings : Tree (Action Unit)).Stocked ["help", "quit"] :=
    stocked_initialTree settings
  refine .bind (stocked.installProcedures settings endProc) ?_
  intro _ first stocked
  refine .bind (stocked.installRecording settings endRecord) ?_
  intro _ second stocked
  refine .bind (stocked.command "if" _ (by decide) (.inr (isUsual_runIf root))) ?_
  intro _ third stocked
  exact stocked.installSamples

theorem Equipped.hasVisibleChildren (equipped : tree.Equipped idle)
    (some : (tree.node id).children ≠ []) : tree.hasVisibleChildren id = true := by
  have visible : tree.visibleChildren id = (tree.node id).children :=
    List.filter_eq_self.mpr fun child _ => by simp [isVisible, equipped.shown child]
  simp [Tree.hasVisibleChildren, visible, some]

theorem Equipped.dispatchRoute?_ne_unbound (equipped : tree.Equipped [root]) (menu : NodeId)
    (line name : String) : tree.dispatchRoute? menu line ≠ some (.unbound name) := by
  have forest := equipped.reachable.forest
  have chosen (descend : NodeId → String → Option Route) (menu : NodeId) (line : String)
      (below : ∀ id line, id < tree.size → id ≠ root → descend id line ≠ some (.unbound name)) :
      tree.choose descend menu line ≠ some (.unbound name) := by
    unfold choose
    dsimp only
    cases means : tree.resolve menu (Text.splitFirstWord line).1 (tree.comparison menu) with
    | error error => simp
    | ok resolution =>
        have linked := parent_of_resolve forest means
        have stored := lt_size_of_parent linked
        have inner : resolution.id ≠ root := by
          intro same
          rw [same, forest.rootless] at linked
          contradiction
        cases resolution with
        | named child => exact below child _ stored inner
        | fallback item => exact below item _ stored inner
  have below (bound : Nat) : ∀ id line, id < tree.size → id ≠ root →
      tree.routeWithin bound id line ≠ some (.unbound name) := by
    induction bound with
    | zero => simp [routeWithin]
    | succ bound ih =>
        intro id line stored inner
        rw [routeWithin]
        split
        · simp
        · rename_i idle
          have some := (equipped.served id stored (by simpa using inner)).resolve_left idle
          rw [if_pos (equipped.hasVisibleChildren some)]
          exact chosen _ id line ih
  exact chosen _ menu line (below tree.size)

end Tree

end MenuShell

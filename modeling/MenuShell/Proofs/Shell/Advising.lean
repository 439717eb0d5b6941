import MenuShell.Commands.Menu
import MenuShell.Proofs.Shell.Defining
import MenuShell.Proofs.Tree.Advice
import MenuShell.Shell.Start

/-!
The command `help`. What follows the word on a line is the topic, whatever white space is between its
words, and what is written is the help for it and nothing else.
-/

namespace MenuShell

namespace ArgumentSpec

variable {spec : ArgumentSpec} {positional : PositionalSpec} {words : List String}

theorem nextPositional?_of_greedy (only : spec.positionals = [positional])
    (greedy : positional.arity = .greedy) (taken : Nat) :
    spec.nextPositional? taken = some positional := by
  cases taken with
  | zero => simp [nextPositional?, only]
  | succ taken => simp [nextPositional?, only, greedy]

theorem takePositional_of_greedy (only : spec.positionals = [positional])
    (greedy : positional.arity = .greedy) (progress : Progress) (word : String) :
    spec.takePositional progress word = .ok { progress with
      found.positionals := progress.found.positionals ++ [word], optionsEnded := true } := by
  simp [takePositional, nextPositional?_of_greedy only greedy, greedy]

theorem readWords_of_ended (only : spec.positionals = [positional])
    (greedy : positional.arity = .greedy) {progress : Progress}
    (ended : progress.optionsEnded = true) :
    spec.readWords progress words =
      .ok { progress with found.positionals := progress.found.positionals ++ words } := by
  induction words generalizing progress with
  | nil => simp [readWords]
  | cons word others ih =>
      rw [readWords, if_pos (by simp [ended]), takePositional_of_greedy only greedy]
      dsimp only
      rw [ih rfl]
      simp [ended]

theorem parse_of_greedy (only : spec.positionals = [positional])
    (greedy : positional.arity = .greedy) (plain : ∀ first ∈ words.head?, IsPlain first) :
    spec.parse words = .ok { positionals := words } := by
  have read : spec.readWords {} words =
      .ok { found := { positionals := words }, optionsEnded := !words.isEmpty } := by
    cases words with
    | nil => rfl
    | cons first others =>
        obtain ⟨helpless, undashed⟩ := plain first rfl
        rw [readWords, if_pos (by simp [helpless, undashed]), takePositional_of_greedy only greedy]
        dsimp only
        rw [readWords_of_ended only greedy rfl]
        rfl
  have complete : spec.missing words.length = [] := by
    cases words <;> simp [missing, only, greedy]
  simp [parse, read, complete]

end ArgumentSpec

theorem Commands.action_helpNode {Host : Type} (menu : NodeId) :
    (helpNode menu : Node (Action Host)).action? = some (Script.withArguments helpSpec fun arguments =>
      .andThen (.showHelp menu (" ".intercalate arguments.positionals)) (.done .normal)) := rfl

structure Tree.Helps {Host : Type} (tree : Tree (Action Host)) (menu help : NodeId) : Prop where
  means : tree.resolve menu "help" (tree.comparison menu) = .ok (.named help)
  action : (tree.node help).action? = (Commands.helpNode menu).action?

theorem Tree.helps_of_visible {Host : Type} {tree : Tree (Action Host)} {menu help : NodeId}
    (reachable : tree.Reachable) (connected : root ∈ tree.lineage menu)
    (visible : help ∈ tree.visibleChildren menu)
    (named : (tree.node help).selector? = some "help")
    (action : (tree.node help).action? = (Commands.helpNode menu).action?) :
    tree.Helps menu help := by
  refine ⟨?_, action⟩
  have selected : tree.selector help = "help" := by simp [selector, named]
  rw [resolve_eq_named_iff, ← selected]
  exact reachable.candidates_selector connected visible

namespace Shell

variable {Host : Type} {shell : Shell Host} {menu help : NodeId} {line : String}
  {topics : List String}

def begun (shell : Shell Host) (menu : NodeId) (line : String) (id : NodeId) : Shell Host :=
  (shell.note (.dispatched menu line)).note (.acted id (Text.splitFirstWord line).2)

theorem dispatch_of_script {after : Shell Host} (helps : shell.tree.Helps menu help)
    (typed : Text.words line = "help" :: topics)
    (ends : Ends (.script (match Commands.helpSpec.parse topics with
      | .ok arguments =>
        .andThen (.showHelp menu (" ".intercalate arguments.positionals)) (.done .normal)
      | .error refusal => .say (Text.trimEnd refusal.text) (.done .normal)))
      (shell.begun menu line help) (.ok .normal, after)) :
    Ends (.visit (.dispatch menu line)) shell (.ok .normal, after) := by
  obtain ⟨command, rest⟩ := Text.splitFirstWord_of_words typed
  have split : Text.splitFirstWord line = ("help", (Text.splitFirstWord line).2) := by
    rw [← command]
  have action := helps.action.trans (Commands.action_helpNode menu)
  have acts : (shell.tree.node help).action?.isSome := by simp [action]
  have route := Tree.route_of_means helps.means acts split
  refine (Leads.dispatch route).ends_of_script action ?_
  rw [Script.withArguments, rest]
  exact ends

theorem dispatch_help (helps : shell.tree.Helps menu help)
    (typed : Text.words line = "help" :: topics)
    (plain : ∀ first ∈ topics.head?, ArgumentSpec.IsPlain first) :
    Ends (.visit (.dispatch menu line)) shell (.ok .normal,
      (shell.begun menu line help).write (shell.tree.help menu (" ".intercalate topics))) := by
  apply dispatch_of_script helps typed
  rw [ArgumentSpec.parse_of_greedy rfl rfl plain]
  exact (ends_andThen_done _ _ _).mpr rfl

theorem dispatch_help_help (helps : shell.tree.Helps menu help)
    (typed : Text.words line = ["help", "help"]) :
    Ends (.visit (.dispatch menu line)) shell (.ok .normal,
      (shell.begun menu line help).writeLine (Text.trimEnd Commands.helpSpec.usage)) := by
  have refused : Commands.helpSpec.parse ["help"] = .error (.help Commands.helpSpec.usage) := rfl
  apply dispatch_of_script helps typed
  rw [refused]
  exact (ends_andThen_done _ _ _).mpr rfl

theorem plain_of_head (undashed : ∀ topic ∈ topics, ArgumentSpec.isDashed topic = false)
    (other : topics.head? ≠ some "help") : ∀ first ∈ topics.head?, ArgumentSpec.IsPlain first := by
  intro first front
  have dashless := undashed first (List.mem_of_mem_head? front)
  refine ⟨?_, dashless⟩
  rw [ArgumentSpec.isHelp, Bool.or_eq_false_iff, decide_eq_false_iff_not, decide_eq_false_iff_not]
  constructor
  · rintro rfl
    exact absurd dashless (by decide)
  · rintro rfl
    exact other front

/-- Where the word means the menu's own help command, as it does in every menu below the root that
shows it, `help` with a topic writes the help for the topic and nothing else; the topic is all that
follows, word by word down the tree. So for a visible child its help text is shown, or else, of a
child with nothing below it, that it has none, and then the children that it shows. -/
theorem help_command_shows_help {Host : Type} :
    (∀ (tree : Tree (Action Host)) (menu help : NodeId), tree.Reachable →
      Tree.root ∈ tree.lineage menu → help ∈ tree.visibleChildren menu →
      (tree.node help).selector? = some "help" →
      (tree.node help).action? = (Commands.helpNode menu).action? → tree.Helps menu help) ∧
    (∀ (shell : Shell Host) (menu help : NodeId) (line : String) (topics : List String),
      shell.tree.Helps menu help → Text.words line = "help" :: topics →
      (∀ topic ∈ topics, ArgumentSpec.isDashed topic = false) → topics.head? ≠ some "help" →
      Ends (.visit (.dispatch menu line)) shell (.ok .normal,
        (shell.begun menu line help).write (shell.tree.help menu (" ".intercalate topics))) ∧
      shell.tree.help menu (" ".intercalate topics) = shell.tree.advice menu topics) ∧
    ∀ (shell : Shell Host) (menu help child : NodeId) (line : String),
      shell.tree.Reachable → Tree.root ∈ shell.tree.lineage menu → shell.tree.Helps menu help →
      child ∈ shell.tree.visibleChildren menu →
      Text.words line = ["help", shell.tree.selector child] →
      ArgumentSpec.isDashed (shell.tree.selector child) = false →
      shell.tree.selector child ≠ "help" →
      ∃ (shown : String) (rows : List (String × Option String)),
        Ends (.visit (.dispatch menu line)) shell (.ok .normal,
          (shell.begun menu line help).write (shown ++ String.join (rows.map Tree.listingRow))) ∧
        (rows.map Prod.fst).Perm ((shell.tree.visibleChildren child).map shell.tree.selector) ∧
        (∀ text, (shell.tree.node child).help? = some text → shown = text ++ "\n") ∧
        ((shell.tree.node child).help? = none → shell.tree.visibleChildren child = [] →
          shown = "No help available for " ++ shell.tree.selector child ++ "\n") ∧
        ((shell.tree.node child).help? = none → shell.tree.visibleChildren child ≠ [] →
          shown = "") := by
  refine ⟨?_, ?_, ?_⟩
  · intro tree menu help reachable connected visible named action
    exact Tree.helps_of_visible reachable connected visible named action
  · intro shell menu help line topics helps typed undashed other
    have solid : ∀ topic ∈ topics, Tree.isWord topic = true := by
      intro topic member
      exact Text.isWord_of_mem_words (typed ▸ List.mem_cons_of_mem _ member)
    exact ⟨dispatch_help helps typed (plain_of_head undashed other), Tree.help_intercalate solid⟩
  · intro shell menu help child line reachable connected helps visible typed undashed other
    obtain ⟨named, isWord⟩ := reachable.selector_of_visible visible
    have plain : ∀ first ∈ [shell.tree.selector child].head?, ArgumentSpec.IsPlain first :=
      plain_of_head (by simpa using undashed) (by simpa using other)
    have writes := dispatch_help helps typed plain
    rw [Tree.help_intercalate (by simpa using isWord),
      Tree.advice_selector reachable connected visible] at writes
    refine ⟨_, _, writes, shell.tree.abbreviations_selectors child _, ?_, ?_, ?_⟩
    · intro text help
      simp [Tree.itemHelp, help, Tree.line]
    · intro none leaf
      simp [Tree.itemHelp, none, leaf, Tree.line, Tree.describe, named]
    · intro none more
      simp [Tree.itemHelp, none, more]

theorem head_usage : Commands.helpSpec.usage.toList.head? = some 'U' := by
  simp [ArgumentSpec.usage, ArgumentSpec.shape, String.intercalate_cons_cons]

/-- A menu without a help text is only listed. `help` itself is taken by the parser, which answers with
the usage of the command. In a menu that has been let go of, the word may be ambiguous though the
command is there. -/
theorem help_differs_for_bare_menu_help_and_severed_menu :
    let tree : Tree (Action Unit) := (initialTree {}).applyAll
      [.add 0 (.menu "m"), .add 3 (.leaf "x" fun _ => .done .normal)]
    let severed : Tree (Action Unit) := (initialTree { comparison := .sensitive }).applyAll
      [.add 0 (.menu "m"), .add 3 (Commands.helpNode 3),
        .add 3 (.leaf "HELP" fun _ => .done .normal), .detach 3]
    let within (tree : Tree (Action Unit)) : Shell Unit :=
      { tree, input := {}, procedures := {}, conditions := [], prompts := {}, settings := {},
        records := .empty, notebooks := [], transcript := #[], host := () }
    let writes (tree : Tree (Action Unit)) (menu : NodeId) (line text : String) :=
      ∃ final, Ends (.visit (.dispatch menu line)) (within tree) (.ok .normal, final) ∧
        final.texts = [text]
    let usage := Text.trimEnd Commands.helpSpec.usage ++ "\n"
    let ambiguous := "Command <help> not unique. Candidates: HELP, help\n"
    (3 ∈ tree.visibleChildren 0 ∧ (tree.node 3).help? = none ∧ writes tree 0 "help m" "      x\n") ∧
    (1 ∈ tree.visibleChildren 0 ∧ tree.help 0 "help" ≠ usage ∧ writes tree 0 "help help" usage) ∧
    4 ∈ severed.visibleChildren 3 ∧ severed.help 3 "HELP" ≠ ambiguous ∧
      writes severed 3 "help HELP" ambiguous := by
  intro tree severed within writes usage ambiguous
  have carried {tree : Tree (Action Unit)} {menu : NodeId} {line text : String}
      (ran : (run 20 (.visit (.dispatch menu line)) (within tree)).map (fun outcome =>
        (outcome.1, outcome.2.texts)) = some (.ok .normal, [text])) :
      writes tree menu line text := by
    obtain ⟨⟨result, final⟩, ended, same⟩ := exists_ends_of_run ran
    obtain ⟨rfl, said⟩ := Prod.mk.inj same
    exact ⟨final, ended, said⟩
  refine ⟨⟨by decide, by decide, carried (by decide +kernel)⟩, ⟨by decide, ?_, ?_⟩, by decide, ?_,
    carried (by decide +kernel)⟩
  · have front : (tree.help 0 "help").toList.head? = some 'h' := by decide +kernel
    have other : usage.toList.head? = some 'U' := by
      rw [String.toList_append, List.head?_append, Text.head?_trimEnd head_usage (by decide)]
      rfl
    intro same
    rw [same, other] at front
    simp at front
  · have helps : tree.Helps 0 1 := ⟨by decide +kernel, rfl⟩
    exact ⟨_, dispatch_help_help helps (by decide +kernel), rfl⟩
  · decide +kernel

theorem help_command_shows_help_of_path :
    let tree : Tree (Action Unit) := (Tree.empty .insensitive).applyAll
      [.add 0 (Commands.helpNode 0), .add 0 ((Node.menu "convert").withHelp "Converts a text."),
        .add 2 (.leaf "upper" fun _ => .done .normal)]
    let shell : Shell Unit :=
      { tree, input := {}, procedures := {}, conditions := [], prompts := {}, settings := {},
        records := .empty, notebooks := [], transcript := #[], host := () }
    let path := "help \t conv  upper "
    Ends (.visit (.dispatch 0 path)) shell
      (.ok .normal, (shell.begun 0 path 1).write "No help available for upper\n") ∧
    ∃ short?, Ends (.visit (.dispatch 0 "help convert")) shell (.ok .normal,
      (shell.begun 0 "help convert" 1).write
        ("Converts a text.\n" ++ String.join [Tree.listingRow ("upper", short?)])) := by
  intro tree shell path
  have reachable : tree.Reachable := ⟨.insensitive, Tree.Reaches.refl.applyAll (by decide)⟩
  obtain ⟨visible, topics, child⟩ := @help_command_shows_help Unit
  have helps : tree.Helps 0 1 := visible tree 0 1 reachable (by decide) (by decide) (by decide) rfl
  refine ⟨?_, ?_⟩
  · have writes := topics shell 0 1 path ["conv", "upper"] helps (by decide +kernel) (by decide)
      (by decide)
    have text : shell.tree.advice 0 ["conv", "upper"] = "No help available for upper\n" := by
      decide +kernel
    rw [writes.2, text] at writes
    exact writes.1
  · obtain ⟨shown, rows, writes, listed, help, -, -⟩ := child shell 0 1 2 "help convert" reachable
      (by decide) helps (by decide) (by decide +kernel) (by decide) (by decide)
    rw [help "Converts a text." (by decide)] at writes
    have single : (shell.tree.visibleChildren 2).map shell.tree.selector = ["upper"] := by decide
    rw [single, List.perm_singleton] at listed
    obtain ⟨⟨selector, short?⟩, rfl, rfl⟩ := List.map_eq_singleton_iff.mp listed
    exact ⟨short?, writes⟩

end Shell

end MenuShell

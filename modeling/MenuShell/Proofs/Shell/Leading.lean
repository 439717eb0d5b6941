import MenuShell.Proofs.Shell.Capturing
import MenuShell.Proofs.Shell.Points
import MenuShell.Proofs.Tree.Walking

/-!
Where the words of a line lead. A path of commands that only group others is followed by their
selectors or abbreviations, and the action at its end gets the rest of the line. Help walks the same
path, so that what it says of words is what a line with these words does.
-/

namespace MenuShell

namespace Tree

inductive Spelled {Action : Type} (tree : Tree Action) :
    NodeId → List String → List NodeId → NodeId → Prop
  | here (menu : NodeId) : Spelled tree menu [] [] menu
  | step {menu child last : NodeId} {word : String} {words : List String} {nodes : List NodeId} :
      child ∈ tree.visibleChildren menu →
      (word = tree.selector child ∨
        tree.abbreviation? menu child (tree.comparison menu) = some word) →
      Spelled tree child words nodes last → Spelled tree menu (word :: words) (child :: nodes) last

variable {Action : Type} {tree : Tree Action} {menu child last : NodeId} {word : String}
  {words : List String} {nodes : List NodeId}

theorem Reachable.means_of_typed (reachable : tree.Reachable) (connected : root ∈ tree.lineage menu)
    (visible : child ∈ tree.visibleChildren menu)
    (typed : word = tree.selector child ∨
      tree.abbreviation? menu child (tree.comparison menu) = some word) :
    tree.resolveNamed menu word (tree.comparison menu) = .ok child ∧ isWord word = true := by
  rcases typed with rfl | shown
  · exact ⟨resolveNamed_eq_ok_iff.mpr (reachable.candidates_selector connected visible),
      (reachable.selector_of_visible visible).2⟩
  · exact ⟨resolveNamed_eq_ok_iff.mpr (candidates_of_abbreviation shown),
      reachable.isWord_of_abbreviation visible shown⟩

theorem Spelled.walks (spelled : tree.Spelled menu words nodes last) (reachable : tree.Reachable)
    (connected : root ∈ tree.lineage menu) :
    tree.Walks menu words nodes last ∧ ∀ word ∈ words, isWord word = true := by
  induction spelled with
  | here menu => exact ⟨.here menu, by simp⟩
  | @step menu child _ _ _ _ visible typed _ ih =>
      obtain ⟨means, isWord⟩ := reachable.means_of_typed connected visible typed
      have below := (reachable.forest.named menu child).mp (mem_children_of_visible visible)
      have inner : root ∈ tree.lineage child := by
        rw [reachable.forest.lineage_step below.2]
        exact List.mem_cons_of_mem _ connected
      obtain ⟨walks, solid⟩ := ih inner
      exact ⟨.step means walks, List.forall_mem_cons.mpr ⟨isWord, solid⟩⟩

end Tree

namespace Shell

variable {Host : Type} {shell : Shell Host} {menu id last : NodeId} {line sub : String}
  {steps : List (String × String)} {nodes : List NodeId} {lead rest tail topic : String}

theorem ends_dispatch_of_route
    (same : shell.tree.dispatchRoute? menu line = shell.tree.executeRoute? id sub)
    (outcome : Outcome Host) :
    Ends (.visit (.dispatch menu line)) shell outcome ↔
      Ends (.visit (.execute id sub)) (shell.note (.dispatched menu line)) outcome := by
  rw [ends_iff_step, ends_iff_step]
  simp only [run, same]
  rfl

/-- Along a path of commands that have no action of their own, each called by its selector or by the
abbreviation shown for it, a line leads to the command at the end: the action gets the rest of the
line, trimmed and otherwise as it is. White space around and between the words makes no difference,
and nothing happens before the action or besides it. -/
theorem line_reaches_its_command {action : Action Host} (reachable : shell.tree.Reachable)
    (connected : Tree.root ∈ shell.tree.lineage menu)
    (spelled : shell.tree.Spelled menu (steps.map Prod.fst) nodes last) (present : steps ≠ [])
    (passive : ∀ id ∈ nodes.dropLast, (shell.tree.node id).action? = none)
    (known : (shell.tree.node last).action? = some action) (parted : Text.Parted steps rest)
    (before : Text.isBlank lead = true) (behind : Text.isBlank tail = true) :
    let line := lead ++ Text.spaced steps rest ++ tail
    let started := (shell.note (.dispatched menu line)).note (.acted last (Text.trim rest))
    Turn (.visit (.dispatch menu line)) shell [] (.script (action (Text.trim rest))) started ∧
    ∀ outcome, Ends (.visit (.dispatch menu line)) shell outcome ↔
      ∃ inner, Ends (.script (action (Text.trim rest))) started inner ∧ absorb inner = outcome := by
  intro line started
  obtain ⟨walks, solid⟩ := spelled.walks reachable connected
  have words : ∀ step ∈ steps, Tree.isWord step.1 = true :=
    fun step member => solid step.1 (List.mem_map_of_mem member)
  have cut : Text.splitFirstWord line = Text.splitFirstWord (Text.spaced steps rest) := by
    rw [← Text.splitFirstWord_trim, Text.trim_append_blanks behind, Text.trim_blanks_append before,
      Text.splitFirstWord_trim]
  have route := walks.dispatchRoute?_whole reachable.forest present passive words parted cut
  have acts : (shell.tree.node last).action?.isSome := by simp [known]
  rw [Tree.executeRoute?_eq reachable.forest, if_pos acts] at route
  have leads : Leads shell (.dispatch menu line) (.act last (Text.trim rest)) _ := .dispatch route
  exact ⟨.act leads known, fun outcome => leads.ends_act known⟩

theorem line_reaches_its_command_of_two_words :
    let action : Action Unit := fun rest => .say rest (.done .normal)
    let tree : Tree (Action Unit) := (Tree.empty .insensitive).applyAll
      [.add 0 (.menu "convert"), .add 0 (.leaf "call" action), .add 1 (.defaultItem action),
        .add 1 (.menu "Upper"), .setAction 4 (some action)]
    let shell : Shell Unit :=
      { tree, input := {}, procedures := {}, conditions := [], prompts := {}, settings := {},
        records := .empty, notebooks := [], transcript := #[], host := () }
    let line := "\t co  Upper \t a  b "
    Ends (.visit (.dispatch 0 line)) shell (.ok .normal,
      ((shell.note (.dispatched 0 line)).note (.acted 4 "a  b")).writeLine "a  b") := by
  intro action tree shell line
  have reachable : tree.Reachable := ⟨.insensitive, Tree.Reaches.refl.applyAll (by decide)⟩
  have spelled : tree.Spelled 0 ["co", "Upper"] [1, 4] 4 :=
    .step (by decide) (.inr (by decide +kernel)) (.step (by decide) (.inl (by decide)) (.here 4))
  have passive : ∀ id ∈ [1, 4].dropLast, (tree.node id).action? = none := by
    have group : (tree.node 1).action?.isNone = true := by decide
    simpa using group
  have known : (tree.node 4).action? = some action :=
    congrArg Node.action? (Tree.node_modify_self (by decide) _)
  have parted : Text.Parted [("co", "  "), ("Upper", " \t ")] "a  b" :=
    ⟨by decide, by simp, by decide, by simp, trivial⟩
  have typed : "\t " ++ Text.spaced [("co", "  "), ("Upper", " \t ")] "a  b" ++ " " = line := by
    decide
  have trimmed : Text.trim "a  b" = "a  b" := by decide
  have reaches := @line_reaches_its_command Unit shell 0 4 [("co", "  "), ("Upper", " \t ")] [1, 4]
    "\t " "a  b" " " action reachable (by decide) spelled (by simp) passive known parted (by decide)
    (by decide)
  rw [typed, trimmed] at reaches
  exact (reaches.2 _).mpr ⟨_, (ends_andThen_done _ _ _).mpr rfl, rfl⟩

/-- What help describes, a line executes, and what help complains of, it complains of in the same
words, as far as the commands on the way have no action. A line is different only in that a default
item takes what means nothing, and it takes all of the line from there on. -/
theorem help_and_dispatch_agree (reachable : shell.tree.Reachable) (parted : Text.Parted steps rest)
    (present : steps ≠ []) (typed : Text.words topic = steps.map Prod.fst) :
    let line := Text.spaced steps rest
    let noted := shell.note (.dispatched menu line)
    ((∃ nodes last, shell.tree.Walks menu (steps.map Prod.fst) nodes last) ∨
      ∃ front word gap behind nodes stop error, steps = front ++ (word, gap) :: behind ∧
        shell.tree.Walks menu (front.map Prod.fst) nodes stop ∧
        shell.tree.resolveNamed stop word (shell.tree.comparison stop) = .error error) ∧
    (∀ nodes last, shell.tree.Walks menu (steps.map Prod.fst) nodes last →
      shell.serve (.showHelp menu topic) =
        (.ok (), shell.write (shell.tree.itemHelp last ++ shell.tree.listing last)) ∧
      ((∀ id ∈ nodes.dropLast, (shell.tree.node id).action? = none) →
        ∀ outcome, Ends (.visit (.dispatch menu line)) shell outcome ↔
          Ends (.visit (.execute last (Text.trim rest))) noted outcome)) ∧
    ∀ front word gap behind nodes stop error, steps = front ++ (word, gap) :: behind →
      shell.tree.Walks menu (front.map Prod.fst) nodes stop →
      shell.tree.resolveNamed stop word (shell.tree.comparison stop) = .error error →
      let left := Text.spaced ((word, gap) :: behind) rest
      shell.serve (.showHelp menu topic) = (.ok (), shell.report error) ∧
      ((∀ id ∈ nodes, (shell.tree.node id).action? = none) →
        (nodes ≠ [] → shell.tree.hasVisibleChildren stop = true) →
        (∀ token suggestions item, error = .unknown token suggestions →
          shell.tree.visibleDefault? stop = some item →
          ∀ outcome, Ends (.visit (.dispatch menu line)) shell outcome ↔
            Ends (.visit (.execute item (if nodes = [] then left else Text.trim left))) noted
              outcome) ∧
        ((∀ token suggestions item, error = .unknown token suggestions →
          shell.tree.visibleDefault? stop ≠ some item) →
          ∀ outcome, Ends (.visit (.dispatch menu line)) shell outcome ↔
            outcome = (.ok .normal, noted.report error))) := by
  intro line noted
  have forest := reachable.forest
  have words : ∀ step ∈ steps, Tree.isWord step.1 = true := fun step member =>
    Text.isWord_of_mem_words (typed ▸ List.mem_map_of_mem member)
  refine ⟨?_, ?_, ?_⟩
  · rcases shell.tree.walks_or_stops menu (steps.map Prod.fst) with walks |
      ⟨before, word, others, nodes, stop, error, parts, walks, fails⟩
    · exact .inl walks
    · obtain ⟨front, back, rfl, rfl, later⟩ := List.map_eq_append_iff.mp parts
      obtain ⟨⟨_, gap⟩, behind, rfl, rfl, -⟩ := List.map_eq_cons_iff.mp later
      exact .inr ⟨front, _, gap, behind, nodes, stop, error, rfl, walks, fails⟩
  · intro nodes last walks
    refine ⟨?_, fun passive => ends_dispatch_of_route ?_⟩
    · rw [serve, walks.help (by simpa using present) typed]
    · exact walks.dispatchRoute?_whole forest present passive words parted rfl
  · rintro front word gap behind nodes stop error rfl walks fails left
    refine ⟨?_, fun passive shows => ?_⟩
    · rw [serve, walks.help_of_error fails (by rw [typed, List.map_append, List.map_cons])]
      rfl
    · have solid : ∀ step ∈ front, Tree.isWord step.1 = true :=
        fun step member => words step (List.mem_append_left _ member)
      have route := walks.dispatchRoute?_stop forest passive shows solid parted
      have cut : Text.splitFirstWord (if nodes = [] then left else Text.trim left) =
          (word, Text.trim (Text.spaced behind rest)) := by
        rw [apply_ite Text.splitFirstWord, Text.splitFirstWord_trim, ite_self]
        exact Text.splitFirstWord_spaced (words (word, gap) (by simp)) parted.behind
      refine ⟨?_, fun bare outcome => ?_⟩
      · rintro token suggestions item rfl fallback
        exact ends_dispatch_of_route (route.trans (Tree.dispatchRoute?_of_unknown fails fallback cut))
      · exact (Leads.dispatch (route.trans (Tree.dispatchRoute?_of_error fails bare cut))).ends_report

theorem help_and_dispatch_agree_of_default_item :
    let action : Action Unit := fun rest => .say rest (.done .normal)
    let tree : Tree (Action Unit) := (Tree.empty .sensitive).applyAll
      [.add 0 (.menu "convert"), .add 1 (.leaf "Upper" action), .add 1 (.defaultItem action)]
    let shell : Shell Unit :=
      { tree, input := {}, procedures := {}, conditions := [], prompts := {}, settings := {},
        records := .empty, notebooks := [], transcript := #[], host := () }
    let line := "co up\t a  b "
    let error : MenuError := .unknown "up" ["Upper"]
    shell.serve (.showHelp 0 " co  up ") = (.ok (), shell.report error) ∧
      ∀ outcome, Ends (.visit (.dispatch 0 line)) shell outcome ↔
        Ends (.visit (.execute 3 "up\t a  b")) (shell.note (.dispatched 0 line)) outcome := by
  intro action tree shell line error
  have reachable : tree.Reachable := ⟨.sensitive, Tree.Reaches.refl.applyAll (by decide)⟩
  have parted : Text.Parted [("co", " "), ("up", "\t ")] "a  b " :=
    ⟨by decide, by simp, by decide, by simp, trivial⟩
  have walks : tree.Walks 0 ["co"] [1] 1 := .step (by decide +kernel) (.here 1)
  have fails : tree.resolveNamed 1 "up" (tree.comparison 1) = .error error := by decide +kernel
  have passive : ∀ id ∈ [1], (tree.node id).action? = none := by
    have group : (tree.node 1).action?.isNone = true := by decide
    simpa using group
  have stays : tree.visibleDefault? 1 = some 3 := by decide
  have cut : Text.trim (Text.spaced [("up", "\t ")] "a  b ") = "up\t a  b" := by decide
  have words : Text.words " co  up " = ["co", "up"] := by decide +kernel
  have described : tree.hasVisibleChildren 1 = true := by decide
  clear_value tree
  have agree := (@help_and_dispatch_agree Unit shell 0 _ _ _ reachable parted (by simp) words).2.2
    [("co", " ")] "up" "\t " [] [1] 1 error rfl walks fails
  have taken := (agree.2 passive fun _ => described).1 "up" ["Upper"] 3 rfl stays
  rw [if_neg (by simp), cut] at taken
  exact ⟨agree.1, taken⟩

end Shell

end MenuShell

import MenuShell.Proofs.Shell.Conditions
import MenuShell.Proofs.Shell.Gathering
import MenuShell.Proofs.Tree.Walking

/-!
Lines behind several conditions. The line at the end of a chain of commands `if` comes to be the next one
if the conditions hold, each when its turn comes, and nothing else is read or changed on the way.
-/

namespace MenuShell

namespace InputStack

/-- Both are answered alike; frames that have run out make no difference. -/
def AnswersAs (input other : InputStack) : Prop :=
  ∀ prompt?, input.query prompt? = other.query prompt?

theorem answersAs_spent (input : InputStack) : (input.pushLines []).AnswersAs input :=
  fun _ => rfl

end InputStack

namespace Shell

variable {Host : Type} {shell tested asked later : Shell Host} {menu id : NodeId}
  {mode : Comparison} {line tail : String} {value : Bool}

structure Link where
  command : String × String
  nots : List (String × String)
  condition : String × String
deriving DecidableEq, Repr

namespace Link

def steps (link : Link) : List (String × String) :=
  link.command :: (link.nots ++ [link.condition])

/-- The words of the link mean in the menu what they stand for. The first one means the command if it is
its selector or an abbreviation that the menu shows for it. -/
structure Fits (link : Link) (shell : Shell Host) (menu id : NodeId) : Prop where
  solid : ∀ step ∈ link.steps, Tree.isWord step.1 = true
  means : shell.tree.resolveNamed menu link.command.1 (shell.tree.comparison menu) = .ok id
  turns : ∀ step ∈ link.nots, (shell.tree.comparison menu).same step.1 "not" = true
  stays : (shell.tree.comparison menu).same link.condition.1 "not" = false
  known : shell.Knows link.condition.1 (shell.tree.comparison menu)

variable {link : Link}

def Holds (link : Link) (value : Bool) : Prop :=
  value ≠ decide (link.nots.length % 2 = 1)

instance (link : Link) (value : Bool) : Decidable (link.Holds value) :=
  inferInstanceAs (Decidable (_ ≠ _))

theorem Fits.of_same (fits : link.Fits shell menu id) (tree : later.tree = shell.tree)
    (names : later.conditions.map Prod.fst = shell.conditions.map Prod.fst) :
    link.Fits later menu id where
  solid := fits.solid
  means := tree ▸ fits.means
  turns := tree ▸ fits.turns
  stays := tree ▸ fits.stays
  known := by
    rw [Knows, names, tree]
    exact fits.known

end Link

/-- Looks at the conditions of a chain, each in the shell that the one before has left, up to the first
that does not hold; says whether all of them held. -/
def tryInTurn (mode : Comparison) : List Link → Shell Host → Bool × Shell Host
  | [], shell => (true, shell)
  | link :: links, shell =>
    match shell.test link.condition.1 mode with
    | (some value, tested) =>
      if link.Holds value then tryInTurn mode links tested else (false, tested)
    | (none, tested) => (false, tested)

theorem SameButInput.tryInTurn (same : SameButInput later shell) (mode : Comparison)
    (links : List Link) :
    (later.tryInTurn mode links).1 = (shell.tryInTurn mode links).1 ∧
      SameButInput (later.tryInTurn mode links).2 (shell.tryInTurn mode links).2 := by
  induction links generalizing later shell with
  | nil => exact ⟨rfl, same⟩
  | cons link links ih =>
      obtain ⟨value, tested⟩ := same.test link.condition.1 mode
      rw [Shell.tryInTurn, Shell.tryInTurn]
      rcases first : later.test link.condition.1 mode with ⟨value?, looked⟩
      rcases second : shell.test link.condition.1 mode with ⟨also?, alsoLooked⟩
      rw [first, second] at value tested
      obtain rfl : value? = also? := value
      cases value? with
      | none => exact ⟨rfl, tested⟩
      | some value =>
          by_cases holds : link.Holds value
          · simp only [holds, if_true]
            exact ih tested
          · simp only [holds, if_false]
            exact ⟨trivial, tested⟩

theorem ends_dispatch_link {link : Link} (fits : link.Fits shell menu id)
    (known : (shell.tree.node id).action? = some (Commands.runIf menu))
    (parted : Text.Parted link.steps tail)
    (typed : Text.trim line = Text.trim (Text.spaced link.steps tail))
    (looked : shell.test link.condition.1 (shell.tree.comparison menu) = (some value, tested)) :
    ∃ after, Ends (.visit (.dispatch menu line)) shell (.ok .normal, after) ∧
      SameButInput after tested ∧
      shell.Adds after [.dispatched menu line,
        .acted id (Text.trim (Text.spaced (link.nots ++ [link.condition]) tail))] ∧
      after.input =
        if link.Holds value then shell.input.pushLine (Text.trim tail) else shell.input := by
  have cut : Text.splitFirstWord line =
      (link.command.1, Text.trim (Text.spaced (link.nots ++ [link.condition]) tail)) := by
    rw [← Text.splitFirstWord_trim, typed, Text.splitFirstWord_trim]
    exact Text.splitFirstWord_spaced (fits.solid _ List.mem_cons_self) parted
  have acts : (shell.tree.node id).action?.isSome := by simp [known]
  have leads := Leads.dispatch ((Tree.dispatchRoute?_of_named fits.means cut).trans
    (Tree.routeWithin_of_action acts _))
  generalize argument : Text.trim (Text.spaced (link.nots ++ [link.condition]) tail) = sub at leads ⊢
  have asks : Commands.Asks (shell.tree.comparison menu) link.nots.length sub link.condition.1
      (Text.trim tail) := by
    obtain ⟨_, _, parted⟩ := parted
    refine Commands.asks_of_spaced (fun step member => ⟨fits.solid step ?_, fits.turns step member⟩)
      parted.before (Text.splitFirstWord_spaced (fits.solid _ ?_) parted.behind) fits.stays ?_
    · simp [Link.steps, member]
    · simp [Link.steps]
    · rw [← argument, Text.splitFirstWord_trim, Text.spaced_append]
  -- The condition is looked at in a shell that differs from the first one in its transcript alone.
  obtain ⟨noted, same⟩ : ∃ noted, noted = (shell.note (.dispatched menu line)).note (.acted id sub) :=
    ⟨_, rfl⟩
  have adds : shell.Adds noted [.dispatched menu line, .acted id sub] :=
    same ▸ (adds_note shell _).trans (adds_note _ _)
  have sameNoted : SameButInput noted shell := same ▸ rfl
  have tree : noted.tree = shell.tree := same ▸ rfl
  have input : noted.input = shell.input := same ▸ rfl
  rcases again : noted.test link.condition.1 (shell.tree.comparison menu) with ⟨value?, left⟩
  obtain ⟨sameValue, sameTested⟩ := sameNoted.test link.condition.1 (shell.tree.comparison menu)
  rw [again, looked] at sameValue sameTested
  obtain rfl : value? = some value := sameValue
  have kept := test_eq again
  have unread : left.input = shell.input := (congrArg Shell.input kept).trans input
  have quiet : left.transcript = noted.transcript := (congrArg Shell.transcript kept).trans rfl
  rw [← tree] at asks again
  have runs := (ends_runIf asks again).mpr rfl
  rw [same] at runs
  have ends := leads.ends_of_script known runs
  refine ⟨_, ends, ?_, ?_, ?_⟩
  · split
    · exact SameButInput.trans rfl sameTested
    · exact sameTested
  · rw [Adds] at adds ⊢
    split <;> simpa only [quiet] using adds
  · by_cases holds : link.Holds value
    · rw [if_pos holds, ← unread]
      exact congrArg Shell.input (if_pos holds)
    · rw [if_neg holds, ← unread]
      exact congrArg Shell.input (if_neg holds)

theorem next_of_pushed {input : InputStack} (filled : Text.isBlank line = false)
    (pushed : shell.input = input.pushLine line) :
    shell.next = (.line line, { shell with input := input.pushLines [] }) := by
  have drawn : (Frame.lines [line]).draw = .line line (.lines []) := by
    simp [Frame.draw, Frame.drawLines, filled]
  have answered (prompt? : Option String) : shell.input.query prompt? =
      { result := .ok (some line), readings := [], rest := input.pushLines [] } := by
    rw [pushed]
    simp only [InputStack.query, InputStack.pushLine, InputStack.pushLines, InputStack.push,
      InputStack.drawFrom, drawn]
  simp [next, query, receive, answered]

inductive IsStepOf (menu id : NodeId) (links : List Link) (command : String) : Event → Prop
  | dispatched (front : List Link) {others : List Link} {link : Link} {line : String} :
      links = front ++ link :: others →
      Text.trim line =
        Text.trim (Text.spaced (link.steps ++ others.flatMap Link.steps) command) →
      IsStepOf menu id links command (.dispatched menu line)
  | acted (front : List Link) {others : List Link} {link : Link} : links = front ++ link :: others →
      IsStepOf menu id links command (.acted id (Text.trim
        (Text.spaced (link.nots ++ [link.condition] ++ others.flatMap Link.steps) command)))

theorem IsStepOf.cons {links : List Link} {command : String} {event : Event}
    (step : IsStepOf menu id links command event) (link : Link) :
    IsStepOf menu id (link :: links) command event := by
  cases step with
  | dispatched front parts typed => exact .dispatched (link :: front) (by rw [parts, List.cons_append]) typed
  | acted front parts => exact .acted (link :: front) (by rw [parts, List.cons_append])

/-- What has come of a chain that was typed: its conditions have been looked at in turn, nothing has
happened but the steps of the chain, and the command is the next line if all conditions held. Nothing
else has been taken from the input. -/
structure Decided (menu id : NodeId) (asked : Shell Host) (links : List Link) (command : String)
    (later : Shell Host) : Prop where
  same : SameButInput later (asked.tryInTurn (asked.tree.comparison menu) links).2
  steps : ∃ events, asked.Adds later events ∧ ∀ event ∈ events, IsStepOf menu id links command event
  next : if (asked.tryInTurn (asked.tree.comparison menu) links).1 then
      ∃ taken, later.next = (.line (Text.trim command), taken) ∧ taken.input.AnswersAs asked.input
    else later.input.AnswersAs asked.input

variable {link : Link} {links : List Link} {command : String}

theorem tryInTurn_of_holds (looked : shell.test link.condition.1 mode = (some value, tested))
    (holds : link.Holds value) (links : List Link) :
    shell.tryInTurn mode (link :: links) = tested.tryInTurn mode links := by
  simp only [tryInTurn, looked, holds, if_true]

theorem tryInTurn_of_fails (looked : shell.test link.condition.1 mode = (some value, tested))
    (fails : ¬link.Holds value) (links : List Link) :
    shell.tryInTurn mode (link :: links) = (false, tested) := by
  simp only [tryInTurn, looked, fails, if_false]

theorem Decided.behind {again : Shell Host} {events : List Event}
    (decided : Decided menu id again links command later)
    (looked : asked.test link.condition.1 (asked.tree.comparison menu) = (some value, tested))
    (holds : link.Holds value) (same : SameButInput again tested) (tree : again.tree = asked.tree)
    (adds : asked.Adds again events)
    (steps : ∀ event ∈ events, IsStepOf menu id (link :: links) command event)
    (spent : again.input.AnswersAs asked.input) :
    Decided menu id asked (link :: links) command later := by
  obtain ⟨verdict, sameTried⟩ := same.tryInTurn (asked.tree.comparison menu) links
  obtain ⟨sameLater, ⟨more, addsMore, stepsMore⟩, next⟩ := decided
  rw [tree] at sameLater next
  rw [verdict] at next
  refine ⟨?_, ⟨events ++ more, adds.trans addsMore, fun event member => ?_⟩, ?_⟩
  · rw [tryInTurn_of_holds looked holds]
    exact sameLater.trans sameTried
  · exact (List.mem_append.mp member).elim (steps event) fun later => (stepsMore event later).cons link
  · rw [tryInTurn_of_holds looked holds]
    split at next
    · rename_i all
      obtain ⟨taken, next, alike⟩ := next
      rw [if_pos all]
      exact ⟨taken, next, fun prompt? => (alike prompt?).trans (spent prompt?)⟩
    · rename_i all
      rw [if_neg all]
      exact fun prompt? => (next prompt?).trans (spent prompt?)

theorem chain_decides (present : links ≠ []) (fits : ∀ link ∈ links, link.Fits asked menu id)
    (known : (asked.tree.node id).action? = some (Commands.runIf menu))
    (parted : Text.Parted (links.flatMap Link.steps) command)
    (filled : Text.isBlank command = false)
    (typed : Text.trim line = Text.trim (Text.spaced (links.flatMap Link.steps) command)) :
    ∃ later, Decided menu id asked links command later ∧
      ∀ outcome, (∃ dispatched, Ends (.visit (.dispatch menu line)) asked dispatched ∧
        Resumes menu dispatched outcome) ↔ Ends (.loop menu) later outcome := by
  induction links generalizing asked line with
  | nil => exact absurd rfl present
  | cons link links ih =>
      rw [List.flatMap_cons] at parted typed
      have first := fits link List.mem_cons_self
      obtain ⟨value, tested, looked⟩ := first.known.test
      have head : Text.trim line =
          Text.trim (Text.spaced link.steps (Text.spaced (links.flatMap Link.steps) command)) := by
        rw [typed, Text.spaced_append]
      obtain ⟨after, ends, same, adds, input⟩ :=
        ends_dispatch_link first known parted.before head looked
      rw [← Text.spaced_append] at adds
      have steps : ∀ event ∈ [Event.dispatched menu line, .acted id (Text.trim (Text.spaced
          (link.nots ++ [link.condition] ++ links.flatMap Link.steps) command))],
          IsStepOf menu id (link :: links) command event := by
        simp only [List.mem_cons, List.not_mem_nil, or_false, forall_eq_or_imp, forall_eq]
        exact ⟨.dispatched [] rfl typed, .acted [] rfl⟩
      have resumes (outcome : Outcome Host) :
          (∃ dispatched, Ends (.visit (.dispatch menu line)) asked dispatched ∧
            Resumes menu dispatched outcome) ↔ Ends (.loop menu) after outcome :=
        ends.exists_and_iff
      by_cases holds : link.Holds value
      · rw [if_pos holds] at input
        have rest : Text.isBlank (Text.trim (Text.spaced (links.flatMap Link.steps) command)) = false := by
          rw [Text.isBlank_trim]
          exact Text.isBlank_spaced filled
        have next := next_of_pushed rest input
        have spent := asked.input.answersAs_spent
        cases links with
        | nil =>
            refine ⟨after, ⟨?_, ⟨_, adds, steps⟩, ?_⟩, resumes⟩
            · rw [tryInTurn_of_holds looked holds]
              exact same
            · rw [tryInTurn_of_holds looked holds]
              exact ⟨_, next, spent⟩
        | cons other others =>
            -- The rest of the chain is read at once, and of its line an empty frame is left.
            obtain ⟨again, reread⟩ :
                ∃ again, again = { after with input := asked.input.pushLines [] } :=
              ⟨_, rfl⟩
            rw [← reread] at next
            have sameAgain : SameButInput again tested := by
              rw [reread]
              exact SameButInput.trans rfl same
            obtain ⟨tree, names⟩ := sameAgain.of_test looked
            obtain ⟨later, decided, goes⟩ := ih (List.cons_ne_nil _ _)
              (fun link member => (fits link (List.mem_cons_of_mem _ member)).of_same tree names)
              (tree ▸ known) parted.behind ((Text.trim_trim _).trans (Text.trim_trim _))
            refine ⟨later, decided.behind looked holds sameAgain tree ?_ steps ?_, fun outcome => ?_⟩
            · rw [reread]
              exact adds
            · rw [reread]
              exact spent
            · rw [resumes, ends_loop_line menu next, goes]
      · rw [if_neg holds] at input
        refine ⟨after, ⟨?_, ⟨_, adds, steps⟩, ?_⟩, resumes⟩
        · rw [tryInTurn_of_fails looked holds]
          exact same
        · rw [tryInTurn_of_fails looked holds, input]
          exact fun _ => rfl

/-- The command `if` looks at the condition behind its words `not` once, and it puts the rest of its line
in front of the input just if the value of the condition is not what an odd number of such words asks
for; a word that no condition has for a name is a failure, and then nothing has changed. So of a chain
of such commands that a loop has read the line at the end is the next one, before all that was there
already, if each condition holds when its turn comes, and otherwise what was there already comes next;
apart from that the loop goes on as if it had not read the chain. -/
theorem if_runs_line_of_held_conditions (shell : Shell Host) (menu : NodeId) :
    let mode := shell.tree.comparison menu
    (∀ nots tail word rest,
      (∀ step ∈ nots, Tree.isWord step.1 = true ∧ mode.same step.1 "not" = true) →
      Text.Parted nots tail → Text.splitFirstWord tail = (word, rest) →
      mode.same word "not" = false →
      (shell.Knows word mode → ∃ name condition, (name, condition) ∈ shell.conditions ∧
        mode.same name word = true ∧
        let looked := shell.setCondition name (lookedAt condition)
        ∀ outcome, Ends (.script (Commands.runIf menu (Text.spaced nots tail))) shell outcome ↔
          outcome = (.ok .normal, if shell.holds condition ≠ decide (nots.length % 2 = 1) then
            { looked with input := shell.input.pushLine rest } else looked)) ∧
      (¬shell.Knows word mode → ∀ outcome,
        Ends (.script (Commands.runIf menu (Text.spaced nots tail))) shell outcome ↔
          outcome = (.error (.ofError (.unknownCondition word)), shell))) ∧
    ∀ id links command line asked,
      (shell.tree.node id).action? = some (Commands.runIf menu) → links ≠ [] →
      (∀ link ∈ links, Link.Fits link shell menu id) →
      Text.Parted (links.flatMap Link.steps) command → Text.isBlank command = false →
      shell.next = (.line line, asked) →
      Text.trim line = Text.trim (Text.spaced (links.flatMap Link.steps) command) →
      ∃ later, Decided menu id asked links command later ∧
        ∀ outcome, Ends (.loop menu) shell outcome ↔ Ends (.loop menu) later outcome := by
  intro mode
  refine ⟨?_, ?_⟩
  · intro nots tail word rest turns parted split stays
    have asks := Commands.asks_of_spaced turns parted split stays rfl
    exact ⟨fun knows => knows.runIf asks rfl, fun unknown outcome => ends_runIf_unknown asks unknown⟩
  · intro id links command line asked known present fits parted filled next typed
    obtain ⟨_, gathered⟩ := gathers_next menu next
    have tree := gathered.same.tree_eq
    have conditions : asked.conditions = shell.conditions := by rw [gathered.same]
    obtain ⟨later, decided, goes⟩ := chain_decides present
      (fun link member => (fits link member).of_same tree (by rw [conditions])) (tree ▸ known) parted
      filled ((Text.trim_trim line).trans typed)
    refine ⟨later, decided, fun outcome => ?_⟩
    rw [ends_loop_line menu next, goes]

theorem if_runs_line_of_held_conditions_of_two_links :
    let tree : Tree (Action Unit) :=
      (Tree.empty .insensitive).applyAll
        [.add 0 ((Node.leaf "if" (Commands.runIf 0)).withHelp Commands.ifHelp)]
    let queued : InputStack := { frames := [.lines ["echo b"]] }
    let shell : Shell Unit :=
      { tree, input := queued.pushLine "if not false  IF once echo a ", procedures := {},
        conditions := [("false", .constant false), ("once", .firstTimes 1)], prompts := {},
        settings := {}, records := .empty, notebooks := [], transcript := #[], host := () }
    Ends (.script (Commands.runIf 0 "NOT once echo a")) shell
        (.ok .normal, shell.setCondition "once" (.firstTimes 0)) ∧
      Ends (.script (Commands.runIf 0 "not  never echo a")) shell
        (.error (.ofError (.unknownCondition "never")), shell) ∧
      ∃ later taken, (∀ outcome, Ends (.loop 0) shell outcome ↔ Ends (.loop 0) later outcome) ∧
        later.next = (.line "echo a", taken) ∧ taken.input.AnswersAs queued := by
  intro tree queued shell
  have mode : shell.tree.comparison 0 = .insensitive := by decide
  obtain ⟨single, chains⟩ := if_runs_line_of_held_conditions shell 0
  have knows (word : String) (known : word = "false" ∨ word = "once") :
      shell.Knows word .insensitive := by
    rcases known with rfl | rfl
    · exact ⟨"false", List.mem_cons_self, by decide +kernel⟩
    · exact ⟨"once", List.mem_cons_of_mem _ List.mem_cons_self, by decide +kernel⟩
  have unknown : ¬shell.Knows "never" .insensitive := by
    rintro ⟨name, member, same⟩
    rcases List.mem_pair.mp member with rfl | rfl
    · exact absurd same (by decide +kernel)
    · exact absurd same (by decide +kernel)
  rw [mode] at single
  refine ⟨?_, ?_, ?_⟩
  · obtain ⟨name, condition, member, same, ends⟩ := (single [("NOT", " ")] "once echo a" "once" "echo a"
      (by decide +kernel) ⟨by decide, by simp, trivial⟩ (by decide) (by decide +kernel)).1
      (knows "once" (.inr rfl))
    rcases List.mem_pair.mp member with entry | entry
    · obtain ⟨rfl, rfl⟩ := Prod.mk.inj entry
      exact absurd same (by decide +kernel)
    · obtain ⟨rfl, rfl⟩ := Prod.mk.inj entry
      exact (ends _).mpr rfl
  · exact ((single [("not", "  ")] "never echo a" "never" "echo a" (by decide +kernel)
      ⟨by decide, by simp, trivial⟩ (by decide) (by decide +kernel)).2 unknown _).mpr rfl
  · have known : (tree.node 1).action? = some (Commands.runIf 0) :=
      congrArg Node.action? (Tree.node_modify_self (by decide) _)
    have fits : ∀ link ∈ [Link.mk ("if", " ") [("not", " ")] ("false", "  "),
        Link.mk ("IF", " ") [] ("once", " ")], link.Fits shell 0 1 := by
      intro link member
      rcases List.mem_pair.mp member with rfl | rfl
      · exact ⟨by decide, by decide +kernel, by decide +kernel, by decide +kernel, knows _ (.inl rfl)⟩
      · exact ⟨by decide, by decide +kernel, by decide +kernel, by decide +kernel, knows _ (.inr rfl)⟩
    have parted : Text.Parted ([Link.mk ("if", " ") [("not", " ")] ("false", "  "),
        Link.mk ("IF", " ") [] ("once", " ")].flatMap Link.steps) "echo a " := by
      simp only [List.flatMap_cons, List.flatMap_nil, Link.steps, List.cons_append, List.nil_append,
        Text.Parted]
      decide
    obtain ⟨later, decided, goes⟩ := chains 1 _ "echo a " _ _ known (List.cons_ne_nil _ _) fits parted
      (by decide) (next_of_pushed (by decide) rfl) (by decide)
    have trimmed : Text.trim "echo a " = "echo a" := by decide
    have next := decided.next
    rw [if_pos (by decide +kernel), trimmed] at next
    obtain ⟨taken, next, alike⟩ := next
    exact ⟨later, taken, goes, next, fun prompt? => (alike prompt?).trans rfl⟩

end Shell

end MenuShell

import MenuShell.Proofs.Shell.Chains
import MenuShell.Proofs.Shell.Samples

/-!
The command `repeat`. It puts the rest of its line in front of the input twice, so that several of them
unfold as a binary tree over what lies below: the command at the end is dispatched twice as often with
every further `repeat`, and then the input is as it was.
-/

namespace MenuShell

namespace InputStack

def under (input : InputStack) (queued : List (List String)) : InputStack :=
  { input with frames := queued.map Frame.lines ++ input.frames }

theorem answersAs_under (input : InputStack) (spent : Nat) (queued : List (List String)) :
    (input.under (List.replicate spent [] ++ queued)).AnswersAs (input.under queued) := by
  induction spent with
  | zero => exact fun _ => rfl
  | succ spent ih => exact fun prompt? => ih prompt?

end InputStack

namespace Shell

variable {Host : Type} {shell start asked after middle later final : Shell Host} {menu : NodeId}
  {line command : String} {lines others : List String} {steps : List (String × String)}
  {queued : List (List String)} {spent : Nat}

/-- The loop reads these lines, and each one is dispatched and done before the next is read. -/
inductive Dispatches (menu : NodeId) : Shell Host → List String → Shell Host → Prop
  | nothing (shell : Shell Host) : Dispatches menu shell [] shell
  | line {shell asked after final : Shell Host} {line : String} {others : List String} :
      shell.next = (.line line, asked) →
      Ends (.visit (.dispatch menu (Text.trim line))) asked (.ok .normal, after) →
      Dispatches menu after others final → Dispatches menu shell (Text.trim line :: others) final

theorem Dispatches.trans (first : Dispatches menu shell lines middle)
    (second : Dispatches menu middle others final) :
    Dispatches menu shell (lines ++ others) final := by
  induction first with
  | nothing => exact second
  | line next dispatched _ ih => exact .line next dispatched (ih second)

theorem Dispatches.ends_loop (dispatches : Dispatches menu shell lines final) (outcome : Outcome Host) :
    Ends (.loop menu) shell outcome ↔ Ends (.loop menu) final outcome := by
  induction dispatches with
  | nothing => rfl
  | line next dispatched _ ih =>
      rw [ends_loop_line menu next, ← ih]
      exact dispatched.exists_and_iff

theorem next_of_answersAs {input : InputStack} (alike : shell.input.AnswersAs input) :
    shell.next = Shell.next { shell with input } := by
  have answered := alike shell.prompts.current?
  unfold next query
  rw [answered]
  rfl

theorem next_of_queued {input : InputStack} (filled : Text.isBlank line = false)
    (front : shell.input = input.under (List.replicate spent [] ++ [line] :: queued)) :
    shell.next = (.line line, { shell with input := input.under ([] :: queued) }) := by
  have alike : shell.input.AnswersAs ((input.under queued).pushLine line) := by
    rw [front]
    exact input.answersAs_under spent ([line] :: queued)
  rw [next_of_answersAs alike, next_of_pushed filled rfl]
  rfl

/-- Shells that come about from the first one while the line is dispatched in the menu now and then and
other lines lie in front of the input. -/
inductive Amid (menu : NodeId) (line : String) (start : Shell Host) : Shell Host → Prop
  | here : Amid menu line start start
  | queued {shell later : Shell Host} (lines : List (List String)) : Amid menu line start shell →
      SameButInput later shell → later.input = start.input.under lines → Amid menu line start later
  | dispatched {shell later : Shell Host} : Amid menu line start shell →
      Ends (.visit (.dispatch menu line)) shell (.ok .normal, later) → Amid menu line start later

def Undemanding (start : Shell Host) (menu : NodeId) (line : String) : Prop :=
  ∀ shell, Amid menu line start shell → ∃ after,
    Ends (.visit (.dispatch menu line)) shell (.ok .normal, after) ∧
      after.input = shell.input ∧ after.tree = shell.tree

theorem undemanding_of_tree (works : ∀ shell : Shell Host, shell.tree = start.tree → ∃ after,
    Ends (.visit (.dispatch menu line)) shell (.ok .normal, after) ∧
      after.input = shell.input ∧ after.tree = shell.tree) :
    start.Undemanding menu line := by
  intro shell amid
  refine works shell ?_
  induction amid with
  | here => rfl
  | queued _ _ same _ ih => exact (congrArg Shell.tree same).trans ih
  | dispatched _ dispatched ih =>
      obtain ⟨after, again, -, kept⟩ := works _ ih
      rw [(Prod.mk.inj (dispatched.unique again)).2, kept, ih]

/-- What is dispatched one after the other on behalf of a line of such steps and a command: the line
itself, and then, behind a step, twice all that comes of the rest. -/
def unfolded (command : String) : List (String × String) → List String
  | [] => [Text.trim command]
  | step :: steps =>
    Text.trim (Text.spaced (step :: steps) command) :: (unfolded command steps ++ unfolded command steps)

theorem unfolded_eq_cons (command : String) (steps : List (String × String)) :
    unfolded command steps =
      Text.trim (Text.spaced steps command) :: (unfolded command steps).tail := by
  cases steps <;> rfl

theorem count_unfolded (solid : ∀ step ∈ steps, Tree.isWord step.1 = true)
    (parted : Text.Parted steps command) :
    (unfolded command steps).count (Text.trim command) = 2 ^ steps.length := by
  induction steps with
  | nil => simp [unfolded]
  | cons step steps ih =>
      have half := ih (fun step member => solid step (List.mem_cons_of_mem _ member)) parted.2.2
      have longer : Text.trim (Text.spaced (step :: steps) command) ≠ Text.trim command := by
        intro same
        have words := congrArg Text.words same
        rw [Text.words_trim, Text.words_trim, Text.words_spaced solid parted] at words
        have lengths := congrArg List.length words
        rw [List.length_append, List.length_map, List.length_cons] at lengths
        omega
      rw [unfolded, List.count_cons_of_ne longer, List.count_append, half, List.length_cons]
      omega

theorem dispatch_repeat {step : String × String}
    (knows : asked.tree.Knows menu step.1 Commands.runRepeat) (isWord : Tree.isWord step.1 = true)
    (parted : Text.Parted (step :: steps) command) (input : asked.input = start.input.under queued) :
    let rest := Text.trim (Text.spaced steps command)
    ∃ after, Ends (.visit (.dispatch menu (Text.trim (Text.spaced (step :: steps) command)))) asked
        (.ok .normal, after) ∧ SameButInput after asked ∧
      after.input = start.input.under ([rest] :: [rest] :: queued) := by
  intro rest
  obtain ⟨id, acts, routes⟩ := knows
  have split := Text.splitFirstWord_spaced isWord parted
  rw [← Text.splitFirstWord_trim] at split
  have leads := Leads.dispatch (routes _ _ split)
  let begun := (asked.note (.dispatched menu (Text.trim (Text.spaced (step :: steps) command)))).note
    (.acted id rest)
  let pushed : Shell Host :=
    { begun with input := (begun.input.pushLines [rest]).pushLines [rest] }
  have ends : Ends (.script (Commands.runRepeat rest)) begun (.ok .normal, pushed) := by
    rw [Commands.runRepeat, Script.andThen, ends_ask rfl, ends_andThen_done]
    rfl
  have stacked : pushed.input = (asked.input.pushLines [rest]).pushLines [rest] := rfl
  refine ⟨pushed, leads.ends_of_script acts ends, rfl, ?_⟩
  rw [stacked, input]
  rfl

theorem repeats (undemanding : start.Undemanding menu (Text.trim command))
    (knows : ∀ step ∈ steps, Tree.isWord step.1 = true ∧
      start.tree.Knows menu step.1 Commands.runRepeat)
    (parted : Text.Parted steps command) (filled : Text.isBlank command = false)
    (amid : Amid menu (Text.trim command) start asked) (tree : asked.tree = start.tree)
    (input : asked.input = start.input.under queued) :
    ∃ after final,
      Ends (.visit (.dispatch menu (Text.trim (Text.spaced steps command)))) asked (.ok .normal, after) ∧
      Dispatches menu after (unfolded command steps).tail final ∧
      Amid menu (Text.trim command) start final ∧ final.tree = start.tree ∧
      final.input = start.input.under (List.replicate steps.length [] ++ queued) := by
  -- By induction on the steps, over whatever lies below: the rest is done twice, the second time
  -- with the first one's empty frames out of the way.
  induction steps generalizing asked queued with
  | nil =>
      obtain ⟨after, dispatched, untouched, kept⟩ := undemanding asked amid
      exact ⟨after, after, dispatched, .nothing after, amid.dispatched dispatched, kept.trans tree,
        untouched.trans input⟩
  | cons step steps ih =>
      have solid := knows step List.mem_cons_self
      have others : ∀ step ∈ steps, Tree.isWord step.1 = true ∧
          start.tree.Knows menu step.1 Commands.runRepeat :=
        fun step member => knows step (List.mem_cons_of_mem _ member)
      let rest := Text.trim (Text.spaced steps command)
      have shown : Text.isBlank rest = false := by
        rw [Text.isBlank_trim, Text.isBlank_spaced filled]
      -- One copy of the rest, which lies in front, is read and done.
      have half {shell : Shell Host} {spent : Nat} {queued : List (List String)}
          (amid : Amid menu (Text.trim command) start shell) (tree : shell.tree = start.tree)
          (front : shell.input = start.input.under (List.replicate spent [] ++ [rest] :: queued)) :
          ∃ final, Dispatches menu shell (unfolded command steps) final ∧
            Amid menu (Text.trim command) start final ∧ final.tree = start.tree ∧
            final.input = start.input.under (List.replicate (steps.length + 1) [] ++ queued) := by
        have next := next_of_queued shown front
        let asked : Shell Host := { shell with input := start.input.under ([] :: queued) }
        have same : SameButInput asked shell := rfl
        obtain ⟨after, final, dispatched, others, later, kept, left⟩ :=
          @ih asked _ others parted.2.2 (amid.queued _ same rfl) tree rfl
        have trimmed : Text.trim rest = rest := Text.trim_trim _
        refine ⟨final, ?_, later, kept, ?_⟩
        · rw [unfolded_eq_cons, ← Text.trim_trim]
          exact .line next (trimmed.symm ▸ dispatched) others
        · rw [left, List.replicate_succ', List.append_assoc]
          rfl
      obtain ⟨after, dispatched, same, stacked⟩ :=
        dispatch_repeat (tree ▸ solid.2) solid.1 parted input
      have kept : after.tree = start.tree := (congrArg Shell.tree same).trans tree
      obtain ⟨middle, first, amidFirst, keptFirst, left⟩ :=
        @half after 0 _ (amid.queued _ same stacked) kept stacked
      obtain ⟨final, second, amidSecond, keptSecond, left⟩ := half amidFirst keptFirst left
      exact ⟨after, final, dispatched, first.trans second, amidSecond, keptSecond, left⟩

/-- The sample commands bring `repeat` into the root menu. When a loop has read any number of words that
lead to it and a command that is done normally and touches neither the input nor the tree, the loop reads
and dispatches in turn what unfolds from the line. The command is among it twice as often with every
word, and then nothing that lay below has been read and the input answers as it did. -/
theorem repeat_doubles_command {Host : Type} :
    (∀ tree grown : Tree (Action Host), tree.Reachable →
      Commands.installSamples.build tree = (.ok (), grown) →
      grown.Knows Tree.root "repeat" Commands.runRepeat) ∧
    ∀ (shell asked : Shell Host) (menu : NodeId) (line command : String)
      (steps : List (String × String)), shell.next = (.line line, asked) →
      Text.trim line = Text.trim (Text.spaced steps command) → Text.Parted steps command →
      (∀ step ∈ steps, Tree.isWord step.1 = true ∧
        asked.tree.Knows menu step.1 Commands.runRepeat) →
      Text.isBlank command = false → asked.Undemanding menu (Text.trim command) →
      ∃ final, Dispatches menu shell (unfolded command steps) final ∧
        (unfolded command steps).count (Text.trim command) = 2 ^ steps.length ∧
        final.tree = asked.tree ∧
        final.input = asked.input.under (List.replicate steps.length []) ∧
        final.input.AnswersAs asked.input ∧
        ∀ outcome, Ends (.loop menu) shell outcome ↔ Ends (.loop menu) final outcome := by
  refine ⟨fun tree grown reachable built => (Tree.installSamples_ok reachable built).2.1, ?_⟩
  intro shell asked menu line command steps next typed parted knows filled undemanding
  obtain ⟨after, final, dispatched, others, -, kept, left⟩ :=
    @repeats _ _ asked _ _ _ [] undemanding knows parted filled .here rfl rfl
  rw [← typed] at dispatched
  have dispatches : Dispatches menu shell (unfolded command steps) final := by
    rw [unfolded_eq_cons, ← typed]
    exact .line next dispatched others
  rw [List.append_nil] at left
  refine ⟨final, dispatches, ?_, kept, left, ?_, dispatches.ends_loop⟩
  · exact count_unfolded (fun step member => (knows step member).1) parted
  · have alike := asked.input.answersAs_under steps.length []
    rwa [List.append_nil, ← left] at alike

theorem repeat_doubles_command_of_echo :
    let installed := Commands.installSamples.build (Tree.empty .insensitive)
    let waiting : InputStack :=
      { frames := [.lines ["later"]], source := .listed [.ok "last"] }
    let shell : Shell Unit :=
      { tree := installed.2, input := waiting.pushLine "repeat repeat\techo a ", procedures := {},
        conditions := [], prompts := {}, settings := {}, records := .empty, notebooks := [],
        transcript := #[], host := () }
    ∃ final, Dispatches 0 shell ["repeat repeat\techo a", "repeat\techo a", "echo a", "echo a",
        "repeat\techo a", "echo a", "echo a"] final ∧
      final.input.AnswersAs waiting ∧
      ∀ outcome, Ends (.loop 0) shell outcome ↔ Ends (.loop 0) final outcome := by
  intro installed waiting shell
  have built : Commands.installSamples.build (Tree.empty .insensitive) = (.ok (), installed.2) := rfl
  obtain ⟨known, doubles⟩ := @repeat_doubles_command Unit
  have repeats := known _ _ ⟨_, .refl⟩ built
  have route : installed.2.dispatchRoute? 0 "echo a" = some (.act 1 "a") := by decide +kernel
  have acts : (installed.2.node 1).action? = some Commands.runEcho := rfl
  let asked : Shell Unit := { shell with input := waiting.pushLines [] }
  have next : shell.next = (.line "repeat repeat\techo a ", asked) :=
    next_of_pushed (by decide) rfl
  clear_value installed
  have undemanding : asked.Undemanding 0 "echo a" := by
    apply undemanding_of_tree
    intro other same
    rw [show asked.tree = installed.2 from rfl] at same
    rw [← same] at route acts
    refine ⟨_, (Leads.dispatch route).ends_of_script acts ((ends_andThen_done _ _ _).mpr rfl), rfl, rfl⟩
  have steps : ∀ step ∈ [("repeat", " "), ("repeat", "\t")], Tree.isWord step.1 = true ∧
      asked.tree.Knows 0 step.1 Commands.runRepeat := by
    intro step member
    rcases List.mem_pair.mp member with rfl | rfl
    · exact ⟨by decide, repeats⟩
    · exact ⟨by decide, repeats⟩
  have parted : Text.Parted [("repeat", " "), ("repeat", "\t")] "echo a " :=
    ⟨by decide, by simp, by decide, by simp, trivial⟩
  obtain ⟨final, dispatches, -, -, -, alike, goes⟩ :=
    doubles shell asked 0 _ "echo a " _ next (by decide) parted steps (by decide) undemanding
  exact ⟨final, dispatches, alike, goes⟩

end Shell

end MenuShell

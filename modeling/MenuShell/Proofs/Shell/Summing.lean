import Mathlib.Data.List.Infix
import MenuShell.Proofs.Shell.Entries
import MenuShell.Proofs.Shell.Gathering

/-!
The adding machine at work. Every line that names none of its commands is a number for the sum or is
complained about, and the first line that leaves the menu, or the end of the input, brings the sum of
exactly these numbers.
-/

namespace MenuShell

namespace InputStack

/-- Queries are answered in turn by these lines and these complaints, which are written out, and then by
a last line or by the end of the input. -/
inductive Feeds : InputStack → List (Except String String) → Option String → InputStack → Prop
  | last {input rest : InputStack} {prompt? last? : Option String} :
      (input.query prompt?).outcome = (.ok last?, rest) → Feeds input [] last? rest
  | line {input middle rest : InputStack} {prompt? last? : Option String} {line : String}
      {others : List (Except String String)} :
      (input.query prompt?).outcome = (.ok (some line), middle) → Feeds middle others last? rest →
      Feeds input (.ok line :: others) last? rest
  | complaint {input middle rest : InputStack} {prompt? last? : Option String} {failure : Failure}
      {error : MenuError} {others : List (Except String String)} :
      (input.query prompt?).outcome = (.error failure, middle) →
      failure.menuError? = some error → error.isUserError = true → Feeds middle others last? rest →
      Feeds input (.error (error.message ++ "\n") :: others) last? rest

end InputStack

namespace Shell

variable {Host : Type} {shell started asked middle later final : Shell Host} {visit : Visit}
  {menu help quit stop sink id : NodeId} {line : String} {rest : InputStack} {signal : Signal}
  {said more noted also : List String}

/-- Beyond what is left to read nothing has changed but the menu's notebook, which these lines have been
added to, and these texts have been written. -/
structure Jots (menu : NodeId) (shell later : Shell Host) (said noted : List String) : Prop where
  same : SameButReading later shell
  texts : later.texts = shell.texts ++ said
  notes : later.notes menu = shell.notes menu ++ noted

theorem Jots.trans (first : Jots menu shell middle said noted) (second : Jots menu middle later more also) :
    Jots menu shell later (said ++ more) (noted ++ also) where
  same := second.same.trans first.same
  texts := by rw [second.texts, first.texts, List.append_assoc]
  notes := by rw [second.notes, first.notes, List.append_assoc]

theorem StepsTo.jots (walked : StepsTo shell later) (menu : NodeId) : Jots menu shell later [] [] where
  same := by rw [SameButReading, walked.same]
  texts := walked.texts_eq.trans (List.append_nil _).symm
  notes := (walked.notes_eq menu).trans (List.append_nil _).symm

theorem jots_write (menu : NodeId) (shell : Shell Host) (text : String) :
    Jots menu shell (shell.write text) [text] [] where
  same := rfl
  texts := texts_write shell text
  notes := (List.append_nil _).symm

theorem jots_note (menu : NodeId) (shell : Shell Host) (line : String) :
    Jots menu shell (shell.setNotes menu (shell.notes menu ++ [line])) [] [line] where
  same := rfl
  texts := (List.append_nil _).symm
  notes := notes_setNotes _ _ _

theorem Leads.jots {action : Action Host} (leads : Leads shell visit (.act id line) started)
    (known : (shell.tree.node id).action? = some action)
    (ends : Ends (.script (action line)) (started.note (.acted id line)) (.ok signal, later))
    (jots : Jots menu (started.note (.acted id line)) later said noted)
    (kept : later.input = (started.note (.acted id line)).input) :
    Ends (.visit visit) shell (.ok signal, later) ∧ later.input = shell.input ∧
      Jots menu shell later said noted := by
  exact ⟨leads.ends_of_script known ends, kept.trans leads.acts.input_eq,
    (leads.acts.jots menu).trans jots⟩

theorem Leads.writes {action : Action Host} {text : String}
    (leads : Leads shell visit (.act id line) started)
    (known : (shell.tree.node id).action? = some action)
    (asks : action line = .andThen (.write text) (.done .normal)) (menu : NodeId) :
    ∃ after, Ends (.visit visit) shell (.ok .normal, after) ∧ after.input = shell.input ∧
      Jots menu shell after [text] [] := by
  refine ⟨_, leads.jots known ?_ (jots_write menu _ text) rfl⟩
  rw [asks]
  exact (ends_andThen_done _ _ _).mpr rfl

theorem dispatch_entry (sums : shell.tree.Sums menu help quit stop sink)
    (filled : Text.isBlank line = false) (entry : shell.tree.isEntry menu line = true) :
    ∃ after said noted, Ends (.visit (.dispatch menu (Text.trim line))) shell (.ok .normal, after) ∧
      after.input = shell.input ∧ Jots menu shell after said noted ∧
      shell.tree.Replies menu (.ok line) said ∧
      noted.filterMap Number.word? = shell.tree.numbers menu [.ok line] := by
  have typed : Text.isBlank (Text.trim line) = false := (Text.isBlank_trim line).trans filled
  have leads := Leads.dispatch
    (sums.route_entry typed ((shell.tree.isEntry_trim menu line).trans entry))
  cases number : Number.word? (Text.trim line) with
  | some value =>
      let begun := (shell.note (.dispatched menu (Text.trim line))).note (.acted sink (Text.trim line))
      have noted : Ends (.script (Commands.runNumber menu (Text.trim line))) begun
          (.ok .normal, begun.setNotes menu (begun.notes menu ++ [Text.trim line])) := by
        simp only [Commands.runNumber, number]
        exact (ends_andThen_done _ _ _).mpr rfl
      obtain ⟨ends, input, jots⟩ := leads.jots sums.counts noted (jots_note menu _ _) rfl
      refine ⟨_, [], [Text.trim line], ends, input, jots, .number entry number, ?_⟩
      simp [Tree.numbers, Except.toOption, entry, number]
  | none =>
      have asks : (Commands.runNumber menu : Action Host) (Text.trim line) =
          .andThen (.write (Text.trim line ++ " is not a valid number." ++ "\n")) (.done .normal) := by
        simp only [Commands.runNumber, number]
        rfl
      obtain ⟨after, ends, input, jots⟩ := leads.writes sums.counts asks menu
      refine ⟨after, _, [], ends, input, jots, ?_, ?_⟩
      · rw [String.append_assoc]
        exact .other entry number
      · simp [Tree.numbers, Except.toOption, entry, number]

theorem dispatch_command (sums : shell.tree.Sums menu help quit stop sink)
    (filled : Text.isBlank line = false)
    (starts : shell.tree.Starts (shell.tree.comparison menu) menu (Text.splitFirstWord line).1 id)
    (stays : ¬Text.Closes (shell.tree.comparison menu) line) :
    ∃ after text, Ends (.visit (.dispatch menu (Text.trim line))) shell (.ok .normal, after) ∧
      after.input = shell.input ∧ Jots menu shell after [text] [] := by
  have typed : Text.isBlank (Text.trim line) = false := (Text.isBlank_trim line).trans filled
  rw [Text.Closes, ← Text.splitFirstWord_trim] at stays
  rw [← Text.splitFirstWord_trim] at starts
  have route (acts : (shell.tree.node id).action?.isSome) :=
    Leads.dispatch (sums.route_named typed starts acts)
  have known : id ∈ [help, quit, stop] := sums.named ▸ starts.1
  simp only [List.mem_cons, List.not_mem_nil, or_false] at known
  rcases known with rfl | rfl | rfl
  · have acts := sums.helps.trans (Commands.action_helpNode menu)
    have leads := route (by simp [acts])
    cases parsed : Commands.helpSpec.parse (Text.words (Text.splitFirstWord (Text.trim line)).2) with
    | ok arguments =>
        let page := shell.tree.help menu (" ".intercalate arguments.positionals)
        refine ⟨_, page, leads.jots acts ?_ (jots_write menu _ page) rfl⟩
        rw [Script.withArguments, parsed]
        exact (ends_andThen_done _ _ _).mpr rfl
    | error refusal =>
        obtain ⟨after, done⟩ := leads.writes acts (by rw [Script.withArguments, parsed]; rfl) menu
        exact ⟨after, _, done⟩
  · have acts : (shell.tree.node id).action? =
        some (Script.withArguments Commands.quitSpec fun _ => .done .quit) := sums.quits
    have leads := route (by simp [acts])
    cases parsed : Commands.quitSpec.parse (Text.words (Text.splitFirstWord (Text.trim line)).2) with
    | ok arguments =>
        have bare := (@ArgumentSpec.parse_isOk_iff Commands.quitSpec _ rfl rfl).mp ⟨_, parsed⟩
        have begins : (shell.tree.comparison menu).begins "quit"
            (Text.splitFirstWord (Text.trim line)).1 = true := by
          simpa [Tree.selector, sums.quitWord] using starts.2
        exact absurd (.inr ⟨begins, bare⟩) stays
    | error refusal =>
        obtain ⟨after, done⟩ := leads.writes acts (by rw [Script.withArguments, parsed]; rfl) menu
        exact ⟨after, _, done⟩
  · have begins : (shell.tree.comparison menu).begins "="
        (Text.splitFirstWord (Text.trim line)).1 = true := by
      simpa [Tree.selector, sums.stopWord] using starts.2
    exact absurd (.inl begins) stays

theorem dispatch_closing (sums : shell.tree.Sums menu help quit stop sink)
    (filled : Text.isBlank line = false) (closes : Text.Closes (shell.tree.comparison menu) line) :
    ∃ after, Ends (.visit (.dispatch menu (Text.trim line))) shell (.ok .quit, after) ∧
      after.input = shell.input ∧ Jots menu shell after [] [] := by
  have typed : Text.isBlank (Text.trim line) = false := (Text.isBlank_trim line).trans filled
  have nothing (shell : Shell Host) : Jots menu shell shell [] [] := (StepsTo.refl shell).jots menu
  rw [Text.Closes, ← Text.splitFirstWord_trim] at closes
  rcases closes with begins | ⟨begins, bare⟩
  · have leads := Leads.dispatch (sums.route_named typed (sums.starts_stop begins) (by simp [sums.stops]))
    exact ⟨_, leads.jots sums.stops ((ends_done _).mpr rfl) (nothing _) rfl⟩
  · have acts : (shell.tree.node quit).action? =
        some (Script.withArguments Commands.quitSpec fun _ => .done .quit) := sums.quits
    have leads := Leads.dispatch (sums.route_named typed (sums.starts_quit begins) (by simp [acts]))
    obtain ⟨arguments, parsed⟩ := (@ArgumentSpec.parse_isOk_iff Commands.quitSpec _ rfl rfl).mpr bare
    refine ⟨_, leads.jots acts ?_ (nothing _) rfl⟩
    rw [Script.withArguments, parsed]
    exact (ends_done _).mpr rfl

/-! ### The loop -/

theorem jots_next {prompt? line? : Option String} (menu : NodeId)
    (given : (shell.input.query prompt?).outcome = (.ok line?, rest)) :
    ∃ asked, shell.next = (line?.elim .ended .line, asked) ∧ asked.input = rest ∧
      Jots menu shell asked [] [] := by
  rw [shell.input.outcome_query prompt? shell.prompts.current?] at given
  have ⟨result, left⟩ := Prod.mk.inj given
  have next : shell.next = (line?.elim .ended .line, (shell.query shell.prompts.current?).2) := by
    simp only [Shell.next, query, receive, result]
    cases line? <;> rfl
  have silent : (shell.input.query shell.prompts.current?).complaint? = none := by
    simp only [Answered.complaint?, result]
  have texts := texts_next next
  rw [silent] at texts
  exact ⟨_, next, left, rfl, texts, (List.append_nil _).symm⟩

theorem jots_complaint {prompt? : Option String} {failure : Failure} {error : MenuError} (menu : NodeId)
    (given : (shell.input.query prompt?).outcome = (.error failure, rest))
    (known : failure.menuError? = some error) (user : error.isUserError = true) :
    ∃ asked, shell.next = (.again, asked) ∧ asked.input = rest ∧
      Jots menu shell asked [error.message ++ "\n"] [] := by
  obtain ⟨asked, next, left, same, notebooks⟩ := next_of_complaint given known user
  rw [shell.input.outcome_query prompt? shell.prompts.current?] at given
  have result := (Prod.mk.inj given).1
  have spoken : (shell.input.query shell.prompts.current?).complaint? = some (error.message ++ "\n") := by
    simp only [Answered.complaint?, result, known, user, if_true]
  have texts := texts_next next
  rw [spoken] at texts
  exact ⟨asked, next, left, same, texts, by rw [notes, notebooks, ← notes, List.append_nil]⟩

theorem visible_of_given {prompt? : Option String}
    (given : (shell.input.query prompt?).outcome = (.ok (some line), rest)) :
    Text.isBlank line = false :=
  InputStack.query_visible (Prod.mk.inj given).1

theorem dispatch_staying (sums : shell.tree.Sums menu help quit stop sink)
    (filled : Text.isBlank line = false) (stays : ¬Text.Closes (shell.tree.comparison menu) line) :
    ∃ after said noted, Ends (.visit (.dispatch menu (Text.trim line))) shell (.ok .normal, after) ∧
      after.input = shell.input ∧ Jots menu shell after said noted ∧
      shell.tree.Replies menu (.ok line) said ∧
      noted.filterMap Number.word? = shell.tree.numbers menu [.ok line] := by
  cases entry : shell.tree.isEntry menu line with
  | true => exact dispatch_entry sums filled entry
  | false =>
      have named : ∃ id,
          shell.tree.Starts (shell.tree.comparison menu) menu (Text.splitFirstWord line).1 id := by
        by_contra none
        rw [(sums.isEntry_iff filled).mpr (not_exists.mp none)] at entry
        contradiction
      obtain ⟨id, starts⟩ := named
      obtain ⟨after, text, ends, input, jots⟩ := dispatch_command sums filled starts stays
      refine ⟨after, [text], [], ends, input, jots, .command entry, ?_⟩
      simp [Tree.numbers, Except.toOption, entry]

theorem loop_sums {heard : List (Except String String)} {last? : Option String}
    (sums : shell.tree.Sums menu help quit stop sink) (feeds : shell.input.Feeds heard last? rest)
    (stays : ∀ line, .ok line ∈ heard → ¬Text.Closes (shell.tree.comparison menu) line)
    (closes : ∀ last ∈ last?, Text.Closes (shell.tree.comparison menu) last) :
    ∃ after pages noted, Ends (.loop menu) shell (.ok .normal, after) ∧ after.input = rest ∧
      List.Forall₂ (shell.tree.Replies menu) heard pages ∧ Jots menu shell after pages.flatten noted ∧
      noted.filterMap Number.word? = shell.tree.numbers menu heard := by
  -- By induction on what the input gives: the loop takes it all, up to the line that leaves the
  -- menu or the end of the input.
  generalize start : shell.input = input at feeds
  induction feeds generalizing shell with
  | @last input rest prompt? last? given =>
      rw [← start] at given
      obtain ⟨asked, next, left, jots⟩ := jots_next menu given
      have nothing : [] = shell.tree.numbers menu [] := rfl
      cases last? with
      | none =>
          have ended : Ends (.loop menu) shell (.ok .normal, asked) := (ends_loop_ended menu next).mpr rfl
          exact ⟨asked, [], [], ended, left, .nil, jots, nothing⟩
      | some last =>
          have closing := closes last rfl
          rw [← jots.same.tree_eq] at sums closing
          obtain ⟨after, dispatched, input, leaving⟩ :=
            dispatch_closing sums (visible_of_given given) closing
          have ended : Ends (.loop menu) shell (.ok .normal, after) :=
            (ends_loop_line menu next).mpr ⟨_, dispatched, rfl⟩
          exact ⟨after, [], [], ended, input.trans left, .nil, jots.trans leaving, nothing⟩
  | @line input middle rest prompt? last? line others given _ ih =>
      rw [← start] at given
      obtain ⟨asked, next, left, reads⟩ := jots_next menu given
      have tree := reads.same.tree_eq
      have staying := stays line List.mem_cons_self
      rw [← tree] at sums staying
      obtain ⟨done, said, noted, dispatched, input, works, replied, counted⟩ :=
        dispatch_staying sums (visible_of_given given) staying
      have jots := reads.trans works
      have kept := jots.same.tree_eq
      rw [tree, ← kept] at sums
      obtain ⟨after, pages, more, loop, afterInput, others, later, summed⟩ := ih sums
        (fun line member => kept ▸ stays line (List.mem_cons_of_mem _ member))
        (fun last member => kept ▸ closes last member) (input.trans left)
      rw [tree] at replied counted
      rw [kept] at others summed
      have whole : Ends (.loop menu) shell (.ok .normal, after) :=
        (ends_loop_line menu next).mpr ⟨_, dispatched, loop⟩
      refine ⟨after, said :: pages, noted ++ more, whole, afterInput, .cons replied others,
        jots.trans later, ?_⟩
      rw [List.filterMap_append, counted, summed]
      exact (shell.tree.numbers_append menu [.ok line] _).symm
  | @complaint input middle rest prompt? last? failure error others given known user _ ih =>
      rw [← start] at given
      obtain ⟨asked, next, left, reads⟩ := jots_complaint menu given known user
      have kept := reads.same.tree_eq
      rw [← kept] at sums
      obtain ⟨after, pages, noted, loop, afterInput, others, later, summed⟩ := ih sums
        (fun line member => kept ▸ stays line (List.mem_cons_of_mem _ member))
        (fun last member => kept ▸ closes last member) left
      rw [kept] at others summed
      have whole : Ends (.loop menu) shell (.ok .normal, after) :=
        (ends_loop_again menu next).mpr loop
      exact ⟨after, [error.message ++ "\n"] :: pages, noted, whole, afterInput,
        .cons (.complaint _) others, reads.trans later, summed⟩

def addGreeting : List String :=
  ["You're now in submenu <Add>.\n",
    "Enter numbers. To print their sum and exit the submenu, enter \"=\".\n"]

def greeted (shell : Shell Host) (menu : NodeId) : Shell Host :=
  (addGreeting.foldl Shell.write shell).setNotes menu []

theorem tree_greeted (shell : Shell Host) (menu : NodeId) : (shell.greeted menu).tree = shell.tree :=
  rfl

theorem input_greeted (shell : Shell Host) (menu : NodeId) : (shell.greeted menu).input = shell.input :=
  rfl

theorem texts_greeted (shell : Shell Host) (menu : NodeId) :
    (shell.greeted menu).texts = shell.texts ++ addGreeting := by
  have written : (shell.greeted menu).texts = (addGreeting.foldl Shell.write shell).texts := rfl
  rw [written, addGreeting, List.foldl_cons, List.foldl_cons, List.foldl_nil, texts_write, texts_write,
    List.append_assoc]
  rfl

theorem ends_runAdd {outcome : Outcome Host}
    (visited : Ends (.visit (.menu menu)) (shell.greeted menu) (.ok signal, later)) :
    Ends (.script (Commands.runAdd menu line)) shell outcome ↔
      outcome = (.ok .normal,
        later.write ("Sum = " ++ toString (Commands.sumOf (later.notes menu)) ++ "\n")) := by
  rw [Commands.runAdd, Script.say, Script.andThen, ends_ask rfl, Script.say, Script.andThen,
    ends_ask rfl, Script.andThen, ends_ask rfl]
  refine (ends_enter_ok visited).trans ?_
  rw [ends_ask rfl, Script.say, ends_andThen_done]
  rfl

theorem add_sums {heard : List (Except String String)} {last? : Option String}
    (leads : Leads shell visit (.act menu line) started)
    (sums : shell.tree.Sums menu help quit stop sink) (feeds : shell.input.Feeds heard last? rest)
    (stays : ∀ line, .ok line ∈ heard → ¬Text.Closes (shell.tree.comparison menu) line)
    (closes : ∀ last ∈ last?, Text.Closes (shell.tree.comparison menu) last)
    (fits : ∀ before ∈ (shell.tree.numbers menu heard).inits,
      -2 ^ 63 ≤ before.sum ∧ before.sum < 2 ^ 63) :
    ∃ after pages, Ends (.visit visit) shell (.ok .normal, after) ∧ after.input = rest ∧
      SameButReading after shell ∧ List.Forall₂ (shell.tree.Replies menu) heard pages ∧
      after.texts = shell.texts ++ addGreeting ++ pages.flatten ++
        ["Sum = " ++ toString (shell.tree.numbers menu heard).sum ++ "\n"] := by
  let begun := started.note (.acted menu line)
  let entered := (begun.greeted menu).enterLoop menu
  have before := leads.acts.jots menu
  have tree : entered.tree = shell.tree := (tree_greeted begun menu).trans before.same.tree_eq
  have input : entered.input = shell.input := (input_greeted begun menu).trans leads.acts.input_eq
  rw [← tree] at sums
  rw [← input] at feeds
  obtain ⟨final, pages, noted, loop, left, replied, jots, counted⟩ := loop_sums sums feeds
    (fun line member => tree ▸ stays line member) (fun last member => tree ▸ closes last member)
  rw [tree] at replied counted
  have visited : Ends (.visit (.menu menu)) (begun.greeted menu) (.ok .normal, final.leaveLoop) :=
    (ends_menu menu).mpr ⟨_, _, loop, rfl⟩
  have acts : (shell.tree.node menu).action? = some (Commands.runAdd menu) := tree ▸ sums.action
  refine ⟨_, pages, leads.ends_of_script acts ((ends_runAdd visited).mpr rfl), left, ?_, replied, ?_⟩
  · have opened : SameButReading (begun.greeted menu) begun := rfl
    have closed (text : String) : SameButReading (final.leaveLoop.write text) final.leaveLoop := rfl
    exact (closed _).trans (jots.same.leaveLoop.trans (opened.trans before.same))
  · have blank : entered.notes menu = [] := notes_setNotes _ _ _
    have numbers : final.leaveLoop.notes menu = noted := jots.notes.trans (by rw [blank, List.nil_append])
    have total : (Commands.sumOf noted).toInt = (shell.tree.numbers menu heard).sum := by
      rw [Commands.sumOf, counted, Number.foldl_ofInt]
      obtain ⟨above, below⟩ := fits _ ((List.mem_inits _ _).mpr List.prefix_rfl)
      exact Int64.toInt_ofInt_of_le above below
    have texts : final.leaveLoop.texts = shell.texts ++ addGreeting ++ pages.flatten := by
      have written : final.leaveLoop.texts = begun.texts ++ addGreeting ++ pages.flatten :=
        jots.texts.trans (congrArg (· ++ _) (texts_greeted begun menu))
      rw [written, before.texts, List.append_nil]
    rw [texts_write, texts, numbers, ← total]
    rfl

/-- The sample commands bring `add` into the root menu and a menu behind it that adds up numbers. In that
menu `=` and `quit` without arguments quit and no other line does, abbreviations included. A visit that
reads any lines, up to one that quits or to the end of the input, brings the exact sum of the numbers
among the lines that name no command, if the sums on the way fit a machine word. Any other such line is
complained about once. The shell may be any, so what earlier visits have left in it makes no difference,
and the visit leaves all but the reading as it was. -/
theorem add_prints_exact_sum {Host : Type} :
    (∀ tree grown : Tree (Action Host), tree.Reachable →
      Commands.installSamples.build tree = (.ok (), grown) →
      ∃ menu help quit stop sink, grown.Sums menu help quit stop sink ∧
        ∀ line rest, Text.splitFirstWord line = ("add", rest) →
          grown.dispatchRoute? Tree.root line = some (.act menu rest)) ∧
    (∀ text value, Number.word? text = some value ↔
      Number.Denotes text value ∧ -2 ^ 63 ≤ value ∧ value < 2 ^ 63) ∧
    ∀ (shell : Shell Host) (menu help quit stop sink : NodeId),
      shell.tree.Sums menu help quit stop sink →
      (∀ line, Text.isBlank line = false →
        (shell.tree.isEntry menu line = true ↔ ∀ name ∈ ["help", "quit", "="],
          (shell.tree.comparison menu).begins name (Text.splitFirstWord line).1 = false) ∧
        ∃ signal after, Ends (.visit (.dispatch menu (Text.trim line))) shell (.ok signal, after) ∧
          (signal = .quit ↔ Text.Closes (shell.tree.comparison menu) line)) ∧
      ∀ (visit : Visit) (started : Shell Host) (line : String) (heard : List (Except String String))
        (last? : Option String) (rest : InputStack),
        Leads shell visit (.act menu line) started → shell.input.Feeds heard last? rest →
        (∀ line, .ok line ∈ heard → ¬Text.Closes (shell.tree.comparison menu) line) →
        (∀ last ∈ last?, Text.Closes (shell.tree.comparison menu) last) →
        (∀ before ∈ (shell.tree.numbers menu heard).inits,
          -2 ^ 63 ≤ before.sum ∧ before.sum < 2 ^ 63) →
        ∃ after pages, Ends (.visit visit) shell (.ok .normal, after) ∧ after.input = rest ∧
          SameButReading after shell ∧ List.Forall₂ (shell.tree.Replies menu) heard pages ∧
          after.texts = shell.texts ++ addGreeting ++ pages.flatten ++
            ["Sum = " ++ toString (shell.tree.numbers menu heard).sum ++ "\n"] := by
  refine ⟨fun tree grown reachable built => (Tree.installSamples_ok reachable built).2.2,
    fun _ _ => Number.word?_eq_some_iff, fun shell menu help quit stop sink sums => ⟨?_, ?_⟩⟩
  · intro line filled
    refine ⟨sums.isEntry_iff_names filled, ?_⟩
    by_cases closes : Text.Closes (shell.tree.comparison menu) line
    · obtain ⟨after, ends, -⟩ := dispatch_closing sums filled closes
      exact ⟨_, after, ends, iff_of_true rfl closes⟩
    · obtain ⟨after, -, -, ends, -⟩ := dispatch_staying sums filled closes
      exact ⟨_, after, ends, iff_of_false (by simp) closes⟩
  · intro visit started line heard last? rest leads feeds stays closes fits
    exact add_sums leads sums feeds stays closes fits

theorem add_prints_exact_sum_of_mixed_lines :
    let installed := Commands.installSamples.build (Tree.empty .insensitive)
    let shell : Shell Unit :=
      { tree := installed.2,
        input := { frames := [.lines ["5", " x y ", "-7", "9223372036854775808", "+12", "q", "later"]] },
        procedures := {}, conditions := [], prompts := {}, settings := {}, records := .empty,
        notebooks := (List.range 100).map fun menu => (menu, ["1000"]), transcript := #[], host := () }
    ∃ after, Ends (.visit (.dispatch 0 "add")) shell (.ok .normal, after) ∧
      after.input = { frames := [.lines ["later"]] } ∧
      after.texts = addGreeting ++ ["x y is not a valid number.\n",
        "9223372036854775808 is not a valid number.\n", "Sum = 10\n"] := by
  intro installed shell
  have built : Commands.installSamples.build (Tree.empty .insensitive) = (.ok (), installed.2) := rfl
  obtain ⟨installs, -, adds⟩ := @add_prints_exact_sum Unit
  obtain ⟨menu, help, quit, stop, sink, sums, routes⟩ := installs _ _ ⟨_, .refl⟩ built
  obtain ⟨lines, visits⟩ := adds shell menu help quit stop sink sums
  have route : installed.2.dispatchRoute? 0 "add" = some (.act menu "") := routes _ _ (by decide)
  have feeds : shell.input.Feeds
      (["5", " x y ", "-7", "9223372036854775808", "+12"].map .ok) (some "q")
      { frames := [.lines ["later"]] } :=
    @InputStack.Feeds.line _ _ _ none _ _ _ rfl <|
      @InputStack.Feeds.line _ _ _ none _ _ _ rfl <|
      @InputStack.Feeds.line _ _ _ none _ _ _ rfl <|
      @InputStack.Feeds.line _ _ _ none _ _ _ rfl <|
      @InputStack.Feeds.line _ _ _ none _ _ _ rfl <|
      @InputStack.Feeds.last _ _ none _ rfl
  clear_value installed
  have plain (mode : Comparison) : Text.Closes mode "q" ∧
      ∀ line ∈ ["5", " x y ", "-7", "9223372036854775808", "+12"], ¬Text.Closes mode line ∧
        Text.isBlank line = false ∧
        ∀ name ∈ ["help", "quit", "="], mode.begins name (Text.splitFirstWord line).1 = false := by
    cases mode <;> decide +kernel
  obtain ⟨closes, stays⟩ := plain (shell.tree.comparison menu)
  have entries : ∀ line ∈ ["5", " x y ", "-7", "9223372036854775808", "+12"],
      shell.tree.isEntry menu line = true := fun line member =>
    (lines line (stays line member).2.1).1.mpr (stays line member).2.2
  have numbers : shell.tree.numbers menu
      (["5", " x y ", "-7", "9223372036854775808", "+12"].map .ok) = [5, -7, 12] :=
    (congrArg (List.filterMap _) (List.filter_eq_self.mpr entries)).trans (by decide +kernel)
  have visited := visits _ _ _ _ _ _ (.dispatch route) feeds
  rw [numbers] at visited
  obtain ⟨after, pages, ends, left, -, replied, texts⟩ :=
    visited (by simpa using fun line member => (stays line member).1) (by simpa using closes) (by decide)
  obtain _ | ⟨five, _ | ⟨text, _ | ⟨seven, _ | ⟨large, _ | ⟨twelve, _ | _⟩⟩⟩⟩⟩ := replied
  refine ⟨after, ends, left, ?_⟩
  rw [texts, five.eq_of_entry (entries _ (by simp)), text.eq_of_entry (entries _ (by simp)),
    seven.eq_of_entry (entries _ (by simp)), large.eq_of_entry (entries _ (by simp)),
    twelve.eq_of_entry (entries _ (by simp)), show shell.texts = [] from rfl]
  decide +kernel

end Shell

end MenuShell

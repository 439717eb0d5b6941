import MenuShell.Commands.Capture
import MenuShell.Proofs.Input.Giving
import MenuShell.Proofs.Shell.Ending
import MenuShell.Proofs.Text.Splitting
import MenuShell.Proofs.Tree.Meaning

/-!
Collecting menus at work. A line whose first word is no beginning of the end keyword goes into the
notebook of the menu as a whole; the first line whose first word is one ends the menu's loop. A loop
takes the lines that its input gives, and a capture hands on those that it has read before its last.
-/

namespace MenuShell

namespace Tree

/-- A menu with an end keyword and an item that takes every other line into its notebook. -/
structure Collects {Host : Type} (tree : Tree (Action Host)) (menu stop sink : NodeId)
    (endWord : String) : Prop where
  named : tree.visibleChildren menu = [stop]
  fallback : tree.visibleDefault? menu = some sink
  keyword : (tree.node stop).selector? = some endWord
  word : isWord endWord = true
  quits : (tree.node stop).action? = some fun _ => .done .quit
  notes : (tree.node sink).action? = some fun line => .andThen (.note menu line) (.done .normal)

theorem routeWithin_of_action {Action : Type} {tree : Tree Action} {id : NodeId}
    (acts : (tree.node id).action?.isSome) (line : String) :
    tree.routeWithin tree.size id line = some (.act id line) := by
  have stored : id < tree.size := by
    apply lt_size_of_ne
    intro blank
    simp [blank] at acts
  obtain ⟨bound, size⟩ := Nat.exists_eq_succ_of_ne_zero (Nat.ne_zero_of_lt stored)
  rw [size, routeWithin, if_pos acts]

namespace Collects

variable {Host : Type} {tree : Tree (Action Host)} {menu stop sink : NodeId} {endWord line : String}

theorem selector_stop (collects : tree.Collects menu stop sink endWord) :
    tree.selector stop = endWord := by
  rw [selector, collects.keyword]
  rfl

theorem resolve_keyword (collects : tree.Collects menu stop sink endWord) {mode : Comparison}
    {word : String} (begins : mode.begins endWord word = true) :
    tree.resolve menu word mode = .ok (.named stop) := by
  rw [resolve_eq_named_iff]
  cases same : mode.same endWord word <;>
    simp [candidates, exactMatches, abbreviated, sortBySelector, sortBy, insertBy, collects.named,
      collects.selector_stop, begins, same]

theorem resolve_data (collects : tree.Collects menu stop sink endWord) {mode : Comparison}
    {word : String} (data : mode.begins endWord word = false) :
    tree.resolve menu word mode = .ok (.fallback sink) := by
  rw [resolve_eq_fallback_iff, candidates_eq_nil_iff]
  refine ⟨?_, collects.fallback⟩
  rintro other ⟨visible, starts⟩
  rw [collects.named, List.mem_singleton] at visible
  rw [visible, collects.selector_stop, data] at starts
  simp at starts

theorem route_keyword (collects : tree.Collects menu stop sink endWord)
    (begins : (tree.comparison menu).begins endWord (Text.splitFirstWord line).1 = true) :
    tree.dispatchRoute? menu line = some (.act stop (Text.splitFirstWord line).2) := by
  simp only [dispatchRoute?, choose, collects.resolve_keyword begins]
  exact routeWithin_of_action (by simp [collects.quits]) _

theorem route_data (collects : tree.Collects menu stop sink endWord)
    (data : (tree.comparison menu).begins endWord (Text.splitFirstWord line).1 = false) :
    tree.dispatchRoute? menu line = some (.act sink line) := by
  simp only [dispatchRoute?, choose, collects.resolve_data data]
  exact routeWithin_of_action (by simp [collects.notes]) _

end Collects

end Tree

namespace Shell

variable {Host : Type} {shell middle later : Shell Host} {menu stop sink : NodeId}
  {endWord line last : String} {lines : List String} {rest : InputStack}

def SameButReading (shell other : Shell Host) : Prop :=
  shell = { other with
    input := shell.input, notebooks := shell.notebooks, transcript := shell.transcript }

theorem SameButReading.trans (second : SameButReading later middle)
    (first : SameButReading middle shell) : SameButReading later shell := by
  rw [SameButReading] at first second ⊢
  rw [second, first]

theorem SameButReading.tree_eq (same : SameButReading later shell) : later.tree = shell.tree := by
  rw [same]

theorem next_of_line {prompt? : Option String}
    (given : (shell.input.query prompt?).outcome = (.ok (some line), rest)) :
    ∃ asked, shell.next = (.line line, asked) ∧ asked.input = rest ∧
      SameButReading asked shell ∧ asked.notebooks = shell.notebooks := by
  rw [shell.input.outcome_query prompt? shell.prompts.current?] at given
  have ⟨result, left⟩ := Prod.mk.inj given
  refine ⟨(shell.query shell.prompts.current?).2, ?_, left, rfl, rfl⟩
  simp only [next, query, receive, result]

theorem next_of_complaint {prompt? : Option String} {failure : Failure} {error : MenuError}
    (given : (shell.input.query prompt?).outcome = (.error failure, rest))
    (known : failure.menuError? = some error) (user : error.isUserError = true) :
    ∃ asked, shell.next = (.again, asked) ∧ asked.input = rest ∧
      SameButReading asked shell ∧ asked.notebooks = shell.notebooks := by
  rw [shell.input.outcome_query prompt? shell.prompts.current?] at given
  have ⟨result, left⟩ := Prod.mk.inj given
  refine ⟨(shell.query shell.prompts.current?).2.report error, ?_, left, rfl, rfl⟩
  simp only [next, query, receive, result, known, user, if_true]

theorem loop_reads (gives : shell.input.Gives (line :: lines) rest) :
    ∃ asked, asked.input.Gives lines rest ∧ SameButReading asked shell ∧
      asked.notebooks = shell.notebooks ∧
      ∀ menu outcome, Ends (.loop menu) shell outcome ↔
        ∃ dispatched, Ends (.visit (.dispatch menu (Text.trim line))) asked dispatched ∧
          Resumes menu dispatched outcome := by
  -- Complaints of the input come first; each is reported and leads to another query.
  generalize start : shell.input = input at gives
  generalize all : line :: lines = given at gives
  induction gives generalizing shell with
  | nothing => simp at all
  | line first others =>
      rw [← start] at first
      obtain ⟨rfl, rfl⟩ := List.cons.inj all
      obtain ⟨asked, next, input, same, notebooks⟩ := next_of_line first
      rw [← input] at others
      exact ⟨asked, others, same, notebooks, fun menu outcome => ends_loop_line menu next⟩
  | complaint first known user _ ih =>
      rw [← start] at first
      obtain ⟨asked, next, input, same, notebooks⟩ := next_of_complaint first known user
      obtain ⟨later, others, laterSame, laterNotebooks, ends⟩ := ih input all
      refine ⟨later, others, laterSame.trans same, laterNotebooks.trans notebooks, ?_⟩
      intro menu outcome
      rw [ends_loop_again menu next, ends]

theorem notes_setNotes (shell : Shell Host) (menu : NodeId) (lines : List String) :
    (shell.setNotes menu lines).notes menu = lines := by
  simp [notes, setNotes]

theorem ends_ask {answer : Answer} {request : Request (Action Host) answer}
    {value : answer.Value} {next : answer.Value → Script Host} {outcome : Outcome Host}
    (served : shell.serve request = (.ok value, later)) :
    Ends (.script (.ask request next)) shell outcome ↔ Ends (.script (next value)) later outcome := by
  rw [Script.ask, ends_perform, served]

theorem ends_enter_ok {stop : Visit} {signal : Signal} {next : Signal → Script Host}
    {outcome : Outcome Host} (visited : Ends (.visit stop) shell (.ok signal, later)) :
    Ends (.script (.enter stop next)) shell outcome ↔
      Ends (.script (next signal)) later outcome := by
  rw [Script.enter, ends_enter]
  constructor
  · rintro ⟨result, after, entered, others⟩
    obtain ⟨rfl, rfl⟩ := Prod.mk.inj (entered.unique visited)
    exact others
  · intro others
    exact ⟨_, _, visited, others⟩

theorem Leads.ends_of_script {visit : Visit} {id : NodeId} {started after : Shell Host}
    {action : Action Host} {signal : Signal} (leads : Leads shell visit (.act id line) started)
    (known : (shell.tree.node id).action? = some action)
    (ends : Ends (.script (action line)) (started.note (.acted id line)) (.ok signal, after)) :
    Ends (.visit visit) shell (.ok signal, after) :=
  (leads.ends_act known).mpr ⟨_, ends, rfl⟩

theorem dispatch_keyword (collects : shell.tree.Collects menu stop sink endWord)
    (begins : (shell.tree.comparison menu).begins endWord (Text.splitFirstWord line).1 = true) :
    ∃ after, Ends (.visit (.dispatch menu line)) shell (.ok .quit, after) ∧
      after.input = shell.input ∧ SameButReading after shell ∧
      after.notebooks = shell.notebooks := by
  have leads := Leads.dispatch (collects.route_keyword begins)
  refine ⟨_, leads.ends_of_script collects.quits ((ends_done _).mpr rfl), rfl, rfl, rfl⟩

theorem dispatch_data (collects : shell.tree.Collects menu stop sink endWord)
    (data : (shell.tree.comparison menu).begins endWord (Text.splitFirstWord line).1 = false) :
    ∃ after, Ends (.visit (.dispatch menu line)) shell (.ok .normal, after) ∧
      after.input = shell.input ∧ SameButReading after shell ∧
      after.notes menu = shell.notes menu ++ [line] := by
  have leads := Leads.dispatch (collects.route_data data)
  let started := (shell.note (.dispatched menu line)).note (.acted sink line)
  have noted : Ends (.script (.andThen (.note menu line) (.done .normal))) started
      (.ok .normal, started.setNotes menu (started.notes menu ++ [line])) := by
    rw [Script.andThen, ends_ask rfl, ends_done]
  exact ⟨_, leads.ends_of_script collects.notes noted, rfl, rfl, notes_setNotes _ _ _⟩

theorem loop_collects (collects : shell.tree.Collects menu stop sink endWord)
    (gives : shell.input.Gives (lines ++ [last]) rest)
    (data : ∀ line ∈ lines,
      (shell.tree.comparison menu).begins endWord (Text.splitFirstWord line).1 = false)
    (ends : (shell.tree.comparison menu).begins endWord (Text.splitFirstWord last).1 = true) :
    ∃ after, Ends (.loop menu) shell (.ok .normal, after) ∧ after.input = rest ∧
      SameButReading after shell ∧
      after.notes menu = shell.notes menu ++ lines.map Text.trim := by
  induction lines generalizing shell with
  | nil =>
      obtain ⟨asked, left, same, notebooks, loop⟩ := loop_reads gives
      rw [← same.tree_eq] at collects ends
      rw [← Text.splitFirstWord_trim] at ends
      obtain ⟨after, dispatched, input, afterSame, afterNotebooks⟩ :=
        dispatch_keyword collects ends
      refine ⟨after, (loop _ _).mpr ⟨_, dispatched, rfl⟩, ?_, afterSame.trans same, ?_⟩
      · rw [input]
        cases left
        rfl
      · simp [notes, afterNotebooks, notebooks]
  | cons line lines ih =>
      obtain ⟨asked, left, same, notebooks, loop⟩ := loop_reads gives
      rw [← same.tree_eq] at collects data ends
      have first := data line List.mem_cons_self
      rw [← Text.splitFirstWord_trim] at first
      obtain ⟨noted, dispatched, input, notedSame, notes⟩ := dispatch_data collects first
      rw [← notedSame.tree_eq] at collects data ends
      rw [← input] at left
      obtain ⟨after, others, afterInput, afterSame, collected⟩ :=
        ih collects left (fun line member => data line (List.mem_cons_of_mem _ member)) ends
      refine ⟨after, (loop _ _).mpr ⟨_, dispatched, others⟩, afterInput,
        afterSame.trans (notedSame.trans same), ?_⟩
      rw [collected, notes, Shell.notes, notebooks, ← Shell.notes, List.append_assoc]
      rfl

theorem ends_captured {signal : Signal} {next : List String → Script Host} {outcome : Outcome Host}
    (captured : Ends (.visit (.menu menu)) (shell.setNotes menu []) (.ok signal, later)) :
    Ends (.script (Commands.capture menu next)) shell outcome ↔
      Ends (.script (next (later.notes menu))) (later.setNotes menu []) outcome := by
  rw [Commands.capture, Script.andThen, ends_ask rfl, ends_enter_ok captured, ends_ask rfl,
    Script.andThen, ends_ask rfl]

theorem ends_capture (collects : shell.tree.Collects menu stop sink endWord)
    (gives : shell.input.Gives (lines ++ [last]) rest)
    (data : ∀ line ∈ lines,
      (shell.tree.comparison menu).begins endWord (Text.splitFirstWord line).1 = false)
    (ends : (shell.tree.comparison menu).begins endWord (Text.splitFirstWord last).1 = true) :
    ∃ after, after.input = rest ∧ SameButReading after shell ∧
      ∀ next outcome, Ends (.script (Commands.capture menu next)) shell outcome ↔
        Ends (.script (next (lines.map Text.trim))) after outcome := by
  let entered := (shell.setNotes menu []).enterLoop menu
  obtain ⟨final, loop, input, same, collected⟩ :
      ∃ final, Ends (.loop menu) entered (.ok .normal, final) ∧ final.input = rest ∧
        SameButReading final entered ∧ final.notes menu = entered.notes menu ++ lines.map Text.trim :=
    loop_collects collects gives data ends
  have blank : entered.notes menu = [] := notes_setNotes _ _ _
  rw [blank, List.nil_append] at collected
  have visited : Ends (.visit (.menu menu)) (shell.setNotes menu []) (.ok .normal, final.leaveLoop) :=
    (ends_menu menu).mpr ⟨_, _, loop, rfl⟩
  refine ⟨final.leaveLoop.setNotes menu [], input, ?_, ?_⟩
  · rw [SameButReading, same]
    rfl
  · intro next outcome
    rw [← collected]
    exact ends_captured visited

end Shell

end MenuShell

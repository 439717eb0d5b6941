import MenuShell.Shell.Bound

/-!
Runs that end, without their bound. A task has at most one outcome, and every kind of task ends as
its parts do: there is one equation for each.
-/

namespace MenuShell

namespace Shell

variable {Host : Type} {shell asked started : Shell Host} {outcome : Outcome Host}

def Ends (task : Task Host) (shell : Shell Host) (outcome : Outcome Host) : Prop :=
  ∃ bound, run bound task shell = some outcome

theorem Ends.unique {task : Task Host} {other : Outcome Host} (ends : Ends task shell outcome)
    (again : Ends task shell other) : outcome = other := by
  obtain ⟨bound, ended⟩ := ends
  obtain ⟨otherBound, otherEnded⟩ := again
  have larger := run_mono ended (Nat.le_max_left bound otherBound)
  have alsoLarger := run_mono otherEnded (Nat.le_max_right bound otherBound)
  exact Option.some.inj (larger.symm.trans alsoLarger)

theorem Ends.exists_and_iff {task : Task Host} {holds : Outcome Host → Prop}
    (ends : Ends task shell outcome) :
    (∃ other, Ends task shell other ∧ holds other) ↔ holds outcome := by
  constructor
  · rintro ⟨other, again, known⟩
    rwa [again.unique ends] at known
  · intro known
    exact ⟨outcome, ends, known⟩

theorem exists_ends_of_run {Seen : Type} {task : Task Host} {bound : Nat}
    {seen : Outcome Host → Seen} {known : Seen}
    (ended : (run bound task shell).map seen = some known) :
    ∃ outcome, Ends task shell outcome ∧ seen outcome = known := by
  obtain ⟨outcome, ran, same⟩ := Option.map_eq_some_iff.mp ended
  exact ⟨outcome, ⟨bound, ran⟩, same⟩

theorem Ends.together {first second : Task Host} {later : Shell Host} {middle : Outcome Host}
    (ends : Ends first shell middle) (others : Ends second later outcome) :
    ∃ bound, run bound first shell = some middle ∧ run bound second later = some outcome := by
  obtain ⟨bound, ended⟩ := ends
  obtain ⟨otherBound, otherEnded⟩ := others
  exact ⟨max bound otherBound, run_mono ended (Nat.le_max_left _ _),
    run_mono otherEnded (Nat.le_max_right _ _)⟩

theorem ends_iff_step (task : Task Host) (shell : Shell Host) (outcome : Outcome Host) :
    Ends task shell outcome ↔ ∃ bound, run (bound + 1) task shell = some outcome := by
  constructor
  · rintro ⟨bound, ended⟩
    exact ⟨bound, run_succ ended⟩
  · rintro ⟨bound, ended⟩
    exact ⟨bound + 1, ended⟩

theorem ends_done (signal : Signal) :
    Ends (.script (.done signal)) shell outcome ↔ outcome = (.ok signal, shell) := by
  rw [ends_iff_step]
  simp only [run, Option.some.injEq, exists_const, eq_comm]

theorem ends_fail (failure : Failure) :
    Ends (.script (.fail failure)) shell outcome ↔ outcome = (.error failure, shell) := by
  rw [ends_iff_step]
  simp only [run, Option.some.injEq, exists_const, eq_comm]

theorem ends_consult (next : Host → Script Host) :
    Ends (.script (.consult next)) shell outcome ↔
      Ends (.script (next shell.host)) shell outcome := by
  rw [ends_iff_step]
  simp only [run]
  rfl

theorem ends_remember (change : Host → Host) (next : Script Host) :
    Ends (.script (.remember change next)) shell outcome ↔
      Ends (.script next) { shell with host := change shell.host } outcome := by
  rw [ends_iff_step]
  simp only [run]
  rfl

theorem ends_perform {answer : Answer} (request : Request (Action Host) answer)
    (next : Except Failure answer.Value → Script Host) :
    Ends (.script (.perform request next)) shell outcome ↔
      Ends (.script (next (shell.serve request).1)) (shell.serve request).2 outcome := by
  rw [ends_iff_step]
  simp only [run]
  rfl

theorem ends_enter (stop : Visit) (next : Except Failure Signal → Script Host) :
    Ends (.script (.visit stop next)) shell outcome ↔
      ∃ result after, Ends (.visit stop) shell (result, after) ∧
        Ends (.script (next result)) after outcome := by
  constructor
  · rw [ends_iff_step]
    rintro ⟨bound, ended⟩
    simp only [run] at ended
    split at ended
    · rename_i result after visited
      exact ⟨result, after, ⟨bound, visited⟩, ⟨bound, ended⟩⟩
    · simp at ended
  · rintro ⟨result, after, visited, ended⟩
    obtain ⟨bound, visited, ended⟩ := visited.together ended
    refine ⟨bound + 1, ?_⟩
    simp only [run, visited]
    exact ended

/-- A line given to a node or typed in a menu has this way to go, which it takes from this shell. -/
inductive Leads (shell : Shell Host) : Visit → Route → Shell Host → Prop
  | execute {id : NodeId} {line : String} {route : Route} :
      shell.tree.executeRoute? id line = some route → Leads shell (.execute id line) route shell
  | dispatch {menu : NodeId} {line : String} {route : Route} :
      shell.tree.dispatchRoute? menu line = some route →
      Leads shell (.dispatch menu line) route (shell.note (.dispatched menu line))

theorem Leads.ends_iff {visit : Visit} {route : Route} (leads : Leads shell visit route started) :
    Ends (.visit visit) shell outcome ↔
      ∃ bound, follow (fun script => run bound (.script script)) (some route) started =
        some outcome := by
  rw [ends_iff_step]
  cases leads with
  | execute found => simp only [run, found]
  | dispatch found => simp only [run, found]

theorem Leads.tree_eq {visit : Visit} {route : Route} (leads : Leads shell visit route started) :
    started.tree = shell.tree := by
  cases leads <;> rfl

theorem Leads.ends_act {visit : Visit} {id : NodeId} {line : String} {action : Action Host}
    (leads : Leads shell visit (.act id line) started)
    (known : (shell.tree.node id).action? = some action) :
    Ends (.visit visit) shell outcome ↔
      ∃ inner, Ends (.script (action line)) (started.note (.acted id line)) inner ∧
        absorb inner = outcome := by
  rw [leads.ends_iff]
  simp only [follow, leads.tree_eq, known, Option.map_eq_some_iff]
  constructor
  · rintro ⟨bound, inner, ended, absorbed⟩
    exact ⟨inner, ⟨bound, ended⟩, absorbed⟩
  · rintro ⟨inner, ⟨bound, ended⟩, absorbed⟩
    exact ⟨bound, inner, ended, absorbed⟩

theorem Leads.ends_report {visit : Visit} {error : MenuError}
    (leads : Leads shell visit (.report error) started) :
    Ends (.visit visit) shell outcome ↔ outcome = (.ok .normal, started.report error) := by
  rw [leads.ends_iff]
  simp only [follow, Option.some.injEq, exists_const, eq_comm]

theorem Leads.ends_unbound {visit : Visit} {name : String}
    (leads : Leads shell visit (.unbound name) started) :
    Ends (.visit visit) shell outcome ↔ outcome = (.error (.ofError (.unbound name)), started) := by
  rw [leads.ends_iff]
  simp only [follow, Option.some.injEq, exists_const, eq_comm]

theorem ends_menu (id : NodeId) :
    Ends (.visit (.menu id)) shell outcome ↔
      ∃ result left, Ends (.loop id) (shell.enterLoop id) (result, left) ∧
        outcome = (result, left.leaveLoop) := by
  rw [ends_iff_step]
  simp only [run, Option.map_eq_some_iff]
  constructor
  · rintro ⟨bound, ⟨result, left⟩, ended, rfl⟩
    exact ⟨result, left, ⟨bound, ended⟩, rfl⟩
  · rintro ⟨result, left, ⟨bound, ended⟩, rfl⟩
    exact ⟨bound, (result, left), ended, rfl⟩

theorem ends_loop_again (menu : NodeId) (next : shell.next = (.again, asked)) :
    Ends (.loop menu) shell outcome ↔ Ends (.loop menu) asked outcome := by
  rw [ends_iff_step]
  simp only [run, next]
  rfl

theorem ends_loop_ended (menu : NodeId) (next : shell.next = (.ended, asked)) :
    Ends (.loop menu) shell outcome ↔ outcome = (.ok .normal, asked) := by
  rw [ends_iff_step]
  simp only [run, next, Option.some.injEq, exists_const, eq_comm]

theorem ends_loop_failed (menu : NodeId) {failure : Failure}
    (next : shell.next = (.failed failure, asked)) :
    Ends (.loop menu) shell outcome ↔ outcome = (.error failure, asked) := by
  rw [ends_iff_step]
  simp only [run, next, Option.some.injEq, exists_const, eq_comm]

def Resumes (menu : NodeId) (dispatched outcome : Outcome Host) : Prop :=
  match dispatched with
  | (.ok .normal, after) => Ends (.loop menu) after outcome
  | (.ok .quit, after) => outcome = (.ok .normal, after)
  | (.error failure, after) => outcome = (.error failure, after)

theorem ends_loop_line (menu : NodeId) {line : String} (next : shell.next = (.line line, asked)) :
    Ends (.loop menu) shell outcome ↔
      ∃ dispatched, Ends (.visit (.dispatch menu (Text.trim line))) asked dispatched ∧
        Resumes menu dispatched outcome := by
  constructor
  · rw [ends_iff_step]
    rintro ⟨bound, ended⟩
    simp only [run, next] at ended
    split at ended
    · rename_i after dispatched
      exact ⟨_, ⟨bound, dispatched⟩, ⟨bound, ended⟩⟩
    · rename_i after dispatched
      exact ⟨_, ⟨bound, dispatched⟩, (Option.some.inj ended).symm⟩
    · rename_i failure after dispatched
      exact ⟨_, ⟨bound, dispatched⟩, (Option.some.inj ended).symm⟩
    · simp at ended
  · rintro ⟨⟨result, after⟩, dispatched, resumed⟩
    cases result with
    | ok signal =>
        cases signal with
        | normal =>
            obtain ⟨bound, dispatched, ended⟩ := dispatched.together resumed
            refine ⟨bound + 1, ?_⟩
            simp only [run, next, dispatched]
            exact ended
        | quit =>
            obtain ⟨bound, dispatched⟩ := dispatched
            refine ⟨bound + 1, ?_⟩
            simp only [run, next, dispatched]
            exact congrArg some resumed.symm
    | error failure =>
        obtain ⟨bound, dispatched⟩ := dispatched
        refine ⟨bound + 1, ?_⟩
        simp only [run, next, dispatched]
        exact congrArg some resumed.symm

end Shell

end MenuShell

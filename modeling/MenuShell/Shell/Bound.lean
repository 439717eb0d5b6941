import MenuShell.Shell.Run

/-!
The bound of a run decides only whether the run is finished: a larger bound gives the same
outcome.
-/

namespace MenuShell

namespace Shell

variable {Host : Type}

theorem follow_mono {smaller larger : Script Host → Shell Host → Option (Outcome Host)}
    (grows : ∀ script shell outcome, smaller script shell = some outcome →
      larger script shell = some outcome)
    {route? : Option Route} {shell : Shell Host} {outcome : Outcome Host}
    (ended : follow smaller route? shell = some outcome) :
    follow larger route? shell = some outcome := by
  cases route? with
  | none => simp [follow] at ended
  | some route =>
    cases route with
    | report error => exact ended
    | unbound name => exact ended
    | act id line =>
      simp only [follow] at ended ⊢
      split at ended
      · obtain ⟨inner, finished, rfl⟩ := Option.map_eq_some_iff.1 ended
        exact Option.map_eq_some_iff.2 ⟨inner, grows _ _ _ finished, rfl⟩
      · simp at ended

theorem run_succ {bound : Nat} {task : Task Host} {shell : Shell Host} {outcome : Outcome Host}
    (ended : run bound task shell = some outcome) : run (bound + 1) task shell = some outcome := by
  induction bound generalizing task shell outcome with
  | zero => simp [run] at ended
  | succ bound ih =>
    have grows : ∀ script shell outcome, run bound (.script script) shell = some outcome →
        run (bound + 1) (.script script) shell = some outcome := fun _ _ _ finished => ih finished
    match task with
    | .visit (.menu id) =>
      rw [run] at ended ⊢
      obtain ⟨inner, finished, rfl⟩ := Option.map_eq_some_iff.1 ended
      exact Option.map_eq_some_iff.2 ⟨inner, ih finished, rfl⟩
    | .visit (.execute id line) =>
      rw [run] at ended ⊢
      exact follow_mono grows ended
    | .visit (.dispatch menu line) =>
      rw [run] at ended ⊢
      exact follow_mono grows ended
    | .loop menu =>
      rw [run] at ended ⊢
      split at ended
      · split at ended
        · rename_i finished
          rw [ih finished]
          exact ih ended
        · rename_i finished
          rw [ih finished]
          exact ended
        · rename_i finished
          rw [ih finished]
          exact ended
        · simp at ended
      · exact ih ended
      · exact ended
      · exact ended
    | .script (.done _) => simpa only [run] using ended
    | .script (.fail _) => simpa only [run] using ended
    | .script (.consult _) =>
      simp only [run] at ended ⊢
      exact ih ended
    | .script (.remember _ _) =>
      simp only [run] at ended ⊢
      exact ih ended
    | .script (.perform _ _) =>
      simp only [run] at ended ⊢
      exact ih ended
    | .script (.visit stop next) =>
      simp only [run] at ended ⊢
      split at ended
      · rename_i finished
        rw [ih finished]
        exact ih ended
      · simp at ended

theorem run_mono {smaller larger : Nat} {task : Task Host} {shell : Shell Host}
    {outcome : Outcome Host} (ended : run smaller task shell = some outcome)
    (grows : smaller ≤ larger) : run larger task shell = some outcome := by
  induction grows with
  | refl => exact ended
  | step _ ih => exact run_succ ih

end Shell

end MenuShell

import MenuShell.Proofs.Tree.Reachable

/-!
Changes that are refused. A change that fails gives back the tree that it found, node by node, also
where it has hung a node or set a mode before it looks at the siblings in reach. A sequence of
changes is therefore worth as much as those among them that succeed: it leads to the same tree and
hands out the same places on the way.
-/

namespace MenuShell

namespace Tree

variable {Action : Type} {tree : Tree Action} {parent child id : NodeId}

theorem isOk_ok {Value : Type} (value : Value) :
    (Except.ok value : Except MenuError Value).isOk = true := rfl

theorem isOk_map {Value Other : Type} (result : Except MenuError Value)
    (change : Value → Other) : (result.map change).isOk = result.isOk := by
  cases result <;> rfl

theorem attach_refused (forest : tree.Forest) (parentBound : parent < tree.size)
    (childBound : child < tree.size) (refused : (tree.attach parent child).1.isOk = false) :
    (tree.attach parent child).2 = tree := by
  rcases attach_cases forest parentBound childBound with ⟨_, failed⟩ | ⟨hung, -⟩
  · rw [failed]
  · simp [hung, isOk_ok] at refused

theorem add_refused {node : Node Action} (forest : tree.Forest) (parentBound : parent < tree.size)
    (refused : (tree.add parent node).1.isOk = false) : (tree.add parent node).2 = tree := by
  rcases add_cases forest parentBound node with ⟨_, failed⟩ | ⟨added, -⟩
  · rw [failed]
  · simp [added, isOk_ok] at refused

theorem detach_refused (refused : (tree.detach child).1.isOk = false) :
    (tree.detach child).2 = tree := by
  rcases detach_cases tree child with ⟨_, failed⟩ | ⟨_, -, letGo⟩
  · rw [failed]
  · simp [letGo, isOk_ok] at refused

theorem setComparison_refused {mode : Comparison} (bound : id < tree.size)
    (refused : (tree.setComparison id mode).1.isOk = false) :
    (tree.setComparison id mode).2 = tree := by
  rcases setComparison_cases bound mode with ⟨_, failed⟩ | ⟨governed, -⟩
  · rw [failed]
  · simp [governed, isOk_ok] at refused

theorem apply_refused {edit : Edit Action} (forest : tree.Forest) (within : edit.Within tree)
    (refused : (tree.apply edit).1.isOk = false) : (tree.apply edit).2 = tree := by
  cases edit with
  | add parent node =>
      rw [apply, isOk_map] at refused
      exact add_refused forest within refused
  | attach parent child =>
      rw [apply, linked, isOk_map] at refused
      exact attach_refused forest within.1 within.2 refused
  | detach child =>
      rw [apply, linked, isOk_map] at refused
      exact detach_refused refused
  | setComparison id mode =>
      rw [apply, linked, isOk_map] at refused
      exact setComparison_refused within refused
  | insert _ | copy _ => simp [apply, stored, isOk_ok] at refused
  | setHelp _ _ | setPrompt _ _ | setAction _ _ | setSwitch _ _ | turn _ _ =>
      simp [apply, changed, isOk_ok] at refused

def answers (tree : Tree Action) : List (Edit Action) → List (Except MenuError (Option NodeId))
  | [] => []
  | edit :: others => (tree.apply edit).1 :: answers (tree.apply edit).2 others

def effective (tree : Tree Action) : List (Edit Action) → List (Edit Action)
  | [] => []
  | edit :: others =>
    if (tree.apply edit).1.isOk then edit :: effective (tree.apply edit).2 others
    else effective (tree.apply edit).2 others

theorem effective_permitted {edits : List (Edit Action)} (forest : tree.Forest)
    (permitted : tree.Permitted edits) :
    tree.Permitted (tree.effective edits) ∧
      tree.applyAll (tree.effective edits) = tree.applyAll edits ∧
      tree.answers (tree.effective edits) = (tree.answers edits).filter (·.isOk) := by
  induction edits generalizing tree with
  | nil => exact ⟨trivial, rfl, rfl⟩
  | cons edit others ih =>
      obtain ⟨within, rest⟩ := permitted
      obtain ⟨laterPermitted, laterTree, laterAnswers⟩ :=
        ih (forest.moves (apply_cases forest within).1) rest
      cases result : (tree.apply edit).1.isOk with
      | true =>
          have kept : tree.effective (edit :: others) =
              edit :: (tree.apply edit).2.effective others := if_pos result
          rw [kept]
          refine ⟨⟨within, laterPermitted⟩, laterTree, ?_⟩
          simp [answers, result, laterAnswers]
      | false =>
          have same := apply_refused forest within result
          have dropped : tree.effective (edit :: others) =
              (tree.apply edit).2.effective others := if_neg (by simp [result])
          rw [same] at dropped laterPermitted laterTree laterAnswers
          rw [dropped]
          refine ⟨laterPermitted, ?_, ?_⟩
          · exact laterTree.trans (congrArg (applyAll · others) same.symm)
          · simp [answers, result, same, laterAnswers]

/-- Every change that fails leaves the tree as it was, its nodes and their number. So what comes after
it, the place of the next stored node for one, is what would have come without it. -/
theorem refusals_leave_no_trace (reachable : tree.Reachable) :
    (∀ parent child, parent < tree.size → child < tree.size →
      (tree.attach parent child).1.isOk = false → (tree.attach parent child).2 = tree) ∧
    (∀ parent node, parent < tree.size →
      (tree.add parent node).1.isOk = false → (tree.add parent node).2 = tree) ∧
    (∀ child, (tree.detach child).1.isOk = false → (tree.detach child).2 = tree) ∧
    (∀ id mode, id < tree.size →
      (tree.setComparison id mode).1.isOk = false → (tree.setComparison id mode).2 = tree) ∧
    ∀ edits, tree.Permitted edits →
      tree.Permitted (tree.effective edits) ∧
        tree.applyAll (tree.effective edits) = tree.applyAll edits ∧
        tree.answers (tree.effective edits) = (tree.answers edits).filter (·.isOk) := by
  have forest := reachable.forest
  refine ⟨?_, ?_, ?_, ?_, ?_⟩
  · intro parent child parentBound childBound refused
    exact attach_refused forest parentBound childBound refused
  · intro parent node parentBound refused
    exact add_refused forest parentBound refused
  · intro child refused
    exact detach_refused refused
  · intro id mode bound refused
    exact setComparison_refused bound refused
  · intro edits permitted
    exact effective_permitted forest permitted

theorem refusals_leave_no_trace_of_twins :
    let sensitive : Node Unit := { Node.menu "sub" with comparison? := some .sensitive }
    let tree := (empty .insensitive : Tree Unit).applyAll
      [.add 0 sensitive, .add 1 (.menu "inner"), .add 2 (.leaf "Go" ()), .add 2 (.leaf "go" ()),
        .add 1 {}, .add 5 (.leaf "On" ()), .add 5 (.leaf "on" ()), .detach 2, .detach 5]
    let edits := [.attach 0 2, .attach 0 5, .setComparison 2 .insensitive,
      .add 1 (.leaf "two words" ()), .detach 2, .insert (.menu "late")]
    (tree.answers edits).map (·.isOk) = [false, false, false, false, false, true] ∧
      (tree.attach 0 2).2 = tree ∧ (tree.attach 0 5).2 = tree ∧
      (tree.setComparison 2 .insensitive).2 = tree ∧
      (tree.add 1 (.leaf "two words" ())).2 = tree ∧ (tree.detach 2).2 = tree ∧
      tree.answers (tree.effective edits) = (tree.answers edits).filter (·.isOk) := by
  intro sensitive tree edits
  have reachable : tree.Reachable := ⟨.insensitive, Reaches.refl.applyAll (by decide)⟩
  obtain ⟨attach, add, detach, govern, sequence⟩ := refusals_leave_no_trace reachable
  refine ⟨?_, ?_, ?_, ?_, ?_, ?_, ?_⟩
  · decide
  · exact attach 0 2 (by decide) (by decide) (by decide)
  · exact attach 0 5 (by decide) (by decide) (by decide)
  · exact govern 2 .insensitive (by decide) (by decide)
  · exact add 1 _ (by decide) (by decide)
  · exact detach 2 (by decide)
  · exact (sequence edits (by decide)).2.2

end Tree

end MenuShell

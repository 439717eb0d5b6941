import MenuShell.Proofs.Text.Beginnings
import MenuShell.Proofs.Tree.Meaning

/-!
The beginnings of a selector. A beginning that no other visible child starts with means its child,
and so do all longer ones once a shorter one does. Both fail, and only then, where a menu that ignores
case is given a beginning cut off inside a word behind a capital sigma: its last letter is then a final
sigma, which the selector does not have in that place.
-/

namespace MenuShell

namespace Tree

variable {Action : Type} {tree : Tree Action} {menu id : NodeId} {mode : Comparison} {word : String}

theorem resolveNamed_of_alone (forest : tree.Forest) (apart : tree.Apart mode menu)
    (starts : tree.Starts mode menu word id)
    (alone : ∀ other, tree.Starts mode menu word other → other = id) :
    tree.resolveNamed menu word mode = .ok id := by
  rw [resolveNamed_eq_ok_iff, candidates_singleton_iff forest apart]
  by_cases present : ∃ other, tree.Equals mode menu word other
  · obtain ⟨other, equals⟩ := present
    rw [alone other equals.starts] at equals
    exact .inl equals
  · exact .inr ⟨not_exists.mp present, starts, alone⟩

theorem Starts.shorten {front more rest : String} {other : NodeId}
    (starts : tree.Starts mode menu (front ++ more) other)
    (shorter : mode.begins (front ++ more ++ rest) front = true)
    (longer : mode.begins (front ++ more ++ rest) (front ++ more) = true) :
    tree.Starts mode menu front other := by
  refine ⟨starts.1, ?_⟩
  rw [Comparison.begins_iff] at shorter longer ⊢
  have nested : (mode.key front).toList <+: (mode.key (front ++ more)).toList :=
    List.prefix_of_prefix_length_le shorter longer (Comparison.length_key_le mode front more)
  exact nested.trans (Comparison.begins_iff.mp starts.2)

/-- Just where a beginning is not severed from the rest of a visible child's selector, it means the
child if no other one starts with it, and goes on meaning it if a shorter beginning does. -/
theorem beginning_means_child_iff (reachable : tree.Reachable)
    (connected : root ∈ tree.lineage menu) (visible : id ∈ tree.visibleChildren menu) :
    let mode := tree.comparison menu
    (∀ front rest, tree.selector id = front ++ rest →
      (∀ other, tree.Starts mode menu front other → other = id) →
      (tree.resolveNamed menu front mode = .ok id ↔
        mode.severs front.toList rest.toList = false)) ∧
    ∀ front more rest, tree.selector id = front ++ more ++ rest →
      tree.resolveNamed menu front mode = .ok id →
      (tree.resolveNamed menu (front ++ more) mode = .ok id ↔
        mode.severs (front ++ more).toList rest.toList = false) := by
  intro mode
  have forest := reachable.forest
  have apart : tree.Apart mode menu := reachable.apart_of_connected connected
  refine ⟨?_, ?_⟩
  · intro front rest selector alone
    rw [← Comparison.begins_append_iff, ← selector]
    constructor
    · exact fun resolved => (starts_of_resolveNamed resolved).2
    · exact fun begins => resolveNamed_of_alone forest apart ⟨visible, begins⟩ alone
  · intro front more rest selector resolved
    have shorter := (starts_of_resolveNamed resolved).2
    rw [← Comparison.begins_append_iff, ← selector]
    constructor
    · exact fun further => (starts_of_resolveNamed further).2
    · intro begins
      rw [resolveNamed_eq_ok_iff, candidates_singleton_iff forest apart] at resolved
      rcases resolved with equals | ⟨-, -, alone⟩
      · -- A beginning that equals the selector is all of it, so nothing longer is left.
        have same := equals.2
        rw [selector, String.append_assoc] at same
        have none := Comparison.eq_empty_of_same_append same
        obtain ⟨rfl, rfl⟩ : more = "" ∧ rest = "" := by simpa using none
        rw [resolveNamed_eq_ok_iff, candidates_singleton_iff forest apart, String.append_empty]
        exact .inl equals
      · apply resolveNamed_of_alone forest apart ⟨visible, begins⟩
        intro other starts
        rw [selector] at shorter begins
        exact alone other (starts.shorten shorter begins)

theorem severed_beginning_unknown :
    let tree := (empty .insensitive : Tree Unit).applyAll [.add 0 (.leaf "ΒΑΣΗ" ())]
    tree.Reachable ∧ root ∈ tree.lineage 0 ∧ tree.visibleChildren 0 = [1] ∧
      tree.selector 1 = "ΒΑ" ++ "Σ" ++ "Η" ∧
      tree.resolveNamed 0 "ΒΑ" (tree.comparison 0) = .ok 1 ∧
      tree.resolveNamed 0 ("ΒΑ" ++ "Σ") (tree.comparison 0) = .error (.unknown "ΒΑΣ" []) := by
  intro tree
  have reachable : tree.Reachable := ⟨.insensitive, Reaches.refl.applyAll (by decide)⟩
  refine ⟨reachable, by decide, by decide, by decide, ?_, ?_⟩
  · decide +kernel
  · decide +kernel

theorem beginning_means_child_of_inner_sigma :
    let tree := (empty .insensitive : Tree Unit).applyAll
      [.add 0 (.leaf "ΒΑΣΗ" ()), .add 0 (.leaf "ΒΟΛΗ" ())]
    tree.resolveNamed 0 "ΒΑ" (tree.comparison 0) = .ok 1 ∧
      tree.resolveNamed 0 ("ΒΑ" ++ "Σ") (tree.comparison 0) ≠ .ok 1 ∧
      tree.resolveNamed 0 ("ΒΑ" ++ "ΣΗ") (tree.comparison 0) = .ok 1 := by
  intro tree
  have reachable : tree.Reachable := ⟨.insensitive, Reaches.refl.applyAll (by decide +kernel)⟩
  have children : tree.visibleChildren 0 = [1, 2] := by decide +kernel
  have mode : tree.comparison 0 = .insensitive := by decide +kernel
  have other : tree.selector 2 = "ΒΟΛΗ" := by decide +kernel
  obtain ⟨alone, longer⟩ := beginning_means_child_iff reachable (by decide +kernel)
    (show 1 ∈ tree.visibleChildren 0 by simp [children])
  have short : tree.resolveNamed 0 "ΒΑ" (tree.comparison 0) = .ok 1 := by
    apply (alone "ΒΑ" "ΣΗ" (by decide +kernel) ?_).mpr
    · rw [mode]
      decide +kernel
    · rintro id ⟨visible, begins⟩
      rw [children] at visible
      rcases List.mem_pair.mp visible with rfl | rfl
      · rfl
      · rw [mode, other] at begins
        exact absurd begins (by decide +kernel)
  refine ⟨short, ?_, ?_⟩
  · intro resolved
    have unsevered := (longer "ΒΑ" "Σ" "Η" (by decide +kernel) short).mp resolved
    rw [mode] at unsevered
    exact absurd unsevered (by decide +kernel)
  · apply (longer "ΒΑ" "ΣΗ" "" (by decide +kernel) short).mpr
    rw [mode]
    decide +kernel

end Tree

end MenuShell

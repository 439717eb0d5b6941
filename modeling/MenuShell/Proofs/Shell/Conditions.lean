import MenuShell.Commands.Conditional
import MenuShell.Proofs.Shell.Capturing
import MenuShell.Proofs.Text.Peeling

/-!
The command `if` and its conditions. Words `not` are counted off the front of the line, one condition is
looked at once, and the rest of the line is put in front of the input or the input stays as it was.
-/

namespace MenuShell

namespace Commands

variable {Host : Type} {mode : Comparison} {count bound : Nat} {line other word tail rest : String}
  {nots : List (String × String)}

inductive Asks (mode : Comparison) : Nat → String → String → String → Prop
  | here {line word rest : String} : Text.splitFirstWord line = (word, rest) →
      mode.same word "not" = false → Asks mode 0 line word rest
  | turned {count : Nat} {line no behind word rest : String} :
      Text.splitFirstWord line = (no, behind) → mode.same no "not" = true →
      Asks mode count behind word rest → Asks mode (count + 1) line word rest

theorem same_not_empty (mode : Comparison) : mode.same "" "not" = false := by
  cases mode <;> decide +kernel

theorem Asks.count_le (asks : Asks mode count line word rest) : count ≤ line.length := by
  induction asks with
  | here => exact Nat.zero_le _
  | turned split turns _ ih =>
      have shorter := (Text.splitFirstWord_eq_iff.mp split).length_lt (by
        rintro rfl
        rw [same_not_empty] at turns
        contradiction)
      omega

theorem stripNegations_of_asks (asks : Asks mode count line word rest) (enough : count ≤ bound) :
    ∃ last, stripNegations mode bound line = (count, last) ∧
      Text.splitFirstWord last = (word, rest) := by
  induction asks generalizing bound with
  | @here line word rest split stays =>
      refine ⟨line, ?_, split⟩
      cases bound with
      | zero => rfl
      | succ bound => simp [stripNegations, split, stays]
  | turned split turns _ ih =>
      cases bound with
      | zero => simp at enough
      | succ bound =>
          obtain ⟨last, stripped, found⟩ := ih (Nat.le_of_succ_le_succ enough)
          refine ⟨last, ?_, found⟩
          rw [stripNegations, split]
          simp only [turns, if_true, stripped]

theorem asks_of_spaced (turns : ∀ step ∈ nots, Tree.isWord step.1 = true ∧ mode.same step.1 "not" = true)
    (parted : Text.Parted nots tail) (split : Text.splitFirstWord tail = (word, rest))
    (stays : mode.same word "not" = false)
    (same : Text.splitFirstWord line = Text.splitFirstWord (Text.spaced nots tail)) :
    Asks mode nots.length line word rest := by
  induction nots generalizing line with
  | nil => exact .here (same.trans split) stays
  | cons step nots ih =>
      obtain ⟨no, gap⟩ := step
      obtain ⟨solid, turned⟩ := turns _ List.mem_cons_self
      refine .turned (same.trans (Text.splitFirstWord_spaced solid parted)) turned ?_
      exact ih (fun step member => turns step (List.mem_cons_of_mem _ member)) parted.2.2
        (Text.splitFirstWord_trim _)

end Commands

namespace Shell

variable {Host : Type} {shell tested asked later final : Shell Host} {menu id : NodeId}
  {mode : Comparison} {count : Nat} {line word tail rest name : String} {value : Bool}
  {value? : Option Bool}
  {condition : Condition Host} {outcome : Outcome Host}

def Knows (shell : Shell Host) (word : String) (mode : Comparison) : Prop :=
  ∃ known ∈ shell.conditions.map Prod.fst, mode.same known word = true

theorem test_of_find
    (found : shell.conditions.find? (fun entry => mode.same entry.1 word) = some (name, condition)) :
    shell.test word mode =
      (some (shell.holds condition), shell.setCondition name (lookedAt condition)) := by
  simp only [test, found]

theorem test_of_unknown (unknown : ¬shell.Knows word mode) :
    shell.test word mode = (none, shell) := by
  have none : shell.conditions.find? (fun entry => mode.same entry.1 word) = none := by
    rw [List.find?_eq_none]
    intro entry member same
    exact unknown ⟨entry.1, List.mem_map_of_mem member, same⟩
  simp only [test, none]

theorem Knows.find? (knows : shell.Knows word mode) :
    ∃ name condition, shell.conditions.find? (fun entry => mode.same entry.1 word) =
      some (name, condition) := by
  obtain ⟨known, member, same⟩ := knows
  obtain ⟨entry, listed, rfl⟩ := List.mem_map.mp member
  cases found : shell.conditions.find? (fun entry => mode.same entry.1 word) with
  | none => exact absurd same (by simpa using List.find?_eq_none.mp found entry listed)
  | some entry => exact ⟨entry.1, entry.2, rfl⟩

theorem Knows.test (knows : shell.Knows word mode) :
    ∃ value tested, shell.test word mode = (some value, tested) := by
  obtain ⟨name, condition, found⟩ := knows.find?
  exact ⟨_, _, test_of_find found⟩

theorem names_setCondition (listed : name ∈ shell.conditions.map Prod.fst)
    (condition : Condition Host) :
    (shell.setCondition name condition).conditions.map Prod.fst =
      shell.conditions.map Prod.fst := by
  have some : shell.conditions.any (·.1 = name) = true := by
    obtain ⟨entry, member, rfl⟩ := List.mem_map.mp listed
    rw [List.any_eq_true]
    exact ⟨entry, member, by simp⟩
  rw [setCondition, if_pos some, List.map_map]
  apply List.map_congr_left
  intro entry _
  by_cases same : entry.1 = name <;> simp [same]

theorem test_eq (looked : shell.test word mode = (value?, tested)) :
    tested = { shell with conditions := tested.conditions } := by
  unfold test at looked
  split at looked
  · rw [← (Prod.mk.inj looked).2]
  · rw [← (Prod.mk.inj looked).2]
    unfold setCondition
    split <;> rfl

theorem names_test (looked : shell.test word mode = (value?, tested)) :
    tested.conditions.map Prod.fst = shell.conditions.map Prod.fst := by
  unfold test at looked
  split at looked
  · rw [← (Prod.mk.inj looked).2]
  · rename_i found
    rw [← (Prod.mk.inj looked).2]
    exact names_setCondition (List.mem_map_of_mem (List.mem_of_find?_eq_some found)) _

def SameButInput (later shell : Shell Host) : Prop :=
  later = { shell with input := later.input, transcript := later.transcript }

theorem SameButInput.trans (second : SameButInput final later) (first : SameButInput later shell) :
    SameButInput final shell := by
  rw [SameButInput] at first second ⊢
  rw [second, first]

theorem SameButInput.test (same : SameButInput later shell) (word : String) (mode : Comparison) :
    (later.test word mode).1 = (shell.test word mode).1 ∧
      SameButInput (later.test word mode).2 (shell.test word mode).2 := by
  rw [same]
  unfold Shell.test
  dsimp only
  split
  · exact ⟨rfl, rfl⟩
  · refine ⟨rfl, ?_⟩
    unfold setCondition
    dsimp only
    split <;> exact rfl

theorem SameButInput.of_test (same : SameButInput later tested)
    (looked : shell.test word mode = (value?, tested)) :
    later.tree = shell.tree ∧
      later.conditions.map Prod.fst = shell.conditions.map Prod.fst := by
  have names := names_test looked
  rw [same]
  exact ⟨(congrArg Shell.tree (test_eq looked)).trans rfl, names⟩

theorem ends_runIf (asks : Commands.Asks (shell.tree.comparison menu) count line word rest)
    (looked : shell.test word (shell.tree.comparison menu) = (some value, tested)) :
    Ends (.script (Commands.runIf menu line)) shell outcome ↔
      outcome = (.ok .normal, if value ≠ decide (count % 2 = 1) then
        { tested with input := tested.input.pushLine rest } else tested) := by
  obtain ⟨last, stripped, split⟩ := Commands.stripNegations_of_asks asks asks.count_le
  have served : shell.serve (.test word (shell.tree.comparison menu)) = (.ok (some value), tested) := by
    simp only [serve, looked]
  have turned : value = (count % 2 == 0) ↔ value ≠ decide (count % 2 = 1) := by
    rcases Nat.mod_two_eq_zero_or_one count with even | odd
    · simp [even]
    · simp [odd]
  unfold Commands.runIf
  rw [ends_ask rfl]
  simp only [stripped, split]
  rw [ends_ask served]
  simp only [turned]
  split
  · rw [ends_andThen_done]
    rfl
  · exact ends_done _

theorem ends_runIf_unknown (asks : Commands.Asks (shell.tree.comparison menu) count line word rest)
    (unknown : ¬shell.Knows word (shell.tree.comparison menu)) :
    Ends (.script (Commands.runIf menu line)) shell outcome ↔
      outcome = (.error (.ofError (.unknownCondition word)), shell) := by
  obtain ⟨last, stripped, split⟩ := Commands.stripNegations_of_asks asks asks.count_le
  have served : shell.serve (.test word (shell.tree.comparison menu)) = (.ok none, shell) := by
    simp only [serve, test_of_unknown unknown]
  unfold Commands.runIf
  rw [ends_ask rfl]
  simp only [stripped, split]
  rw [ends_ask served]
  exact ends_fail _

theorem Knows.runIf {nots : List (String × String)} (knows : shell.Knows word mode)
    (asks : Commands.Asks mode nots.length line word rest)
    (governs : shell.tree.comparison menu = mode) :
    ∃ name condition, (name, condition) ∈ shell.conditions ∧ mode.same name word = true ∧
      let looked := shell.setCondition name (lookedAt condition)
      ∀ outcome, Ends (.script (Commands.runIf menu line)) shell outcome ↔
        outcome = (.ok .normal, if shell.holds condition ≠ decide (nots.length % 2 = 1) then
          { looked with input := shell.input.pushLine rest } else looked) := by
  obtain ⟨name, condition, found⟩ := knows.find?
  have looked := test_of_find found
  have unread := (congrArg Shell.input (test_eq looked)).trans rfl
  subst governs
  refine ⟨name, condition, List.mem_of_find?_eq_some found, ?_, fun outcome => ?_⟩
  · simpa using List.find?_some found
  · rw [ends_runIf asks looked, unread]

end Shell

end MenuShell

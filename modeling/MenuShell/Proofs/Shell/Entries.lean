import MenuShell.Proofs.Shell.Samples
import MenuShell.Proofs.Text.Beginnings
import MenuShell.Proofs.Text.Numbers
import MenuShell.Proofs.Tree.Walking

/-!
What a line says to the adding machine. Its three commands begin with different letters, so any beginning
of a name stands for the command; every other line is an entry, which is a number or a mistake.
-/

namespace MenuShell

namespace Comparison

variable {mode : Comparison} {first second word : String}

theorem key_ne_empty (present : word ≠ "") : (mode.key word).toList ≠ [] := by
  intro none
  have same : mode.same ("" ++ word) "" = true := by
    rw [String.empty_append, same_iff, String.toList_eq_nil_iff.mp none]
    cases mode <;> rfl
  exact present (eq_empty_of_same_append same)

theorem head?_of_begins (begins : mode.begins first word = true) (present : word ≠ "") :
    (mode.key word).toList.head? = (mode.key first).toList.head? := by
  obtain ⟨rest, whole⟩ := begins_iff.mp begins
  rw [← whole, List.head?_append_of_ne_nil _ (key_ne_empty present)]

end Comparison

namespace ArgumentSpec

variable {spec : ArgumentSpec} {progress result : Progress} {word : String} {words : List String}

theorem takePositional_of_none (none : spec.positionals = []) (progress : Progress) (word : String) :
    spec.takePositional progress word = unrecognized word := by
  simp [takePositional, nextPositional?, none]

theorem helpWanted_of_readWords (none : spec.positionals = []) (wanted : progress.helpWanted = true)
    (read : spec.readWords progress words = .ok result) : result.helpWanted = true := by
  induction words generalizing progress with
  | nil =>
      rw [readWords] at read
      cases read
      exact wanted
  | cons word others ih =>
      rw [readWords, takePositional_of_none none] at read
      split at read
      · contradiction
      · split at read
        · exact ih rfl read
        · split at read
          · exact @ih { progress with optionsEnded := true } wanted read
          · contradiction

theorem helpWanted_of_some (none : spec.positionals = []) (bare : spec.options = [])
    (some : words ≠ []) (other : words ≠ ["--"]) (read : spec.readWords {} words = .ok result) :
    result.helpWanted = true := by
  cases words with
  | nil => exact absurd rfl some
  | cons word others =>
      rw [readWords, takePositional_of_none none, bare] at read
      split at read
      · contradiction
      · split at read
        · exact helpWanted_of_readWords none rfl read
        · split at read
          · rename_i dashes
            cases others with
            | nil => exact absurd (by rw [dashes]) other
            | cons next others =>
                rw [readWords, takePositional_of_none none] at read
                contradiction
          · contradiction

theorem parse_ne_ok (none : spec.positionals = []) (bare : spec.options = [])
    (some : words ≠ []) (other : words ≠ ["--"]) (arguments : Arguments) :
    spec.parse words ≠ .ok arguments := by
  intro parsed
  unfold parse at parsed
  split at parsed
  · contradiction
  · rename_i progress read
    rw [if_pos (helpWanted_of_some none bare some other read)] at parsed
    contradiction

theorem parse_isOk_iff (none : spec.positionals = []) (bare : spec.options = []) :
    (∃ arguments, spec.parse words = .ok arguments) ↔ words = [] ∨ words = ["--"] := by
  constructor
  · rintro ⟨arguments, parsed⟩
    by_contra neither
    rw [not_or] at neither
    exact parse_ne_ok none bare neither.1 neither.2 arguments parsed
  · rintro (rfl | rfl)
    · refine ⟨{}, ?_⟩
      simp [parse, readWords, missing, none]
    · refine ⟨{}, ?_⟩
      have dashed : isHelp "--" = false ∧ isDashed "--" = true := by decide
      simp [parse, readWords, missing, none, dashed]

end ArgumentSpec

theorem Text.fst_splitFirstWord_ne_empty {line : String} (filled : isBlank line = false) :
    (splitFirstWord line).1 ≠ "" := by
  intro none
  rw [fst_splitFirstWord_eq_empty_iff.mp none] at filled
  contradiction

/-- The line leaves the menu of the adding machine: with its first word, or by `quit` and no argument. -/
def Text.Closes (mode : Comparison) (line : String) : Prop :=
  mode.begins "=" (splitFirstWord line).1 = true ∨
    mode.begins "quit" (splitFirstWord line).1 = true ∧
      (words (splitFirstWord line).2 = [] ∨ words (splitFirstWord line).2 = ["--"])

instance (mode : Comparison) (line : String) : Decidable (Text.Closes mode line) :=
  inferInstanceAs (Decidable (_ ∨ _))

namespace Tree

variable {Host : Type} {tree : Tree (Action Host)} {menu help quit stop sink id : NodeId}
  {mode : Comparison} {word line name : String}

def isEntry {Action : Type} (tree : Tree Action) (menu : NodeId) (line : String) : Bool :=
  (tree.resolveNamed menu (Text.splitFirstWord line).1 (tree.comparison menu)).toOption.isNone

theorem candidates_of_alone (distinct : (tree.visibleChildren menu).Nodup)
    (starts : tree.Starts mode menu word id)
    (alone : ∀ other, tree.Starts mode menu word other → other = id) :
    tree.candidates menu word mode = [id] := by
  have once : (tree.candidates menu word mode).Nodup := by
    rw [candidates, sortBySelector, (sortBy_perm _ _).nodup_iff]
    split
    · exact distinct.filter _
    · exact distinct.filter _
  rw [← List.perm_singleton, List.perm_ext_iff_of_nodup once (List.nodup_singleton id)]
  intro other
  rw [mem_candidates, List.mem_singleton]
  constructor
  · rintro (equals | ⟨-, begun⟩)
    · exact alone other equals.starts
    · exact alone other begun
  · rintro rfl
    by_cases equal : ∃ another, tree.Equals mode menu word another
    · obtain ⟨another, equals⟩ := equal
      exact .inl (alone another equals.starts ▸ equals)
    · exact .inr ⟨not_exists.mp equal, starts⟩

namespace Sums

theorem selectors (sums : tree.Sums menu help quit stop sink) :
    (tree.visibleChildren menu).map tree.selector = ["help", "quit", "="] := by
  simp [sums.named, selector, sums.helpWord, sums.quitWord, sums.stopWord]

theorem nodup (sums : tree.Sums menu help quit stop sink) :
    ((tree.visibleChildren menu).map tree.selector).Nodup := by
  rw [sums.selectors]
  decide

theorem eq_of_heads : ∀ first ∈ ["help", "quit", "="], ∀ second ∈ ["help", "quit", "="],
    (mode.key first).toList.head? = (mode.key second).toList.head? → second = first := by
  cases mode <;> decide +kernel

theorem starts_unique {other : NodeId} (sums : tree.Sums menu help quit stop sink)
    (present : word ≠ "") (starts : tree.Starts mode menu word id)
    (others : tree.Starts mode menu word other) : other = id := by
  have first : tree.selector id ∈ ["help", "quit", "="] :=
    sums.selectors ▸ List.mem_map_of_mem starts.1
  have second : tree.selector other ∈ ["help", "quit", "="] :=
    sums.selectors ▸ List.mem_map_of_mem others.1
  have heads := (Comparison.head?_of_begins starts.2 present).symm.trans
    (Comparison.head?_of_begins others.2 present)
  have same := eq_of_heads _ first _ second heads
  exact List.inj_on_of_nodup_map sums.nodup others.1 starts.1 same

theorem resolveNamed_iff (sums : tree.Sums menu help quit stop sink) (present : word ≠ "") :
    tree.resolveNamed menu word mode = .ok id ↔ tree.Starts mode menu word id := by
  refine ⟨starts_of_resolveNamed, fun starts => resolveNamed_eq_ok_iff.mpr ?_⟩
  exact candidates_of_alone (List.Nodup.of_map _ sums.nodup) starts fun _ others =>
    sums.starts_unique present starts others

theorem isEntry_iff (sums : tree.Sums menu help quit stop sink) (filled : Text.isBlank line = false) :
    tree.isEntry menu line = true ↔
      ∀ id, ¬tree.Starts (tree.comparison menu) menu (Text.splitFirstWord line).1 id := by
  simp only [← sums.resolveNamed_iff (Text.fst_splitFirstWord_ne_empty filled), isEntry]
  cases tree.resolveNamed menu (Text.splitFirstWord line).1 (tree.comparison menu) with
  | ok id => simp [Except.toOption]
  | error error => simp [Except.toOption]

theorem isEntry_iff_names (sums : tree.Sums menu help quit stop sink)
    (filled : Text.isBlank line = false) :
    tree.isEntry menu line = true ↔ ∀ name ∈ ["help", "quit", "="],
      (tree.comparison menu).begins name (Text.splitFirstWord line).1 = false := by
  rw [sums.isEntry_iff filled, ← sums.selectors]
  simp only [List.forall_mem_map, Starts, not_and, Bool.not_eq_true]

theorem route_named (sums : tree.Sums menu help quit stop sink) (filled : Text.isBlank line = false)
    (starts : tree.Starts (tree.comparison menu) menu (Text.splitFirstWord line).1 id)
    (acts : (tree.node id).action?.isSome) :
    tree.dispatchRoute? menu line = some (.act id (Text.splitFirstWord line).2) := by
  have present := Text.fst_splitFirstWord_ne_empty filled
  have means := (sums.resolveNamed_iff present).mpr starts
  exact (dispatchRoute?_of_named means rfl).trans (routeWithin_of_action acts _)

theorem route_entry (sums : tree.Sums menu help quit stop sink) (filled : Text.isBlank line = false)
    (entry : tree.isEntry menu line = true) :
    tree.dispatchRoute? menu line = some (.act sink line) := by
  have absent := candidates_eq_nil_iff.mpr ((sums.isEntry_iff filled).mp entry)
  have means := resolve_eq_fallback_iff.mpr ⟨absent, sums.fallback⟩
  simp only [dispatchRoute?, choose, means]
  exact routeWithin_of_action (by simp [sums.counts]) _

theorem starts_quit (sums : tree.Sums menu help quit stop sink)
    (begins : mode.begins "quit" word = true) : tree.Starts mode menu word quit :=
  ⟨by simp [sums.named], by simp [selector, sums.quitWord, begins]⟩

theorem starts_stop (sums : tree.Sums menu help quit stop sink)
    (begins : mode.begins "=" word = true) : tree.Starts mode menu word stop :=
  ⟨by simp [sums.named], by simp [selector, sums.stopWord, begins]⟩

end Sums

theorem isEntry_trim (tree : Tree (Action Host)) (menu : NodeId) (line : String) :
    tree.isEntry menu (Text.trim line) = tree.isEntry menu line := by
  rw [isEntry, Text.splitFirstWord_trim, isEntry]

def numbers {Action : Type} (tree : Tree Action) (menu : NodeId)
    (heard : List (Except String String)) : List Int :=
  ((heard.filterMap Except.toOption).filter (tree.isEntry menu)).filterMap fun line =>
    Number.word? (Text.trim line)

theorem numbers_append (tree : Tree (Action Host)) (menu : NodeId)
    (first second : List (Except String String)) :
    tree.numbers menu (first ++ second) = tree.numbers menu first ++ tree.numbers menu second := by
  simp [numbers]

inductive Replies {Action : Type} (tree : Tree Action) (menu : NodeId) :
    Except String String → List String → Prop
  | complaint (text : String) : Replies tree menu (.error text) [text]
  | number {line : String} {value : Int} : tree.isEntry menu line = true →
      Number.word? (Text.trim line) = some value → Replies tree menu (.ok line) []
  | other {line : String} : tree.isEntry menu line = true → Number.word? (Text.trim line) = none →
      Replies tree menu (.ok line) [Text.trim line ++ " is not a valid number.\n"]
  | command {line text : String} : tree.isEntry menu line = false →
      Replies tree menu (.ok line) [text]

theorem Replies.eq_of_entry {said : List String} (replies : tree.Replies menu (.ok line) said)
    (entry : tree.isEntry menu line = true) :
    said = if (Number.word? (Text.trim line)).isSome then []
      else [Text.trim line ++ " is not a valid number.\n"] := by
  cases replies with
  | number _ number => simp [number]
  | other _ number => simp [number]
  | command named => simp [entry] at named

end Tree

end MenuShell

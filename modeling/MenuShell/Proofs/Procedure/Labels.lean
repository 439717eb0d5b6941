import MenuShell.Proofs.Procedure.Body

/-!
Reading a procedure piece by piece. What is read behind other lines is what would be read alone, its
commands behind theirs and its labels moved by their number. So a label stands behind the commands of all
lines before its last declaration, whatever is among them.
-/

namespace MenuShell

namespace Procedure

variable {marker : Char} {line label text : String} {lines : List String} {index : Nat}

/-- The line begins, behind white space, with the marker and this label, and then has this text. -/
def Declares (marker : Char) (line label text : String) : Prop :=
  label ≠ "" ∧ ∃ rest, Chars.trimStart line.toList = marker :: rest ∧
    Text.splitFirstWord (String.ofList rest) = (label, text)

def followedBy (first second : Procedure) : Procedure where
  lines := first.lines ++ second.lines
  labels := (second.labels.map fun (label, index) => (label, first.lines.length + index)) ++
    first.labels

theorem declaration?_eq_some {rest : List Char}
    (marked : Chars.trimStart line.toList = marker :: rest) :
    declaration? marker line = some (String.ofList rest) := by
  simp [declaration?, marked]

theorem declaration?_eq_none_iff :
    declaration? marker line = none ↔ (Chars.trimStart line.toList).head? ≠ some marker := by
  unfold declaration?
  cases Chars.trimStart line.toList with
  | nil => simp
  | cons first rest => by_cases same : first = marker <;> simp [same]

theorem exists_declares_iff :
    (∃ text, Declares marker line label text) ↔ label ≠ "" ∧ declared? marker line = some label := by
  rw [declared?, declaration?]
  constructor
  · rintro ⟨text, named, rest, marked, split⟩
    refine ⟨named, ?_⟩
    simp [marked, split]
  · rintro ⟨named, declared⟩
    obtain ⟨declaration, found, first⟩ := Option.map_eq_some_iff.mp declared
    split at found
    · rename_i front rest marked
      split at found
      · rename_i same
        obtain rfl := Option.some.inj found
        exact ⟨_, named, rest, same ▸ marked, Prod.ext first rfl⟩
      · simp at found
    · simp at found

theorem Declares.command?_eq (declares : Declares marker line label text) :
    command? marker line = if text = "" then none else some text := by
  obtain ⟨-, rest, marked, split⟩ := declares
  simp [command?, declaration?_eq_some marked, split]

theorem readLine_of_blank {rest : List Char} (marked : Chars.trimStart line.toList = marker :: rest)
    (blank : Text.isBlank (String.ofList rest) = true) (procedure : Procedure) :
    readLine marker procedure line = procedure := by
  have unnamed := Text.fst_splitFirstWord_eq_empty_iff.mpr blank
  simp [readLine, declaration?_eq_some marked, unnamed]

@[simp] theorem followedBy_empty (procedure : Procedure) : procedure.followedBy {} = procedure := by
  simp [followedBy]

theorem readLine_followedBy (first second : Procedure) (line : String) :
    readLine marker (first.followedBy second) line =
      first.followedBy (readLine marker second line) := by
  unfold readLine
  cases declaration? marker line with
  | none => simp [append, followedBy]
  | some declaration =>
      dsimp only
      split
      · rfl
      · split <;> simp [declare, append, followedBy]

theorem foldl_followedBy (first second : Procedure) (lines : List String) :
    lines.foldl (readLine marker) (first.followedBy second) =
      first.followedBy (lines.foldl (readLine marker) second) := by
  induction lines generalizing second with
  | nil => rfl
  | cons line others ih => rw [List.foldl_cons, List.foldl_cons, readLine_followedBy, ih]

theorem parse_append (marker : Char) (first second : List String) :
    parse marker (first ++ second) = (parse marker first).followedBy (parse marker second) := by
  rw [parse, List.foldl_append, ← parse, ← followedBy_empty (parse marker first), foldl_followedBy,
    followedBy_empty]
  rfl

theorem lookup_moved (offset : Nat) (labels : List (String × Nat)) (label : String) :
    (labels.map fun (label, index) => (label, offset + index)).lookup label =
      (labels.lookup label).map (offset + ·) := by
  induction labels with
  | nil => rfl
  | cons entry others ih =>
      rw [List.map_cons, List.lookup_cons, List.lookup_cons, ih]
      cases label == entry.1 <;> rfl

theorem label?_followedBy (first second : Procedure) (label : String) :
    (first.followedBy second).label? label =
      ((second.label? label).map (first.lines.length + ·)).or (first.label? label) := by
  rw [label?, followedBy, List.lookup_append, lookup_moved]
  rfl

theorem parse_cons (marker : Char) (line : String) (lines : List String) :
    parse marker (line :: lines) = (parse marker [line]).followedBy (parse marker lines) :=
  parse_append marker [line] lines

theorem label?_readLine_empty (procedure : Procedure) (line : String) :
    (readLine marker procedure line).label? "" = procedure.label? "" := by
  unfold readLine
  cases declaration? marker line with
  | none => rfl
  | some declaration =>
      dsimp only
      split
      · rfl
      · rename_i named
        have other : (Text.splitFirstWord declaration).1 ≠ "" := by simpa using named
        have passed := label?_declare procedure (Text.splitFirstWord declaration).1 ""
        rw [if_neg other] at passed
        split
        · exact passed
        · exact passed

theorem label?_single_eq_some_iff :
    (parse marker [line]).label? label = some index ↔
      (∃ text, Declares marker line label text) ∧ index = 0 := by
  rw [exists_declares_iff, parse, List.foldl_cons, List.foldl_nil]
  by_cases named : label = ""
  · rw [named, label?_readLine_empty]
    simp [label?]
  · rw [label?_readLine _ _ named]
    split
    · rename_i declared
      simp [named, declared, eq_comm]
    · rename_i other
      simp [other, label?]

theorem label?_isSome_iff :
    ((parse marker lines).label? label).isSome ↔
      ∃ line ∈ lines, ∃ text, Declares marker line label text := by
  induction lines with
  | nil => simp [parse, label?]
  | cons line others ih =>
      rw [parse_cons, label?_followedBy, Option.isSome_or, Bool.or_eq_true, Option.isSome_map, ih,
        Option.isSome_iff_exists]
      simp only [label?_single_eq_some_iff, exists_eq_right, List.exists_mem_cons_iff, or_comm]

theorem label?_le_length (known : (parse marker lines).label? label = some index) :
    index ≤ (parse marker lines).lines.length := by
  induction lines generalizing index with
  | nil => simp [parse, label?] at known
  | cons line others ih =>
      rw [parse_cons, label?_followedBy, Option.or_eq_some_iff, Option.map_eq_some_iff] at known
      rw [parse_cons, followedBy, List.length_append]
      rcases known with ⟨later, found, rfl⟩ | ⟨-, single⟩
      · exact Nat.add_le_add_left (ih found) _
      · rw [(label?_single_eq_some_iff.mp single).2]
        exact Nat.zero_le _

theorem label?_last {before behind : List String} (declares : Declares marker line label text)
    (last : ∀ other ∈ behind, ∀ text, ¬ Declares marker other label text) :
    (parse marker (before ++ line :: behind)).label? label = some (parse marker before).lines.length := by
  have here : (parse marker [line]).label? label = some 0 :=
    label?_single_eq_some_iff.mpr ⟨⟨text, declares⟩, rfl⟩
  have later : (parse marker behind).label? label = none := by
    rw [← Option.not_isSome_iff_eq_none, label?_isSome_iff]
    rintro ⟨other, member, text, again⟩
    exact last other member text again
  rw [parse_append, parse_cons, label?_followedBy, label?_followedBy, here, later]
  rfl

/-- Lines that are read one behind the other give their commands one behind the other, and the labels of
the later ones are moved by the number of the earlier commands and win. So a label is known if a line
declares it, it stands within the commands or at their end, and from there on come the commands of the
lines from its last declaration on, its own text first. A line without the marker is kept as it is, and a
marker without a label counts for nothing. -/
theorem parse_shifts_labels (marker : Char) :
    (∀ first second,
      (parse marker (first ++ second)).lines =
        (parse marker first).lines ++ (parse marker second).lines ∧
      ∀ label, (parse marker (first ++ second)).label? label =
        (((parse marker second).label? label).map ((parse marker first).lines.length + ·)).or
          ((parse marker first).label? label)) ∧
    (∀ lines label, ((parse marker lines).label? label).isSome ↔
      ∃ line ∈ lines, ∃ text, Declares marker line label text) ∧
    (∀ lines label index, (parse marker lines).label? label = some index →
      index ≤ (parse marker lines).lines.length) ∧
    (∀ before line behind label text, Declares marker line label text →
      (∀ other ∈ behind, ∀ text, ¬ Declares marker other label text) →
      ∃ index, (parse marker (before ++ line :: behind)).label? label = some index ∧
        (parse marker (before ++ line :: behind)).lines.drop index =
          (parse marker (line :: behind)).lines ∧
        (parse marker (line :: behind)).lines =
          (if text = "" then [] else [text]) ++ (parse marker behind).lines) ∧
    (∀ before line behind, (Chars.trimStart line.toList).head? ≠ some marker →
      (parse marker (before ++ line :: behind)).lines =
        (parse marker before).lines ++ line :: (parse marker behind).lines) ∧
    ∀ before line behind rest, Chars.trimStart line.toList = marker :: rest →
      Text.isBlank (String.ofList rest) = true →
      parse marker (before ++ line :: behind) = parse marker (before ++ behind) := by
  refine ⟨fun first second => ?_, fun lines label => label?_isSome_iff,
    fun lines label index => label?_le_length, ?_, ?_, ?_⟩
  · rw [parse_append]
    exact ⟨rfl, label?_followedBy _ _⟩
  · intro before line behind label text declares last
    refine ⟨_, label?_last declares last, ?_, ?_⟩
    · rw [parse_append, followedBy, List.drop_left]
    · rw [lines_parse, lines_parse, List.filterMap_cons, declares.command?_eq]
      by_cases silent : text = ""
      · rw [if_pos silent, if_pos silent]
        rfl
      · rw [if_neg silent, if_neg silent]
        rfl
  · intro before line behind plain
    have kept : command? marker line = some line := by
      rw [command?, declaration?_eq_none_iff.mpr plain]
    rw [lines_parse, lines_parse, lines_parse, List.filterMap_append, List.filterMap_cons_some kept]
  · intro before line behind rest marked blank
    rw [parse, List.foldl_append, List.foldl_cons, readLine_of_blank marked blank, parse,
      List.foldl_append]

theorem parse_shifts_labels_of_trailing_label :
    let line := "  :l\t c d"
    let behind := [":  ", " e ", ":end"]
    let whole := parse ':' (["a", ":l b"] ++ line :: behind)
    (∃ index, whole.label? "l" = some index ∧
        whole.lines.drop index = (parse ':' (line :: behind)).lines ∧
        (parse ':' (line :: behind)).lines = ["c d"] ++ (parse ':' behind).lines) ∧
      4 ≤ whole.lines.length ∧
      (parse ':' behind).lines = (parse ':' [":  "]).lines ++ " e " :: (parse ':' [":end"]).lines ∧
      parse ':' behind = parse ':' [" e ", ":end"] := by
  intro line behind whole
  have declares : Declares ':' line "l" "c d" := ⟨by decide, "l\t c d".toList, by decide, by decide⟩
  have last : ∀ other ∈ behind, ∀ text, ¬ Declares ':' other "l" text := by
    have unlike : ∀ other ∈ behind, declared? ':' other ≠ some "l" := by decide
    exact fun other member text again =>
      unlike other member (exists_declares_iff.mp ⟨text, again⟩).2
  obtain ⟨-, -, within, labels, plain, nameless⟩ := parse_shifts_labels ':'
  refine ⟨labels ["a", ":l b"] line behind "l" "c d" declares last, ?_, ?_, ?_⟩
  · exact within (["a", ":l b"] ++ line :: behind) "end" 4 (by decide)
  · exact plain [":  "] " e " [":end"] (by decide)
  · exact nameless [] ":  " [" e ", ":end"] "  ".toList (by decide) (by decide)

end Procedure

end MenuShell

import MenuShell.Proofs.Records.Overlaying

/-!
Which record is meant. A store answers for one name among those that it lists, and which one that is
rests on the set of these names alone: neither the order in which records were added matters, nor
what else has been added where the very name that is wanted is stored.
-/

namespace MenuShell

namespace RecordStore

variable {store twin : RecordStore} {path name other wanted : String} {files later : FileSystem}
  {place : Place} {lines : List String} {records : List (String × List String)} {calls : List Call}

def record : RecordStore → String → Except Failure (List String)
  | .memory records, name => .ok ((records.lookup name).getD [])
  | .folder path files, name => readFile path files name

theorem names_pairwise (store : RecordStore) : store.names.Pairwise (· ≤ ·) := by
  cases store with
  | memory records => exact sortTexts_pairwise _
  | folder path files =>
      rw [names]
      split
      · exact sortTexts_pairwise _
      · exact .nil

theorem mem_names_memory :
    name ∈ names (.memory records) ↔ ∃ lines, records.lookup name = some lines := by
  rw [names, mem_sortTexts, ← Option.isSome_iff_exists, List.lookup_isSome_iff, List.mem_map]
  constructor
  · rintro ⟨record, member, rfl⟩
    exact ⟨record, member, beq_self_eq_true _⟩
  · rintro ⟨record, member, same⟩
    exact ⟨record, member, (beq_iff_eq.mp same).symm⟩

theorem mem_names_leads {folder : Place} (leads : files.LeadsTo path folder) :
    name ∈ names (.folder path files) ↔
      ∃ bytes, (folder ++ [name], .file bytes) ∈ files.itemsAt (folder ++ [name]) := by
  rw [names, if_pos (FileSystem.isFolder_iff.mpr ⟨folder, leads⟩), leads.mem_fileNames_iff]

theorem get_of_select? (selected : RecordName.select? store.names wanted = some name) :
    store.get wanted = store.record name := by
  cases store <;> simp only [get, selected, record]

theorem get_of_select?_none (none : RecordName.select? store.names wanted = none) :
    store.get wanted = .error (.ofError (.recordNotFound wanted)) := by
  simp only [get, none]

theorem record_ne_recordNotFound (store : RecordStore) (name wanted : String) :
    store.record name ≠ .error (.ofError (.recordNotFound wanted)) := by
  cases store with
  | memory records => simp [record]
  | folder path files =>
      rw [record, readFile]
      split
      · simp [Failure.during, Failure.ofMessage, Failure.ofError]
      · split <;> simp [Failure.during, Failure.ofMessage, Failure.ofError]

theorem get_congr (names : ∀ name, name ∈ store.names ↔ name ∈ twin.names)
    (records : ∀ name ∈ store.names, store.record name = twin.record name) (wanted : String) :
    store.get wanted = twin.get wanted := by
  have same := RecordName.select?_congr store.names_pairwise twin.names_pairwise names wanted
  cases selected : RecordName.select? store.names wanted with
  | none => rw [get_of_select?_none selected, get_of_select?_none (same ▸ selected)]
  | some name =>
      rw [get_of_select? selected, get_of_select? (same ▸ selected)]
      exact records name (RecordName.mem_of_select? selected)

theorem get_eq_of_agree {others : FileSystem} (leads : files.LeadsTo path place)
    (also : others.LeadsTo path place) (agree : files.Agree others) (wanted : String) :
    (folder path files).get wanted = (folder path others).get wanted := by
  refine get_congr (fun name => ?_) (fun name _ => ?_) wanted
  · rw [mem_names_leads leads, mem_names_leads also, agree.items]
  · simp only [record, readFile, agree.read_eq]

theorem get_eq_of_lookup {others : List (String × List String)}
    (same : ∀ name, records.lookup name = others.lookup name) (wanted : String) :
    (memory records).get wanted = (memory others).get wanted := by
  refine get_congr (fun name => ?_) (fun name _ => ?_) wanted
  · rw [mem_names_memory, mem_names_memory, same]
  · simp only [record, same]

theorem after_of_no_add (store : RecordStore) (untouched : ∀ name lines, .add name lines ∉ calls) :
    store.after calls = store := by
  induction calls with
  | nil => rfl
  | cons call calls ih =>
      have rest : ∀ name lines, .add name lines ∉ calls :=
        fun name lines member => untouched name lines (List.mem_cons_of_mem _ member)
      cases call with
      | add name lines => exact absurd List.mem_cons_self (untouched name lines)
      | get _ => exact ih rest
      | names => exact ih rest

theorem exists_folder (path : String) (files : FileSystem) (calls : List Call) :
    ∃ later, (folder path files).after calls = folder path later := by
  induction calls generalizing files with
  | nil => exact ⟨files, rfl⟩
  | cons call calls ih =>
      cases call with
      | add name lines =>
          rw [after_cons, answer]
          rcases add_folder_cases path files name lines with ⟨_, made, refused⟩ |
            ⟨_, written, -, -, -, stored⟩
          · rw [refused]
            exact ih made
          · rw [stored]
            exact ih written
      | get _ => exact ih files
      | names => exact ih files

theorem get_of_empty_path (files : FileSystem) (wanted : String) :
    (folder "" files).get wanted = .error (.ofError (.recordNotFound wanted)) := by
  have none : ¬files.isFolder "" = true := by
    rw [FileSystem.isFolder_iff]
    rintro ⟨place, leads⟩
    exact leads.path_ne_empty rfl
  have unnamed : names (.folder "" files) = [] := by rw [names, if_neg none]
  apply get_of_select?_none
  rw [unnamed, RecordName.select?_eq_none_iff]
  simp

theorem makeable_of_accepted (named : path ≠ "")
    (accepted : ∀ failure, .added (.error failure) ∉ (folder path files).answers calls)
    (some : ∃ name lines, .add name lines ∈ calls) :
    ∃ name lines, .add name lines ∈ calls ∧ RecordName.isValid name = true ∧
      ∃ made place, files.makeFolders path = (.ok (), made) ∧ made.LeadsTo path place := by
  induction calls with
  | nil => simp at some
  | cons call calls ih =>
      rw [answers] at accepted
      cases call with
      | add name lines =>
          rcases add_folder_cases path files name lines with ⟨failure, _, refused⟩ |
            ⟨made, _, valid, makeable, wrote, -⟩
          · exact absurd (by simp [answer, refused]) (accepted failure)
          · obtain ⟨place, leads, -⟩ :=
              FileSystem.write_join_ok named (RecordName.isPart_of_isValid valid) wrote
            exact ⟨name, lines, List.mem_cons_self, valid, made, place, makeable, leads⟩
      | get _ | names =>
          obtain ⟨name, lines, member⟩ := some
          have later : .add name lines ∈ calls := by simpa using member
          obtain ⟨name, lines, member, rest⟩ :=
            ih (fun failure => (accepted failure ∘ List.mem_cons_of_mem _)) ⟨name, lines, later⟩
          exact ⟨name, lines, List.mem_cons_of_mem _ member, rest⟩

theorem after_of_makeable {made : FileSystem} (makeable : files.makeFolders path = (.ok (), made))
    (leads : made.LeadsTo path place) (valid : RecordName.isValid name = true)
    (member : .add name lines ∈ calls) :
    (folder path files).after calls = (folder path made).after calls := by
  induction calls with
  | nil => simp at member
  | cons call calls ih =>
      cases call with
      | add other others =>
          rw [after_cons, after_cons, answer, answer]
          cases checked : RecordName.check other with
          | error failure =>
              have later : .add name lines ∈ calls := by
                rcases List.mem_cons.mp member with same | later
                · obtain ⟨rfl, -⟩ := Call.add.inj same
                  rw [RecordName.check_eq_ok_iff.mpr valid] at checked
                  cases checked
                · exact later
              simp only [add, checked]
              exact ih later
          | ok _ => simp only [add, checked, makeable, leads.makeFolders_eq]
      | get _ | names => exact ih (by simpa using member)

theorem get_after_congr {first second : List Call}
    (accepted : ∀ failure, .added (.error failure) ∉ store.answers first)
    (same : ∀ name, lastAdded name first = lastAdded name second) (wanted : String) :
    (store.after first).get wanted = (store.after second).get wanted := by
  cases store with
  | memory records =>
      obtain ⟨later, left, looked⟩ := after_memory records first
      obtain ⟨others, right, alsoLooked⟩ := after_memory records second
      rw [left, right]
      exact get_eq_of_lookup (fun name => by rw [looked, alsoLooked, same]) wanted
  | folder path files =>
      by_cases named : path = ""
      · subst named
        obtain ⟨later, left⟩ := exists_folder "" files first
        obtain ⟨others, right⟩ := exists_folder "" files second
        rw [left, right, get_of_empty_path, get_of_empty_path]
      by_cases some : ∃ name lines, .add name lines ∈ first
      · obtain ⟨name, lines, member, valid, made, place, makeable, leads⟩ :=
          makeable_of_accepted named accepted some
        obtain ⟨more, also⟩ : ∃ more, .add name more ∈ second := by
          by_contra none
          have missing := lastAdded_eq_none_iff.mpr (not_exists.mp none)
          exact lastAdded_eq_none_iff.mp ((same name).trans missing) lines member
        obtain ⟨later, left, overlaid⟩ := after_folder leads first
        obtain ⟨others, right, alsoOverlaid⟩ := after_folder leads second
        rw [after_of_makeable makeable leads valid member, after_of_makeable makeable leads valid also,
          left, right]
        exact get_eq_of_agree overlaid.leads alsoOverlaid.leads (overlaid.agree alsoOverlaid same) wanted
      · have untouched : ∀ name lines, .add name lines ∉ first := by simpa using some
        have alsoUntouched : ∀ name lines, .add name lines ∉ second := by
          intro name
          rw [← lastAdded_eq_none_iff, ← same, lastAdded_eq_none_iff]
          exact untouched name
        rw [after_of_no_add _ untouched, after_of_no_add _ alsoUntouched]

theorem get_after_of_untouched (member : name ∈ store.names) (part : FileSystem.IsPart name)
    (untouched : ∀ lines, .add name lines ∉ calls) :
    (store.after calls).get name = store.get name := by
  have none := lastAdded_eq_none_iff.mpr untouched
  have sameRecord : name ∈ (store.after calls).names ∧
      (store.after calls).record name = store.record name := by
    cases store with
    | memory records =>
        obtain ⟨later, same, looked⟩ := after_memory records calls
        have kept : later.lookup name = records.lookup name := by simp [looked, none]
        rw [same, mem_names_memory, kept, ← mem_names_memory, record, record, kept]
        exact ⟨member, rfl⟩
    | folder path files =>
        obtain ⟨place, leads⟩ : ∃ place, files.LeadsTo path place := by
          rw [← FileSystem.isFolder_iff]
          by_contra missing
          simp [names, missing] at member
        obtain ⟨later, same, overlaid⟩ := after_folder leads calls
        have kept : later.itemsAt (place ++ [name]) = files.itemsAt (place ++ [name]) := by
          refine overlaid.kept _ fun other _ here => ?_
          obtain rfl : name = other := by simpa using here
          exact none
        have read := overlaid.leads.read_join_congr leads part (FileSystem.entry?_congr kept)
        rw [same, mem_names_leads overlaid.leads, kept, ← mem_names_leads leads, record, record,
          readFile, readFile, read]
        exact ⟨member, rfl⟩
  rw [get_of_select? (RecordName.select?_of_mem sameRecord.1), sameRecord.2,
    get_of_select? (RecordName.select?_of_mem member)]

inductive Gives (name : String) : RecordStore → Except Failure (List String) → Prop
  | memory {records : List (String × List String)} {lines : List String} :
      records.lookup name = some lines → Gives name (.memory records) (.ok lines)
  | folder {path : String} {files : FileSystem} : name ∈ names (.folder path files) →
      Gives name (.folder path files) (readFile path files name)

theorem gives_record (member : name ∈ store.names) : Gives name store (store.record name) := by
  cases store with
  | memory records =>
      obtain ⟨lines, found⟩ := mem_names_memory.mp member
      have same : (memory records).record name = .ok lines := by rw [record, found, Option.getD_some]
      rw [same]
      exact .memory found
  | folder path files => exact .folder member

theorem get_eq_recordNotFound_iff :
    store.get wanted = .error (.ofError (.recordNotFound wanted)) ↔
      ∀ name ∈ store.names, ¬RecordName.Qualifies wanted name := by
  rw [← RecordName.select?_eq_none_iff]
  constructor
  · intro missing
    by_contra some
    obtain ⟨name, selected⟩ := Option.ne_none_iff_exists'.mp some
    rw [get_of_select? selected] at missing
    exact record_ne_recordNotFound store name wanted missing
  · exact get_of_select?_none

theorem gives_of_refers (refers : RecordName.Refers (· ∈ store.names) wanted name) :
    Gives name store (store.get wanted) := by
  rw [get_of_select? ((RecordName.select?_eq_some_iff store.names_pairwise).mpr refers)]
  exact gives_record refers.mem

theorem existsUnique_refers (some : ∃ name ∈ store.names, RecordName.Qualifies wanted name) :
    ∃! name, RecordName.Refers (· ∈ store.names) wanted name := by
  have chosen : RecordName.select? store.names wanted ≠ none := by
    obtain ⟨name, member, qualifies⟩ := some
    exact fun none => RecordName.select?_eq_none_iff.mp none name member qualifies
  obtain ⟨name, selected⟩ := Option.ne_none_iff_exists'.mp chosen
  refine ⟨name, (RecordName.select?_eq_some_iff store.names_pairwise).mp selected, ?_⟩
  intro other refers
  have also := (RecordName.select?_eq_some_iff store.names_pairwise).mpr refers
  exact Option.some.inj (also.symm.trans selected)

/-- The record of the name that a wanted one refers to is what is found, and there is exactly one such
name unless none is stored that begins or goes on like the wanted one; only then nothing is found.
The order in which records were added does not matter, but only which lines were added last under
each name. A name that is stored always gives its own record, whatever is added under other names,
and every part of a stored name finds a record. -/
theorem get_answers_for_one_name (store : RecordStore) (wanted : String) :
    ((∃ name ∈ store.names, RecordName.Qualifies wanted name) →
        ∃! name, RecordName.Refers (· ∈ store.names) wanted name) ∧
      (∀ name, RecordName.Refers (· ∈ store.names) wanted name →
        Gives name store (store.get wanted)) ∧
      (store.get wanted = .error (.ofError (.recordNotFound wanted)) ↔
        ∀ name ∈ store.names, ¬RecordName.Qualifies wanted name) ∧
      (∀ first second, (∀ failure, .added (.error failure) ∉ store.answers first) →
        (∀ name, lastAdded name first = lastAdded name second) →
        (store.after first).get wanted = (store.after second).get wanted) ∧
      (wanted ∈ store.names → FileSystem.IsPart wanted →
        ∀ calls, (∀ lines, .add wanted lines ∉ calls) →
          (store.after calls).get wanted = store.get wanted) ∧
      ∀ name ∈ store.names, wanted.toList <:+: name.toList →
        ∃ found, Gives found store (store.get wanted) := by
  refine ⟨existsUnique_refers, fun name => gives_of_refers, get_eq_recordNotFound_iff, ?_, ?_, ?_⟩
  · intro first second accepted same
    exact get_after_congr accepted same wanted
  · intro member part calls untouched
    exact get_after_of_untouched member part untouched
  · intro name member part
    obtain ⟨found, refers, -⟩ := existsUnique_refers ⟨name, member, .inr (.inr part)⟩
    exact ⟨found, gives_of_refers refers⟩

theorem get_answers_for_one_name_of_other_case :
    let store := (folder "Records" {}).after [.add "gamma-ray" ["one"], .add "Gamma" ["two"]]
    (∃! name, RecordName.Refers (· ∈ store.names) "GAMMA" name) ∧
      Gives "Gamma" store (store.get "GAMMA") ∧
      (store.after [.add "a" ["x"], .add "GAM" ["y"]]).get "GAMMA" =
        (store.after [.add "GAM" ["y"], .names, .add "a" ["x"]]).get "GAMMA" ∧
      (store.after [.add "Gam" ["x"]]).get "Gamma" = store.get "Gamma" ∧
      ∃ found, Gives found store (store.get "ray") := by
  intro store
  have listed : store.names = ["Gamma", "gamma-ray"] := by decide +kernel
  have selected : RecordName.select? store.names "GAMMA" = some "Gamma" := by decide +kernel
  have refers := (RecordName.select?_eq_some_iff store.names_pairwise).mp selected
  have accepted : ∀ failure,
      .added (.error failure) ∉ store.answers [.add "a" ["x"], .add "GAM" ["y"]] := by
    have answers : store.answers [.add "a" ["x"], .add "GAM" ["y"]] =
        [.added (.ok ()), .added (.ok ())] := by
      decide +kernel
    simp [answers]
  have same : ∀ name, lastAdded name [.add "a" ["x"], .add "GAM" ["y"]] =
      lastAdded name [.add "GAM" ["y"], .names, .add "a" ["x"]] := by
    intro name
    simp only [lastAdded]
    by_cases first : "a" = name
    · subst first
      rfl
    · simp [first]
  obtain ⟨unique, given, -, ordered, -, -⟩ := get_answers_for_one_name store "GAMMA"
  obtain ⟨-, -, -, -, exact, -⟩ := get_answers_for_one_name store "Gamma"
  obtain ⟨-, -, -, -, -, parts⟩ := get_answers_for_one_name store "ray"
  refine ⟨unique ⟨"Gamma", by simp [listed], .inr (.inl ?_)⟩, given "Gamma" refers,
    ordered _ _ accepted same, ?_, ?_⟩
  · rw [← RecordName.startsLike_iff]
    decide +kernel
  · refine exact (by simp [listed]) (RecordName.isPart_of_isValid (by decide +kernel)) _ ?_
    simp
  · refine parts "gamma-ray" (by simp [listed]) ?_
    exact ⟨"gamma-".toList, [], by decide +kernel⟩

end RecordStore

end MenuShell

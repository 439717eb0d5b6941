import MenuShell.Proofs.Records.Keeping

/-!
A folder in place of memory. Over a folder that is only made when it is needed, and that nothing else
touches, every sequence of calls is answered as from memory, errors and all. The one thing that a file
cannot hold is a record without lines: it comes back as a record of one empty line.
-/

namespace MenuShell

namespace RecordStore

inductive Call where
  | add (name : String) (lines : List String)
  | get (wanted : String)
  | names
deriving DecidableEq, Repr

inductive Answer where
  | added (result : Except Failure Unit)
  | got (result : Except Failure (List String))
  | listed (names : List String)
deriving DecidableEq, Repr

def answer (store : RecordStore) : Call → Answer × RecordStore
  | .add name lines => (.added (store.add name lines).1, (store.add name lines).2)
  | .get wanted => (.got (store.get wanted), store)
  | .names => (.listed store.names, store)

def answers : RecordStore → List Call → List Answer
  | _, [] => []
  | store, call :: calls => (store.answer call).1 :: answers (store.answer call).2 calls

def after (store : RecordStore) (calls : List Call) : RecordStore :=
  calls.foldl (fun current call => (current.answer call).2) store

namespace Call

/-- The name and the lines can be written to a file and read again. -/
def Fits : Call → Prop
  | .add name lines =>
    '\x00' ∉ name.toList ∧ name.utf8ByteSize ≤ FileSystem.nameLimit ∧
      ∀ line ∈ lines, Text.IsLine line
  | .get _ | .names => True

instance : (call : Call) → Decidable call.Fits
  | .add name lines => inferInstanceAs (Decidable ('\x00' ∉ name.toList ∧
      name.utf8ByteSize ≤ FileSystem.nameLimit ∧ ∀ line ∈ lines, Text.IsLine line))
  | .get _ | .names => inferInstanceAs (Decidable True)

def kept : Call → Call
  | .add name lines => .add name (held lines)
  | call => call

end Call

structure Absent (files : FileSystem) (path : String) : Prop where
  missing : files.isFolder path = false
  makeable : (files.makeFolders path).1 = .ok ()
  made : (files.makeFolders path).2.isFolder path = true
  blank : (files.makeFolders path).2.content path = []

def stored (record : String × List String) : String × Entry :=
  (record.1, .file (Text.encode (text record.2)))

/-- The folder holds a file for each record that memory holds, and nothing else. -/
structure Mirrors (path : String) (files : FileSystem) (records : List (String × List String)) :
    Prop where
  there : ∃ folder, files.LeadsTo path folder
  content : files.content path = records.map stored
  taken : ∀ name lines, (name, lines) ∈ records → FileSystem.Takes path name
  legible : ∀ name lines, (name, lines) ∈ records → Text.lines (text lines) = lines

variable {path name wanted : String} {files : FileSystem} {lines : List String}
  {records : List (String × List String)}

theorem lookup_stored (records : List (String × List String)) (name : String) :
    (records.map stored).lookup name =
      (records.lookup name).map fun lines => Entry.file (Text.encode (text lines)) := by
  induction records with
  | nil => rfl
  | cons record records ih =>
      obtain ⟨first, lines⟩ := record
      rw [List.map_cons, stored, List.lookup_cons, List.lookup_cons, ih]
      cases name == first <;> rfl

namespace Mirrors

theorem names_eq (mirrors : Mirrors path files records) :
    names (.folder path files) = names (.memory records) := by
  have listed : (records.map stored).filterMap FileSystem.fileName? = records.map Prod.fst := by
    rw [List.filterMap_map, ← List.filterMap_eq_map]
    rfl
  simp only [names, FileSystem.isFolder_iff.mpr mirrors.there, if_true, FileSystem.fileNames,
    mirrors.content, listed]

theorem get_eq (mirrors : Mirrors path files records) (wanted : String) :
    get (.folder path files) wanted = get (.memory records) wanted := by
  rw [get, get, mirrors.names_eq]
  cases selected : RecordName.select? (names (.memory records)) wanted with
  | none => rfl
  | some name =>
      obtain ⟨folder, leads⟩ := mirrors.there
      have member := RecordName.mem_of_select? selected
      rw [names, sortTexts, mem_sortBy] at member
      obtain ⟨lines, found⟩ : ∃ lines, records.lookup name = some lines := by
        obtain ⟨record, listed, same⟩ := List.mem_map.mp member
        rw [← Option.isSome_iff_exists, List.lookup_isSome_iff]
        exact ⟨record, listed, by simp [same]⟩
      have record := mem_of_lookup found
      have there : files.entry? (folder ++ [name]) = some (.file (Text.encode (text lines))) := by
        rw [leads.entry?_eq_lookup, mirrors.content, lookup_stored, found]
        rfl
      have located := leads.locate_join (mirrors.taken name lines record)
      have read := FileSystem.read_of_located located there
      have same := mirrors.legible name lines record
      simp only [readFile, read, Text.decode?_encode, same, found, Option.getD_some]

theorem add (mirrors : Mirrors path files records) (room : FileSystem.HasRoom path)
    (fits : (Call.add name lines).Fits) (valid : RecordName.check name = .ok ()) :
    ∃ later, (folder path files).add name lines = (.ok (), folder path later) ∧
      Mirrors path later ((name, held lines) :: records.filter fun record => record.1 ≠ name) := by
  obtain ⟨place, leads⟩ := mirrors.there
  obtain ⟨clear, short, legible⟩ := fits
  have part := RecordName.isPart_of_isValid (RecordName.check_eq_ok_iff.mp valid)
  have checked := (FileSystem.locate_eq_ok_iff.mp leads.located).1
  have takes := FileSystem.takes_of_room checked room part clear short
  have vacant : files.entry? (place ++ [name]) ≠ some .folder := by
    rw [leads.entry?_eq_lookup, mirrors.content, lookup_stored]
    cases records.lookup name <;> simp
  have wrote := leads.write_join takes vacant (Text.encode (text lines))
  refine ⟨files.insert (place ++ [name]) (.file (Text.encode (text lines))), ?_, ?_⟩
  · simp only [RecordStore.add, valid, leads.makeFolders_eq, wrote]
  refine ⟨⟨place, leads.insert vacant⟩, ?_, ?_, ?_⟩
  · rw [leads.content_insert vacant, mirrors.content, List.map_cons, stored, text_held,
      List.filter_map]
    rfl
  · intro other others member
    rcases List.mem_cons.mp member with same | old
    · obtain ⟨rfl, rfl⟩ := Prod.mk.inj same
      exact takes
    · exact mirrors.taken other others (List.mem_of_mem_filter old)
  · intro other others member
    rcases List.mem_cons.mp member with same | old
    · obtain ⟨rfl, rfl⟩ := Prod.mk.inj same
      rw [text_held, lines_text legible]
    · exact mirrors.legible other others (List.mem_of_mem_filter old)

end Mirrors

theorem Absent.mirrors (absent : Absent files path) :
    Mirrors path (files.makeFolders path).2 [] :=
  ⟨FileSystem.isFolder_iff.mp absent.made, absent.blank, by simp, by simp⟩

inductive Alike (path : String) : RecordStore → RecordStore → Prop
  | absent {files : FileSystem} : Absent files path → Alike path (.folder path files) (.memory [])
  | mirrors {files : FileSystem} {records : List (String × List String)} :
      Mirrors path files records → Alike path (.folder path files) (.memory records)

namespace Alike

variable {store memory : RecordStore}

theorem names_eq (alike : Alike path store memory) : store.names = memory.names := by
  cases alike with
  | absent absent => simp [names, absent.missing, sortTexts, sortBy]
  | mirrors mirrors => exact mirrors.names_eq

theorem get_eq (alike : Alike path store memory) (wanted : String) :
    store.get wanted = memory.get wanted := by
  cases alike with
  | absent absent =>
      simp [get, names, absent.missing, sortTexts, sortBy, RecordName.select?]
  | mirrors mirrors => exact mirrors.get_eq wanted

theorem add (alike : Alike path store memory) (room : FileSystem.HasRoom path)
    (fits : (Call.add name lines).Fits) :
    (store.add name lines).1 = (memory.add name (held lines)).1 ∧
      Alike path (store.add name lines).2 (memory.add name (held lines)).2 := by
  cases valid : RecordName.check name with
  | error failure =>
      simp only [RecordStore.add, valid]
      exact ⟨trivial, alike⟩
  | ok _ =>
      cases alike with
      | @absent files absent =>
          -- The folder is made, and then the call is as over one that was there.
          have made : files.makeFolders path = (.ok (), (files.makeFolders path).2) :=
            Prod.ext absent.makeable rfl
          obtain ⟨folder, leads⟩ := absent.mirrors.there
          have same : (RecordStore.folder path files).add name lines =
              (RecordStore.folder path (files.makeFolders path).2).add name lines := by
            simp only [RecordStore.add, valid]
            rw [made]
            simp only [leads.makeFolders_eq]
          obtain ⟨later, added, mirrors⟩ := absent.mirrors.add room fits valid
          rw [same, added]
          simp only [RecordStore.add, valid]
          exact ⟨trivial, .mirrors mirrors⟩
      | mirrors mirrors =>
          obtain ⟨later, added, mirrors⟩ := mirrors.add room fits valid
          rw [added]
          simp only [RecordStore.add, valid]
          exact ⟨trivial, .mirrors mirrors⟩

theorem answer (alike : Alike path store memory) (room : FileSystem.HasRoom path) {call : Call}
    (fits : call.Fits) :
    (store.answer call).1 = (memory.answer call.kept).1 ∧
      Alike path (store.answer call).2 (memory.answer call.kept).2 := by
  cases call with
  | add name lines =>
      obtain ⟨same, still⟩ := alike.add room fits
      exact ⟨congrArg Answer.added same, still⟩
  | get wanted => exact ⟨congrArg Answer.got (alike.get_eq wanted), alike⟩
  | names => exact ⟨congrArg Answer.listed alike.names_eq, alike⟩

theorem answers (alike : Alike path store memory) (room : FileSystem.HasRoom path)
    {calls : List Call} (fits : ∀ call ∈ calls, call.Fits) :
    store.answers calls = memory.answers (calls.map Call.kept) ∧
      Alike path (store.after calls) (memory.after (calls.map Call.kept)) := by
  induction calls generalizing store memory with
  | nil => exact ⟨rfl, alike⟩
  | cons call calls ih =>
      obtain ⟨same, still⟩ := alike.answer room (fits call List.mem_cons_self)
      obtain ⟨others, last⟩ := ih still fun later member => fits later (List.mem_cons_of_mem _ member)
      refine ⟨?_, last⟩
      rw [List.map_cons, RecordStore.answers, RecordStore.answers, same, others]

end Alike

theorem Holds.after {store : RecordStore} (holds : Holds name lines store) {calls : List Call}
    (untouched : ∀ others, .add name others ∉ calls) : Holds name lines (store.after calls) := by
  induction calls generalizing store with
  | nil => exact holds
  | cons call calls ih =>
      have later : ∀ others, .add name others ∉ calls :=
        fun others member => untouched others (List.mem_cons_of_mem _ member)
      cases call with
      | add other others =>
          refine ih (holds.add_other ?_ others) later
          rintro rfl
          exact untouched others List.mem_cons_self
      | get _ => exact ih holds later
      | names => exact ih holds later

theorem after_append (store : RecordStore) (first second : List Call) :
    store.after (first ++ second) = (store.after first).after second :=
  List.foldl_append

theorem exists_memory (records : List (String × List String)) (calls : List Call) :
    ∃ later, (memory records).after calls = .memory later := by
  induction calls generalizing records with
  | nil => exact ⟨records, rfl⟩
  | cons call calls ih =>
      cases call with
      | add name lines =>
          have step : ∃ next, ((memory records).add name lines).2 = .memory next := by
            unfold add
            cases RecordName.check name with
            | error failure => exact ⟨records, rfl⟩
            | ok _ => exact ⟨_, rfl⟩
          obtain ⟨next, same⟩ := step
          have after : (memory records).after (.add name lines :: calls) =
              ((memory records).add name lines).2.after calls := rfl
          rw [after, same]
          exact ih next
      | get _ => exact ih records
      | names => exact ih records

theorem get_after_add (before between : List Call) (valid : RecordName.isValid name = true)
    (untouched : ∀ others, .add name others ∉ between) :
    (empty.after (before ++ .add name lines :: between)).get name = .ok lines := by
  obtain ⟨records, start⟩ := exists_memory [] before
  have added : ∃ next, ((memory records).add name lines).2 = .memory next ∧
      Holds name lines (.memory next) := by
    simp only [add, RecordName.check_eq_ok_iff.mpr valid]
    exact ⟨_, rfl, .memory (by simp)⟩
  obtain ⟨next, stored, holds⟩ := added
  have same : empty.after (before ++ .add name lines :: between) = (memory next).after between := by
    rw [after_append, empty, start, ← stored]
    rfl
  have kept := holds.after untouched
  obtain ⟨later, finish⟩ := exists_memory next between
  rw [finish] at kept
  cases kept with
  | memory found => rw [same, finish, get_of_lookup found]

theorem not_mem_map_kept {calls : List Call} (untouched : ∀ others, .add name others ∉ calls)
    (others : List String) : .add name others ∉ calls.map Call.kept := by
  intro member
  obtain ⟨call, listed, same⟩ := List.mem_map.mp member
  cases call with
  | add other lines =>
      obtain ⟨rfl, -⟩ := Call.add.inj same
      exact untouched lines listed
  | get _ => cases same
  | names => cases same

theorem kept_eq_self {calls : List Call} (present : ∀ name, .add name [] ∉ calls) :
    calls.map Call.kept = calls := by
  have same : ∀ call ∈ calls, call.kept = id call := by
    rintro (⟨name, lines⟩ | _ | _) member
    · have some : lines ≠ [] := by
        rintro rfl
        exact present name member
      rw [Call.kept, held_of_ne_nil some]
      rfl
    · rfl
    · rfl
  rw [List.map_congr_left same, List.map_id]

/-- Over a folder that is not there yet, all calls are answered as from memory, but that a record
without lines is stored as one with an empty line. So both give the same answers where no record is
empty, and a record comes back as it was until its name is used again. -/
theorem folder_answers_as_memory (absent : Absent files path) (room : FileSystem.HasRoom path)
    (calls : List Call) (fits : ∀ call ∈ calls, call.Fits) :
    (folder path files).answers calls = empty.answers (calls.map Call.kept) ∧
      ((∀ name, .add name [] ∉ calls) →
        (folder path files).answers calls = empty.answers calls) ∧
      ∀ before name lines between, calls = before ++ .add name lines :: between →
        RecordName.isValid name = true → (∀ others, .add name others ∉ between) →
        (empty.after calls).get name = .ok lines ∧
          ((folder path files).after calls).get name = .ok (held lines) := by
  obtain ⟨same, alike⟩ := (Alike.absent absent).answers room fits
  refine ⟨same, ?_, ?_⟩
  · intro present
    rw [same, kept_eq_self present]
    rfl
  · rintro before name lines between rfl valid untouched
    refine ⟨get_after_add before between valid untouched, ?_⟩
    rw [alike.get_eq, List.map_append, List.map_cons]
    exact get_after_add (before.map Call.kept) _ valid (not_mem_map_kept untouched)

theorem record_without_lines_differs :
    let calls := [Call.add "n" [], .get "n"]
    (folder "Records" {}).answers calls = [.added (.ok ()), .got (.ok [""])] ∧
      empty.answers calls = [.added (.ok ()), .got (.ok [])] := by
  decide +kernel

theorem folder_answers_as_memory_of_part_names :
    let calls := [Call.get "a", .add "a/b" ["x"], .add "session" ["one", "", "two", ""], .names,
      .get "SESS", .add "other" [], .add "session-2" ["three"], .get "session", .get "x"]
    (folder "Records" {}).answers calls = empty.answers (calls.map Call.kept) ∧
      ((folder "Records" {}).after calls).get "session" = .ok ["one", "", "two", ""] := by
  intro calls
  have absent : Absent {} "Records" := by
    constructor <;> decide +kernel
  have room : FileSystem.HasRoom "Records" := by
    unfold FileSystem.HasRoom
    decide +kernel
  obtain ⟨same, -, kept⟩ :=
    folder_answers_as_memory absent room calls (by decide +kernel)
  refine ⟨same, ?_⟩
  exact (kept [.get "a", .add "a/b" ["x"]] "session" ["one", "", "two", ""] _ rfl
    (by decide +kernel) (by simp)).2

end RecordStore

end MenuShell

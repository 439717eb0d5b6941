import MenuShell.Proofs.Records.Folder
import MenuShell.Proofs.Text.Encoding
import MenuShell.Records.Store

/-!
What a store keeps. A record that has been stored is found under its name, whatever other names begin
like it or contain it, until it is overwritten. From memory come the lines that were stored; a file
holds the same lines, but a record without any has become an empty line.
-/

namespace MenuShell

namespace RecordName

variable {names : List String} {name wanted : String}

theorem select?_of_mem (member : name ∈ names) : select? names name = some name := by
  rw [select?, if_pos (List.contains_iff_mem.mpr member)]

theorem mem_of_select? (selected : select? names wanted = some name) : name ∈ names := by
  unfold select? at selected
  split at selected
  · rename_i member
    rw [← Option.some.inj selected]
    exact List.contains_iff_mem.mp member
  · rcases Option.or_eq_some_iff.mp selected with found | ⟨-, found⟩
    · exact List.mem_of_find?_eq_some found
    · exact List.mem_of_find?_eq_some found

theorem check_eq_ok_iff : check name = .ok () ↔ isValid name = true := by
  unfold check
  split <;> simp_all

theorem isPart_of_isValid (valid : isValid name = true) : FileSystem.IsPart name := by
  simp only [isValid, Bool.and_eq_true, Bool.not_eq_true', bne_iff_ne, List.any_eq_false] at valid
  obtain ⟨⟨⟨present, chars⟩, dot⟩, dots⟩ := valid
  refine ⟨by simpa using present, ?_, dot, dots⟩
  intro slash
  simpa using chars '/' slash

end RecordName

namespace RecordStore

variable {name other : String} {lines : List String}

def held (lines : List String) : List String :=
  if lines.isEmpty then [""] else lines

theorem text_cons (line next : String) (others : List String) :
    text (line :: next :: others) = line ++ "\n" ++ text (next :: others) := by
  simp [text, String.intercalate_cons_cons, String.append_assoc]

theorem text_held (lines : List String) : text (held lines) = text lines := by
  cases lines <;> rfl

theorem lines_text (legible : ∀ line ∈ lines, Text.IsLine line) :
    Text.lines (text lines) = held lines := by
  cases lines with
  | nil => rfl
  | cons line others =>
      have present : held (line :: others) = line :: others := rfl
      rw [present]
      clear present
      induction others generalizing line with
      | nil =>
          have single : text [line] = line ++ "\n" ++ "" := by simp [text]
          rw [single, (legible line List.mem_cons_self).lines_append]
          rfl
      | cons next others ih =>
          rw [text_cons, (legible line List.mem_cons_self).lines_append,
            ih next fun other member => legible other (List.mem_cons_of_mem _ member)]

theorem held_of_ne_nil (present : lines ≠ []) : held lines = lines := by
  simp [held, present]

inductive Holds (name : String) (lines : List String) : RecordStore → Prop
  | memory {records : List (String × List String)} : records.lookup name = some lines →
      Holds name lines (.memory records)
  | folder {path : String} {files : FileSystem} {folder : Place} : files.LeadsTo path folder →
      files.locate (FileSystem.join path name) = .ok (folder ++ [name]) →
      files.entry? (folder ++ [name]) = some (.file (Text.encode (text lines))) →
      Holds name lines (.folder path files)

def returned (store : RecordStore) (lines : List String) : List String :=
  match store with
  | .memory _ => lines
  | .folder _ _ => held lines

/-- The empty path leads to no folder, though files can be written there. -/
def HasPath : RecordStore → Prop
  | .memory _ => True
  | .folder path _ => path ≠ ""

theorem mem_names_folder {path : String} {files : FileSystem} {folder : Place} {bytes : List UInt8}
    (leads : files.LeadsTo path folder)
    (there : files.entry? (folder ++ [name]) = some (.file bytes)) :
    name ∈ names (.folder path files) := by
  rw [leads.entry?_eq_lookup] at there
  have member : (name, .file bytes) ∈ files.content path := mem_of_lookup there
  rw [names, if_pos (FileSystem.isFolder_iff.mpr ⟨folder, leads⟩), FileSystem.fileNames,
    sortTexts, mem_sortBy, List.mem_filterMap]
  exact ⟨_, member, rfl⟩

theorem get_of_lookup {records : List (String × List String)}
    (stored : records.lookup name = some lines) : (memory records).get name = .ok lines := by
  have member : name ∈ names (.memory records) := by
    rw [names, sortTexts, mem_sortBy, List.mem_map]
    exact ⟨_, mem_of_lookup stored, rfl⟩
  simp [get, RecordName.select?_of_mem member, stored]

theorem Holds.get_eq {store : RecordStore} (holds : Holds name lines store)
    (legible : ∀ line ∈ lines, Text.IsLine line) :
    store.get name = .ok (store.returned lines) := by
  cases holds with
  | memory stored => exact get_of_lookup stored
  | folder leads located there =>
      have member := mem_names_folder leads there
      simp [get, RecordName.select?_of_mem member, readFile,
        FileSystem.read_of_located located there, Text.decode?_encode, lines_text legible, returned]

theorem Holds.add_other {store : RecordStore} (holds : Holds name lines store)
    (different : other ≠ name) (others : List String) :
    Holds name lines (store.add other others).2 := by
  unfold add
  cases checked : RecordName.check other with
  | error failure => exact holds
  | ok _ =>
      have part := RecordName.isPart_of_isValid (RecordName.check_eq_ok_iff.mp checked)
      cases holds with
      | memory stored =>
          refine .memory ?_
          rw [List.lookup_cons, beq_eq_false_iff_ne.mpr (Ne.symm different)]
          exact (lookup_filter_ne (Ne.symm different) _).trans stored
      | @folder path files folder leads located there =>
          simp only [leads.makeFolders_eq]
          cases wrote : files.write (FileSystem.join path other) (Text.encode (text others)) with
          | error error => exact .folder leads located there
          | ok written =>
              obtain ⟨place, also, -, vacant, rfl⟩ :=
                FileSystem.write_join_ok leads.path_ne_empty part wrote
              rw [leads.unique also] at vacant ⊢
              refine .folder (leads.insert vacant)
                (FileSystem.locate_insert located (by simp) vacant) ?_
              rw [FileSystem.entry?_insert (by simp), if_neg (by simpa using Ne.symm different), there]

theorem add_folder_cases (path : String) (files : FileSystem) (name : String) (lines : List String) :
    (∃ failure made, (folder path files).add name lines = (.error failure, folder path made)) ∨
      ∃ made written, RecordName.isValid name = true ∧ files.makeFolders path = (.ok (), made) ∧
        made.write (FileSystem.join path name) (Text.encode (text lines)) = .ok written ∧
        (folder path files).add name lines = (.ok (), folder path written) := by
  unfold add
  cases checked : RecordName.check name with
  | error failure => exact .inl ⟨failure, files, rfl⟩
  | ok _ =>
      have valid := RecordName.check_eq_ok_iff.mp checked
      rcases result : files.makeFolders path with ⟨error | ⟨⟨⟩⟩, made⟩
      · simp only [result]
        exact .inl ⟨_, made, rfl⟩
      · cases wrote : made.write (FileSystem.join path name) (Text.encode (text lines)) with
        | error error =>
            simp only [result, wrote]
            exact .inl ⟨_, made, rfl⟩
        | ok written =>
            simp only [result, wrote]
            exact .inr ⟨made, written, valid, rfl, wrote, rfl⟩

theorem holds_of_add {store : RecordStore} (named : store.HasPath)
    (added : (store.add name lines).1 = .ok ()) : Holds name lines (store.add name lines).2 := by
  cases store with
  | memory records =>
      unfold add at added ⊢
      cases checked : RecordName.check name with
      | error failure => simp [checked] at added
      | ok _ => exact .memory (by simp)
  | folder path files =>
      rcases add_folder_cases path files name lines with ⟨failure, made, refused⟩ |
        ⟨made, written, valid, -, wrote, stored⟩
      · simp [refused] at added
      · obtain ⟨folder, leads, takes, vacant, rfl⟩ :=
          FileSystem.write_join_ok named (RecordName.isPart_of_isValid valid) wrote
        rw [stored]
        refine .folder (leads.insert vacant) ((leads.insert vacant).locate_join takes) ?_
        rw [FileSystem.entry?_insert (by simp), if_pos rfl]

end RecordStore

end MenuShell

import MenuShell.Proofs.Records.Exchange
import MenuShell.Proofs.Records.Selecting

/-!
What a sequence of calls leaves in a store: under each name the lines that were added last, if any were
and the name can be written, and everything else as before.
-/

namespace MenuShell

theorem lookup_filter_eq {Key Value : Type} [BEq Key] [LawfulBEq Key]
    [DecidableEq Key] (items : List (Key × Value)) (key : Key) :
    (items.filter (·.1 = key)).lookup key = items.lookup key := by
  induction items with
  | nil => rfl
  | cons item items ih =>
      obtain ⟨first, value⟩ := item
      by_cases same : first = key
      · simp [same]
      · have different : (key == first) = false := beq_eq_false_iff_ne.mpr (Ne.symm same)
        simp only [List.filter_cons, same, decide_false, Bool.false_eq_true, if_false, ih,
          List.lookup_cons, different]

namespace FileSystem

variable {files others : FileSystem} {place spot folder : Place} {path name : String} {entry : Entry}

def itemsAt (files : FileSystem) (spot : Place) : List (Place × Entry) :=
  files.entries.filter (·.1 = spot)

theorem itemsAt_insert (other : Place) :
    (files.insert spot entry).itemsAt other =
      if other = spot then [(spot, entry)] else files.itemsAt other := by
  by_cases same : other = spot
  · subst same
    have none : (files.entries.filter (·.1 ≠ other)).filter (·.1 = other) = [] := by
      rw [List.filter_filter, List.filter_eq_nil_iff]
      simp
    simp only [itemsAt, insert, List.filter_cons, decide_true, if_true, none]
  · have kept : (files.entries.filter (·.1 ≠ spot)).filter (·.1 = other) =
        files.entries.filter (·.1 = other) := by
      rw [List.filter_filter]
      apply List.filter_congr
      rintro ⟨spot', entry⟩ -
      by_cases here : spot' = other <;> simp [here, same]
    simp only [itemsAt, insert, List.filter_cons, Ne.symm same, decide_false, Bool.false_eq_true,
      if_false, if_neg same, kept]

theorem entry?_congr (same : files.itemsAt spot = others.itemsAt spot) :
    files.entry? spot = others.entry? spot := by
  have looked := congrArg (List.lookup spot) same
  simp only [itemsAt, lookup_filter_eq] at looked
  simp only [ entry?, looked]

structure Agree (files others : FileSystem) : Prop where
  here : files.here = others.here
  items : ∀ spot, files.itemsAt spot = others.itemsAt spot

namespace Agree

theorem walk_eq (agree : Agree files others) (place : Place) (parts : List String) :
    files.walk place parts = others.walk place parts := by
  induction parts generalizing place with
  | nil => rfl
  | cons part parts ih =>
      simp only [walk, requireFolder, entry?_congr (agree.items place), ih]

theorem locate_eq (agree : Agree files others) (path : String) :
    files.locate path = others.locate path := by
  simp only [locate, start, agree.here, agree.walk_eq]

theorem find_eq (agree : Agree files others) (path : String) :
    files.find path = others.find path := by
  simp only [find, agree.locate_eq, entry?_congr (agree.items _)]

theorem read_eq (agree : Agree files others) (path : String) :
    files.read path = others.read path := by
  simp only [read, agree.find_eq]

end Agree

theorem LeadsTo.mem_fileNames_iff (leads : files.LeadsTo path folder) :
    name ∈ files.fileNames path ↔
      ∃ bytes, (folder ++ [name], .file bytes) ∈ files.itemsAt (folder ++ [name]) := by
  simp only [fileNames, mem_sortTexts, leads.content_eq, List.mem_filterMap, itemsAt,
    List.mem_filter, decide_true, and_true]
  constructor
  · rintro ⟨⟨other, entry⟩, ⟨⟨place, also⟩, member, named⟩, isFile⟩
    obtain ⟨other', placed, same⟩ := Option.map_eq_some_iff.mp named
    obtain ⟨rfl, rfl⟩ := Prod.mk.inj same
    cases also with
    | folder => simp [fileName?] at isFile
    | file bytes =>
        obtain rfl : other' = name := by simpa [fileName?] using isFile
        exact ⟨bytes, nameIn?_eq_some_iff.mp placed ▸ member⟩
  · rintro ⟨bytes, member⟩
    refine ⟨(name, .file bytes), ⟨_, member, ?_⟩, rfl⟩
    simp [nameIn?_eq_some_iff.mpr]

theorem walk_append_of_ok {front back : List String} {middle : Place}
    (walked : files.walk place front = .ok middle) :
    files.walk place (front ++ back) = files.walk middle back := by
  induction front generalizing place with
  | nil =>
      obtain rfl : place = middle := Except.ok.inj walked
      rfl
  | cons part front ih =>
      obtain ⟨isFolder, next, stepped, rest⟩ := walk_cons_eq_ok_iff.mp walked
      have opened := requireFolder_eq_ok_iff.mpr isFolder
      rw [List.cons_append, walk, opened, stepped]
      exact ih rest

theorem LeadsTo.locate_join_eq (leads : files.LeadsTo path folder) (part : IsPart name) :
    files.locate (join path name) = (do
      checkPath (join path name)
      step folder name) := by
  obtain ⟨above, joined, leadsTo⟩ := leadsTo_iff files leads.path_ne_empty part
  obtain ⟨-, walked, isFolder⟩ := (leadsTo folder).mp leads
  have opened := requireFolder_eq_ok_iff.mpr isFolder
  rw [locate, joined, walk_append_of_ok walked, walk, opened]
  cases step folder name <;> rfl

theorem LeadsTo.read_join_congr (leads : files.LeadsTo path folder)
    (also : others.LeadsTo path folder) (part : IsPart name)
    (same : files.entry? (folder ++ [name]) = others.entry? (folder ++ [name])) :
    files.read (join path name) = others.read (join path name) := by
  have found : files.find (join path name) = others.find (join path name) := by
    simp only [find, leads.locate_join_eq part, also.locate_join_eq part]
    cases checkPath (join path name) with
    | error error => rfl
    | ok _ =>
        have stepped : step folder name = .error .nameTooLong ∨
            step folder name = .ok (folder ++ [name]) := by
          rw [step, if_neg (by simp [part.present, part.proper.1]), if_neg part.proper.2]
          split <;> simp
        rcases stepped with refused | stepped
        · simp only [refused]
          rfl
        · simp only [stepped, bind, Except.bind, same]
  simp only [read, found]

end FileSystem

namespace RecordStore

variable {path name other : String} {files later : FileSystem} {place : Place} {lines : List String}
  {records : List (String × List String)} {calls : List Call}

def lastAdded (name : String) : List Call → Option (List String)
  | [] => none
  | .add other lines :: calls =>
    (lastAdded name calls).or (if other = name then some lines else none)
  | .get _ :: calls | .names :: calls => lastAdded name calls

theorem lastAdded_eq_none_iff : lastAdded name calls = none ↔ ∀ lines, .add name lines ∉ calls := by
  induction calls with
  | nil => simp [lastAdded]
  | cons call calls ih =>
      cases call with
      | add other others =>
          by_cases same : other = name
          · subst same
            have present : lastAdded other (.add other others :: calls) ≠ none := by simp [lastAdded]
            simpa [present] using ⟨others, fun new => absurd rfl new⟩
          · simp [lastAdded, ih, same, Ne.symm same]
      | get _ => simp [lastAdded, ih]
      | names => simp [lastAdded, ih]

theorem after_cons (store : RecordStore) (call : Call) (calls : List Call) :
    store.after (call :: calls) = (store.answer call).2.after calls :=
  rfl

theorem add_memory (records : List (String × List String)) (name : String) (lines : List String) :
    ∃ next, ((memory records).add name lines).2 = .memory next ∧
      ∀ other, next.lookup other =
        if other = name ∧ RecordName.isValid name then some lines else records.lookup other := by
  cases checked : RecordName.check name with
  | error failure =>
      have invalid : ¬RecordName.isValid name = true := by
        simp [← RecordName.check_eq_ok_iff, checked]
      exact ⟨records, by simp only [add, checked], by simp [invalid]⟩
  | ok _ =>
      have valid := RecordName.check_eq_ok_iff.mp checked
      refine ⟨(name, lines) :: records.filter fun record => record.1 ≠ name,
        by simp only [add, checked], fun other => ?_⟩
      by_cases same : other = name
      · simp [same, valid]
      · rw [List.lookup_cons, beq_eq_false_iff_ne.mpr same]
        simpa [same] using lookup_filter_ne same records

theorem after_memory (records : List (String × List String)) (calls : List Call) :
    ∃ later, (memory records).after calls = .memory later ∧
      ∀ name, later.lookup name =
        if RecordName.isValid name then (lastAdded name calls).or (records.lookup name)
        else records.lookup name := by
  induction calls generalizing records with
  | nil => exact ⟨records, rfl, by simp [lastAdded]⟩
  | cons call calls ih =>
      cases call with
      | add name lines =>
          obtain ⟨next, added, first⟩ := add_memory records name lines
          obtain ⟨later, same, looked⟩ := ih next
          refine ⟨later, by rw [after_cons, answer, added, same], fun other => ?_⟩
          rw [looked, first, lastAdded]
          by_cases valid : RecordName.isValid other = true
          · by_cases here : other = name
            · subst here
              simp [valid]
            · simp [valid, here, Ne.symm here]
          · have elsewhere : ¬(other = name ∧ RecordName.isValid name = true) := by
              rintro ⟨rfl, also⟩
              exact valid also
            simp [valid, elsewhere]
      | get _ => exact ih records
      | names => exact ih records

structure Writable (path : String) (files : FileSystem) (place : Place) (name : String) : Prop where
  valid : RecordName.isValid name = true
  takes : FileSystem.Takes path name
  vacant : files.entry? (place ++ [name]) ≠ some .folder

theorem writable_insert_iff (written : Writable path files place other) {bytes : List UInt8} :
    Writable path (files.insert (place ++ [other]) (.file bytes)) place name ↔
      Writable path files place name := by
  have same : FileSystem.entry? (files.insert (place ++ [other]) (.file bytes)) (place ++ [name]) ≠
      some .folder ↔ files.entry? (place ++ [name]) ≠ some .folder := by
    rw [FileSystem.entry?_insert (by simp)]
    by_cases here : name = other
    · subst here
      simp [written.vacant]
    · simp [here]
  exact ⟨fun ⟨valid, takes, vacant⟩ => ⟨valid, takes, same.mp vacant⟩,
    fun ⟨valid, takes, vacant⟩ => ⟨valid, takes, same.mpr vacant⟩⟩

theorem add_of_writable (leads : files.LeadsTo path place) (writable : Writable path files place name)
    (lines : List String) :
    (folder path files).add name lines =
      (.ok (), folder path (files.insert (place ++ [name]) (.file (Text.encode (text lines))))) := by
  have wrote := leads.write_join writable.takes writable.vacant (Text.encode (text lines))
  simp only [add, RecordName.check_eq_ok_iff.mpr writable.valid, leads.makeFolders_eq, wrote]

theorem add_of_not_writable (leads : files.LeadsTo path place)
    (refused : ¬Writable path files place name) (lines : List String) :
    ((folder path files).add name lines).2 = folder path files := by
  cases checked : RecordName.check name with
  | error failure => simp only [add, checked]
  | ok _ =>
      have valid := RecordName.check_eq_ok_iff.mp checked
      cases wrote : files.write (FileSystem.join path name) (Text.encode (text lines)) with
      | error error => simp only [add, checked, leads.makeFolders_eq, wrote]
      | ok written =>
          obtain ⟨found, also, takes, vacant, -⟩ :=
            FileSystem.write_join_ok leads.path_ne_empty (RecordName.isPart_of_isValid valid) wrote
          rw [leads.unique also] at vacant
          exact absurd ⟨valid, takes, vacant⟩ refused

/-- The later files are the earlier ones with the records on top that the calls have added. -/
structure Overlaid (path : String) (place : Place) (files : FileSystem) (calls : List Call)
    (later : FileSystem) : Prop where
  leads : later.LeadsTo path place
  here : later.here = files.here
  written : ∀ name lines, Writable path files place name → lastAdded name calls = some lines →
    later.itemsAt (place ++ [name]) = [(place ++ [name], .file (Text.encode (text lines)))]
  kept : ∀ spot, (∀ name, Writable path files place name → spot = place ++ [name] →
    lastAdded name calls = none) → later.itemsAt spot = files.itemsAt spot

theorem Overlaid.of_same {first second : List Call} (overlaid : Overlaid path place files first later)
    (same : ∀ name, Writable path files place name → lastAdded name second = lastAdded name first) :
    Overlaid path place files second later where
  leads := overlaid.leads
  here := overlaid.here
  written name lines writable added :=
    overlaid.written name lines writable (same name writable ▸ added)
  kept spot unwritten := overlaid.kept spot fun name writable here =>
    same name writable ▸ unwritten name writable here

theorem after_folder (leads : files.LeadsTo path place) (calls : List Call) :
    ∃ later, (folder path files).after calls = folder path later ∧
      Overlaid path place files calls later := by
  induction calls generalizing files with
  | nil => exact ⟨files, rfl, leads, rfl, by simp [lastAdded], fun _ _ => rfl⟩
  | cons call calls ih =>
      cases call with
      | add name lines =>
          rw [after_cons, answer]
          by_cases writable : Writable path files place name
          · rw [add_of_writable leads writable]
            obtain ⟨later, same, overlaid⟩ := ih (leads.insert writable.vacant)
            refine ⟨later, same, overlaid.leads, overlaid.here, ?_, ?_⟩
            · intro other others also added
              rw [lastAdded] at added
              cases again : lastAdded other calls with
              | some more =>
                  obtain rfl : more = others := by simpa [again] using added
                  exact overlaid.written other more ((writable_insert_iff writable).mpr also) again
              | none =>
                  obtain ⟨rfl, rfl⟩ : name = other ∧ lines = others := by simpa [again] using added
                  rw [overlaid.kept, FileSystem.itemsAt_insert, if_pos rfl]
                  intro other _ same
                  obtain rfl : name = other := by simpa using same
                  exact again
            · intro spot unwritten
              have elsewhere : spot ≠ place ++ [name] := by
                rintro rfl
                have none := unwritten name writable rfl
                simp [lastAdded] at none
              rw [overlaid.kept, FileSystem.itemsAt_insert, if_neg elsewhere]
              intro other also here
              have none := unwritten other ((writable_insert_iff writable).mp also) here
              exact (Option.or_eq_none_iff.mp none).1
          · rw [add_of_not_writable leads writable]
            obtain ⟨later, same, overlaid⟩ := ih leads
            refine ⟨later, same, overlaid.of_same fun other also => ?_⟩
            have different : name ≠ other := by
              rintro rfl
              exact writable also
            simp [lastAdded, different]
      | get _ =>
          obtain ⟨later, same, overlaid⟩ := ih leads
          exact ⟨later, same, overlaid.of_same fun _ _ => rfl⟩
      | names =>
          obtain ⟨later, same, overlaid⟩ := ih leads
          exact ⟨later, same, overlaid.of_same fun _ _ => rfl⟩

theorem Overlaid.agree {first second : List Call} {others : FileSystem}
    (overlaid : Overlaid path place files first later)
    (also : Overlaid path place files second others)
    (same : ∀ name, lastAdded name first = lastAdded name second) : later.Agree others := by
  refine ⟨overlaid.here.trans also.here.symm, fun spot => ?_⟩
  by_cases written : ∃ name lines, Writable path files place name ∧ spot = place ++ [name] ∧
      lastAdded name first = some lines
  · obtain ⟨name, lines, writable, rfl, added⟩ := written
    rw [overlaid.written name lines writable added,
      also.written name lines writable (same name ▸ added)]
  · have unwritten (name : String) (writable : Writable path files place name)
        (here : spot = place ++ [name]) : lastAdded name first = none := by
      by_contra some
      obtain ⟨lines, added⟩ := Option.ne_none_iff_exists'.mp some
      exact written ⟨name, lines, writable, here, added⟩
    rw [overlaid.kept spot unwritten, also.kept spot fun name writable here =>
      same name ▸ unwritten name writable here]

end RecordStore

end MenuShell

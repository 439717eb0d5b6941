import Mathlib.Data.List.Basic
import Mathlib.Data.List.TakeWhile
import MenuShell.FileSystem

/-!
A folder as a table of names. Where a path leads to a folder, the path of a name in it leads to the
place of that name; a file that is written there is read back, and the folder then holds it under its
name and everything else as before.
-/

namespace MenuShell

theorem lookup_filter_ne {Key Value : Type} [BEq Key] [LawfulBEq Key] [DecidableEq Key]
    {key other : Key} (different : other ≠ key) (items : List (Key × Value)) :
    (items.filter (·.1 ≠ key)).lookup other = items.lookup other := by
  induction items with
  | nil => rfl
  | cons item items ih =>
      obtain ⟨first, value⟩ := item
      by_cases same : first = key
      · subst same
        have other_first : (other == first) = false := beq_eq_false_iff_ne.mpr different
        simp only [List.filter_cons, ne_eq, not_true_eq_false, decide_false, Bool.false_eq_true,
          if_false, List.lookup_cons, other_first, ih]
      · simp only [List.filter_cons, ne_eq, same, not_false_eq_true, decide_true, if_true,
          List.lookup_cons, ih]

theorem mem_of_lookup {Key Value : Type} [BEq Key] [LawfulBEq Key] {key : Key} {value : Value}
    {items : List (Key × Value)} (found : items.lookup key = some value) :
    (key, value) ∈ items := by
  obtain ⟨front, back, whole, -⟩ := List.lookup_eq_some_iff.mp found
  simp [whole]

namespace FileSystem

variable {files : FileSystem} {place spot folder final : Place} {path name : String} {entry : Entry}

theorem entry?_insert (inside : spot ≠ []) (other : Place) :
    FileSystem.entry? (files.insert spot entry) other =
      if other = spot then some entry else files.entry? other := by
  by_cases same : other = spot
  · subst same
    simp [ entry?, insert, inside]
  · cases other with
    | nil => simp [ entry?, Ne.symm inside]
    | cons part others =>
        simp only [ entry?, insert, List.isEmpty_cons, Bool.false_eq_true, if_false, if_neg same]
        have other_spot : (part :: others == spot) = false := beq_eq_false_iff_ne.mpr same
        simp only [List.lookup_cons, other_spot]
        exact lookup_filter_ne same files.entries

theorem requireFolder_eq_ok_iff :
    files.requireFolder place = .ok () ↔ files.entry? place = some .folder := by
  unfold requireFolder
  split <;> simp_all

theorem walk_cons_eq_ok_iff {part : String} {others : List String} :
    files.walk place (part :: others) = .ok final ↔
      files.entry? place = some .folder ∧
        ∃ next, step place part = .ok next ∧ files.walk next others = .ok final := by
  rw [walk, ← requireFolder_eq_ok_iff]
  cases files.requireFolder place with
  | error error => simp [bind, Except.bind]
  | ok _ => cases step place part <;> simp [bind, Except.bind]

theorem walk_append_eq_ok_iff {front back : List String} :
    files.walk place (front ++ back) = .ok final ↔
      ∃ middle, files.walk place front = .ok middle ∧ files.walk middle back = .ok final := by
  induction front generalizing place with
  | nil => simp [walk]
  | cons part front ih =>
      simp only [List.cons_append, walk_cons_eq_ok_iff, ih]
      constructor
      · rintro ⟨open_, next, stepped, middle, first, second⟩
        exact ⟨middle, ⟨open_, next, stepped, first⟩, second⟩
      · rintro ⟨middle, ⟨open_, next, stepped, first⟩, second⟩
        exact ⟨open_, next, stepped, middle, first, second⟩

theorem walk_insert {parts : List String} (walked : files.walk place parts = .ok final)
    (inside : spot ≠ []) (closed : files.entry? spot ≠ some .folder) :
    (files.insert spot entry).walk place parts = .ok final := by
  induction parts generalizing place with
  | nil => exact walked
  | cons part others ih =>
      obtain ⟨isFolder, next, stepped, rest⟩ := walk_cons_eq_ok_iff.mp walked
      refine walk_cons_eq_ok_iff.mpr ⟨?_, next, stepped, ih rest⟩
      -- Only folders are walked through, and where the entry is put there is none.
      rw [entry?_insert inside, if_neg, isFolder]
      rintro rfl
      exact closed isFolder

/-! ### Paths -/

theorem stretches_cons {char : Char} (other : char ≠ '/') (rest : List Char) :
    stretches (char :: rest) =
      match stretches rest with
      | part :: others => (char :: part) :: others
      | [] => [[char]] :=
  stretches.eq_3 char rest other

theorem stretches_ne_nil (chars : List Char) : stretches chars ≠ [] := by
  induction chars with
  | nil => simp [stretches]
  | cons char rest ih =>
      by_cases slash : char = '/'
      · simp [slash, stretches]
      · rw [stretches_cons slash]
        cases stretches rest <;> simp

theorem stretches_solid {chars : List Char} (solid : '/' ∉ chars) : stretches chars = [chars] := by
  induction chars with
  | nil => rfl
  | cons char rest ih =>
      rw [List.mem_cons, not_or] at solid
      rw [stretches_cons (Ne.symm solid.1), ih solid.2]

theorem stretches_slash (front back : List Char) :
    stretches (front ++ '/' :: back) = stretches front ++ stretches back := by
  induction front with
  | nil => rfl
  | cons char rest ih =>
      by_cases slash : char = '/'
      · subst slash
        simp only [List.cons_append, stretches, ih]
      · rw [List.cons_append, stretches_cons slash, stretches_cons slash, ih]
        cases first : stretches rest with
        | nil => exact absurd first (stretches_ne_nil rest)
        | cons part others => rfl

theorem parts_join (present : path ≠ "") (solid : '/' ∉ name.toList) :
    ∃ above, parts (join path name) = above ++ [name] ∧
      (parts path = above ∨ parts path = above ++ [""]) := by
  have nameParts : (stretches name.toList).map String.ofList = [name] := by
    simp [stretches_solid solid]
  by_cases ends : path.toList.getLast? = some '/'
  · obtain ⟨front, whole⟩ := List.getLast?_eq_some_iff.mp ends
    refine ⟨(stretches front).map String.ofList, ?_, .inr ?_⟩
    · have joined : join path name = path ++ name := by simp [join, ends]
      rw [parts, joined, String.toList_append, whole, List.append_assoc, List.singleton_append,
        stretches_slash, List.map_append, nameParts]
    · rw [parts, whole, stretches_slash, List.map_append]
      rfl
  · refine ⟨parts path, ?_, .inl rfl⟩
    have joined : join path name = path ++ "/" ++ name := by simp [join, ends, present]
    have chars : (path ++ "/" ++ name).toList = path.toList ++ '/' :: name.toList := by simp
    rw [parts, joined, chars, stretches_slash, List.map_append, nameParts, parts]

theorem join_eq_or (path name : String) :
    join path name = path ++ name ∨ join path name = path ++ "/" ++ name := by
  unfold join
  split
  · exact .inl rfl
  · exact .inr rfl

theorem start_join (present : path ≠ "") : files.start (join path name) = files.start path := by
  cases chars : path.toList with
  | nil => exact absurd (String.toList_eq_nil_iff.mp chars) present
  | cons first rest =>
      have head : (join path name).toList.head? = some first := by
        rcases join_eq_or path name with joined | joined <;> simp [joined, chars]
      rw [start, start, head, chars, List.head?_cons]

theorem checkPath_eq_ok_iff :
    checkPath path = .ok () ↔
      '\x00' ∉ path.toList ∧ path ≠ "" ∧ path.utf8ByteSize ≤ pathLimit := by
  unfold checkPath
  split
  · simp_all
  · split
    · simp_all
    · split <;> simp_all

theorem checkPath_of_join (present : path ≠ "") (checked : checkPath (join path name) = .ok ()) :
    checkPath path = .ok () := by
  obtain ⟨clear, -, short⟩ := checkPath_eq_ok_iff.mp checked
  refine checkPath_eq_ok_iff.mpr ⟨?_, present, ?_⟩
  · intro member
    apply clear
    rcases join_eq_or path name with joined | joined <;> simp [joined, member]
  · rcases join_eq_or path name with joined | joined
    · rw [joined, String.utf8ByteSize_append] at short
      omega
    · rw [joined, String.utf8ByteSize_append, String.utf8ByteSize_append] at short
      omega

structure LeadsTo (files : FileSystem) (path : String) (folder : Place) : Prop where
  located : files.locate path = .ok folder
  isFolder : files.entry? folder = some .folder

theorem isFolder_iff : files.isFolder path = true ↔ ∃ folder, files.LeadsTo path folder := by
  unfold isFolder find
  cases located : files.locate path with
  | error error =>
      simp only [bind, Except.bind, Bool.false_eq_true, false_iff, not_exists]
      rintro folder ⟨same, -⟩
      simp [located] at same
  | ok folder =>
      simp only [bind, Except.bind]
      constructor
      · intro found
        refine ⟨folder, located, ?_⟩
        cases there : files.entry? folder with
        | none => simp [there] at found
        | some entry => cases entry <;> simp_all
      · rintro ⟨other, same, isFolder⟩
        rw [located] at same
        cases same
        simp [isFolder]

theorem locate_eq_ok_iff :
    files.locate path = .ok place ↔
      checkPath path = .ok () ∧ files.walk (files.start path) (parts path) = .ok place := by
  unfold locate
  cases checkPath path <;> simp [bind, Except.bind]

structure IsPart (name : String) : Prop where
  present : name ≠ ""
  solid : '/' ∉ name.toList
  proper : name ≠ "." ∧ name ≠ ".."

/-- No call refuses the name for its own sake or for the length of its path. -/
structure Takes (path name : String) : Prop where
  part : IsPart name
  short : name.utf8ByteSize ≤ nameLimit
  checked : checkPath (join path name) = .ok ()

def HasRoom (path : String) : Prop :=
  path.utf8ByteSize + 1 + nameLimit ≤ pathLimit

theorem takes_of_room (checked : checkPath path = .ok ()) (room : HasRoom path)
    (part : IsPart name) (clear : '\x00' ∉ name.toList) (short : name.utf8ByteSize ≤ nameLimit) :
    Takes path name := by
  have pathClear := (checkPath_eq_ok_iff.mp checked).1
  have slash : "/".utf8ByteSize = 1 := rfl
  unfold HasRoom at room
  refine ⟨part, short, checkPath_eq_ok_iff.mpr ?_⟩
  rcases join_eq_or path name with joined | joined
  · refine ⟨by simp [joined, pathClear, clear], by simp [joined, part.present], ?_⟩
    rw [joined, String.utf8ByteSize_append]
    omega
  · refine ⟨by simp [joined, pathClear, clear], by simp [joined, part.present], ?_⟩
    rw [joined, String.utf8ByteSize_append, String.utf8ByteSize_append]
    omega

theorem leadsTo_iff (files : FileSystem) (present : path ≠ "") (part : IsPart name) :
    ∃ above, parts (join path name) = above ++ [name] ∧
      ∀ folder, files.LeadsTo path folder ↔
        checkPath path = .ok () ∧ files.walk (files.start (join path name)) above = .ok folder ∧
          files.entry? folder = some .folder := by
  obtain ⟨above, joined, ending⟩ := parts_join present part.solid
  refine ⟨above, joined, fun folder => ?_⟩
  have walks (isFolder : files.entry? folder = some .folder) :
      files.walk (files.start path) (parts path) = .ok folder ↔
        files.walk (files.start path) above = .ok folder := by
    rcases ending with same | ended
    · rw [same]
    · -- The empty part behind the last slash leads nowhere.
      rw [ended, walk_append_eq_ok_iff]
      constructor
      · rintro ⟨middle, first, last⟩
        obtain ⟨-, next, stepped, stop⟩ := walk_cons_eq_ok_iff.mp last
        have stays : middle = next := by simpa [step] using stepped
        have same : next = folder := by simpa [walk] using stop
        exact stays.trans same ▸ first
      · intro walked
        exact ⟨folder, walked, walk_cons_eq_ok_iff.mpr ⟨isFolder, folder, by simp [step], rfl⟩⟩
  rw [start_join present]
  constructor
  · rintro ⟨located, isFolder⟩
    obtain ⟨checked, walked⟩ := locate_eq_ok_iff.mp located
    exact ⟨checked, (walks isFolder).mp walked, isFolder⟩
  · rintro ⟨checked, walked, isFolder⟩
    exact ⟨locate_eq_ok_iff.mpr ⟨checked, (walks isFolder).mpr walked⟩, isFolder⟩

theorem Takes.step_eq (takes : Takes path name) (place : Place) :
    step place name = .ok (place ++ [name]) := by
  have short := takes.short
  rw [step, if_neg (by simp [takes.part.present, takes.part.proper.1]),
    if_neg takes.part.proper.2, if_neg (by omega)]

theorem LeadsTo.path_ne_empty (leads : files.LeadsTo path folder) : path ≠ "" :=
  (checkPath_eq_ok_iff.mp (locate_eq_ok_iff.mp leads.located).1).2.1

theorem LeadsTo.locate_join (leads : files.LeadsTo path folder) (takes : Takes path name) :
    files.locate (join path name) = .ok (folder ++ [name]) := by
  obtain ⟨above, joined, leadsTo⟩ := leadsTo_iff files leads.path_ne_empty takes.part
  obtain ⟨-, walked, isFolder⟩ := (leadsTo folder).mp leads
  rw [locate_eq_ok_iff, joined, walk_append_eq_ok_iff]
  refine ⟨takes.checked, folder, walked, ?_⟩
  exact walk_cons_eq_ok_iff.mpr ⟨isFolder, _, takes.step_eq folder, rfl⟩

theorem read_of_located {bytes : List UInt8} (located : files.locate path = .ok place)
    (there : files.entry? place = some (.file bytes)) : files.read path = .ok bytes := by
  simp [read, find, located, there, bind, Except.bind]

/-! ### Writing -/

theorem target?_join_eq (part : IsPart name) {above : List String}
    (joined : parts (join path name) = above ++ [name]) :
    files.target? (join path name) = (do
      checkPath (join path name)
      let folder ← files.walk (files.start (join path name)) above
      files.requireFolder folder
      .ok (some (folder, name))) := by
  have last : (parts (join path name)).reverse.dropWhile (·.isEmpty) = name :: above.reverse := by
    rw [joined, List.reverse_append, List.reverse_singleton, List.singleton_append,
      List.dropWhile_cons_of_neg]
    simpa using part.present
  simp [target?, last, part.proper]

theorem write_join_eq (part : IsPart name) (bytes : List UInt8) {above : List String}
    (joined : parts (join path name) = above ++ [name]) :
    files.write (join path name) bytes = (do
      checkPath (join path name)
      let folder ← files.walk (files.start (join path name)) above
      files.requireFolder folder
      let place ← step folder name
      match files.entry? place with
      | some .folder => .error .isFolder
      | _ => .ok (files.insert place (.file bytes))) := by
  have noSlash : (join path name).toList.getLast? ≠ some '/' := by
    have chars : ∃ front, (join path name).toList = front ++ name.toList := by
      rcases join_eq_or path name with same | same
      · exact ⟨path.toList, by simp [same]⟩
      · exact ⟨path.toList ++ ['/'], by simp [same]⟩
    obtain ⟨front, chars⟩ := chars
    intro slash
    rw [chars, List.getLast?_append_of_ne_nil _ (by simp [part.present])] at slash
    exact part.solid (List.mem_of_getLast? slash)
  rw [write, target?_join_eq part joined]
  cases checkPath (join path name) with
  | error error => rfl
  | ok _ =>
      cases walked : files.walk (files.start (join path name)) above with
      | error error => rfl
      | ok folder =>
          cases opened : files.requireFolder folder with
          | error error => simp [bind, Except.bind, opened]
          | ok _ =>
              simp only [bind, Except.bind, opened]
              exact if_neg noSlash

theorem LeadsTo.write_join (leads : files.LeadsTo path folder) (takes : Takes path name)
    (vacant : files.entry? (folder ++ [name]) ≠ some .folder) (bytes : List UInt8) :
    files.write (join path name) bytes = .ok (files.insert (folder ++ [name]) (.file bytes)) := by
  obtain ⟨above, joined, leadsTo⟩ := leadsTo_iff files leads.path_ne_empty takes.part
  obtain ⟨-, walked, isFolder⟩ := (leadsTo folder).mp leads
  have opened := requireFolder_eq_ok_iff.mpr isFolder
  rw [write_join_eq takes.part bytes joined]
  simp only [takes.checked, walked, opened, takes.step_eq, bind, Except.bind]

theorem write_join_ok {bytes : List UInt8} {later : FileSystem} (present : path ≠ "")
    (part : IsPart name) (written : files.write (join path name) bytes = .ok later) :
    ∃ folder, files.LeadsTo path folder ∧ Takes path name ∧
      files.entry? (folder ++ [name]) ≠ some .folder ∧
      later = files.insert (folder ++ [name]) (.file bytes) := by
  obtain ⟨above, joined, leadsTo⟩ := leadsTo_iff files present part
  rw [write_join_eq part bytes joined] at written
  cases checked : checkPath (join path name) with
  | error error => simp [checked, bind, Except.bind] at written
  | ok _ =>
      cases walked : files.walk (files.start (join path name)) above with
      | error error => simp [checked, walked, bind, Except.bind] at written
      | ok folder =>
          cases opened : files.requireFolder folder with
          | error error => simp [checked, walked, opened, bind, Except.bind] at written
          | ok _ =>
              have leads := (leadsTo folder).mpr
                ⟨checkPath_of_join present checked, walked, requireFolder_eq_ok_iff.mp opened⟩
              have short : name.utf8ByteSize ≤ nameLimit := by
                by_contra long
                have refused : step folder name = .error .nameTooLong := by
                  rw [step, if_neg (by simp [part.present, part.proper.1]),
                    if_neg part.proper.2, if_pos (by omega)]
                simp [checked, walked, opened, refused, bind, Except.bind] at written
              have takes : Takes path name := ⟨part, short, checked⟩
              simp only [checked, walked, opened, takes.step_eq, bind, Except.bind] at written
              refine ⟨folder, leads, takes, ?_⟩
              split at written
              · simp at written
              · rename_i vacant
                exact ⟨vacant, (Except.ok.inj written).symm⟩

theorem nameIn?_eq_some_iff : nameIn? folder place = some name ↔ place = folder ++ [name] := by
  unfold nameIn?
  cases last : place.getLast? with
  | none =>
      rw [List.getLast?_eq_none_iff] at last
      simp [last]
  | some part =>
      constructor
      · intro found
        split at found
        · simp_all
        · simp at found
      · rintro rfl
        simp_all

theorem LeadsTo.content_eq (leads : files.LeadsTo path folder) :
    files.content path = files.entries.filterMap fun (place, entry) =>
      (nameIn? folder place).map fun name => (name, entry) := by
  rw [content, leads.located]

theorem LeadsTo.entry?_eq_lookup (leads : files.LeadsTo path folder) (name : String) :
    files.entry? (folder ++ [name]) = (files.content path).lookup name := by
  rw [leads.content_eq, entry?, if_neg (by simp)]
  induction files.entries with
  | nil => rfl
  | cons item items ih =>
      obtain ⟨place, entry⟩ := item
      rw [List.lookup_cons, List.filterMap_cons]
      by_cases same : place = folder ++ [name]
      · simp [same, nameIn?_eq_some_iff.mpr]
      · have elsewhere : (folder ++ [name] == place) = false :=
          beq_eq_false_iff_ne.mpr (Ne.symm same)
        simp only [elsewhere, ih]
        cases found : nameIn? folder place with
        | none => rfl
        | some other =>
            have different : (name == other) = false := by
              rw [beq_eq_false_iff_ne]
              rintro rfl
              exact same (nameIn?_eq_some_iff.mp found)
            simp [List.lookup_cons, different]

theorem LeadsTo.unique {other : Place} (leads : files.LeadsTo path folder)
    (also : files.LeadsTo path other) : other = folder :=
  Except.ok.inj (also.located.symm.trans leads.located)

theorem locate_insert (located : files.locate path = .ok place) (inside : spot ≠ [])
    (closed : files.entry? spot ≠ some .folder) :
    (files.insert spot entry).locate path = .ok place := by
  obtain ⟨checked, walked⟩ := locate_eq_ok_iff.mp located
  exact locate_eq_ok_iff.mpr ⟨checked, walk_insert walked inside closed⟩

theorem LeadsTo.insert (leads : files.LeadsTo path folder)
    (vacant : files.entry? (folder ++ [name]) ≠ some .folder) :
    (files.insert (folder ++ [name]) entry).LeadsTo path folder := by
  have inside : folder ++ [name] ≠ [] := by simp
  refine ⟨locate_insert leads.located inside vacant, ?_⟩
  rw [entry?_insert inside, if_neg (by simp), leads.isFolder]

theorem LeadsTo.content_insert (leads : files.LeadsTo path folder)
    (vacant : files.entry? (folder ++ [name]) ≠ some .folder) :
    (files.insert (folder ++ [name]) entry).content path =
      (name, entry) :: (files.content path).filter (·.1 ≠ name) := by
  have self : nameIn? folder (folder ++ [name]) = some name := nameIn?_eq_some_iff.mpr rfl
  rw [(leads.insert vacant).content_eq, leads.content_eq, FileSystem.insert, List.filterMap_cons]
  simp only [self, Option.map_some]
  congr 1
  rw [List.filterMap_filter, List.filter_filterMap]
  apply List.filterMap_congr
  rintro ⟨place, entry⟩ -
  cases found : nameIn? folder place with
  | none => simp
  | some other =>
      have place_eq := nameIn?_eq_some_iff.mp found
      by_cases same : other = name <;> simp [place_eq, same, Option.filter]

theorem walk_of_blank {parts : List String} (blank : ∀ part ∈ parts, part.isEmpty = true)
    (walked : files.walk place parts = .ok final) : final = place := by
  induction parts generalizing place with
  | nil => simpa [walk, eq_comm] using walked
  | cons part others ih =>
      obtain ⟨-, next, stepped, rest⟩ := walk_cons_eq_ok_iff.mp walked
      have empty : part = "" := by simpa using blank part List.mem_cons_self
      have stays : place = next := by simpa [step, empty] using stepped
      rw [stays]
      exact ih (fun other member => blank other (List.mem_cons_of_mem _ member)) rest

theorem LeadsTo.makeFolder_eq (leads : files.LeadsTo path folder) :
    files.makeFolder path = .error .alreadyExists := by
  obtain ⟨checked, walked⟩ := locate_eq_ok_iff.mp leads.located
  have cut : (parts path).reverse.takeWhile (·.isEmpty) ++
      (parts path).reverse.dropWhile (·.isEmpty) = (parts path).reverse :=
    List.takeWhile_append_dropWhile
  cases last : (parts path).reverse.dropWhile (·.isEmpty) with
  | nil => simp [makeFolder, target?, checked, last, bind, Except.bind]
  | cons part above =>
      -- The walk comes to the last part that is not empty, and stays where that leads.
      have whole : parts path =
          above.reverse ++ part :: ((parts path).reverse.takeWhile (·.isEmpty)).reverse := by
        rw [last] at cut
        have reversed := congrArg List.reverse cut
        simpa using reversed.symm
      rw [whole, walk_append_eq_ok_iff] at walked
      obtain ⟨middle, first, rest⟩ := walked
      obtain ⟨isFolder, next, stepped, stay⟩ := walk_cons_eq_ok_iff.mp rest
      have arrived : folder = next := by
        apply walk_of_blank _ stay
        intro other member
        exact List.mem_takeWhile_imp (List.mem_reverse.mp member)
      have opened := requireFolder_eq_ok_iff.mpr isFolder
      have there : (files.entry? next).isSome := by simp [← arrived, leads.isFolder]
      by_cases dots : part = "." ∨ part = ".."
      · simp [makeFolder, target?, checked, last, first, opened, dots, bind, Except.bind]
      · simp [makeFolder, target?, checked, last, first, opened, dots, stepped, there, bind,
          Except.bind]

theorem LeadsTo.makeFolders_eq (leads : files.LeadsTo path folder) :
    files.makeFolders path = (.ok (), files) := by
  have ensured : files.ensureFolder path = .ok files := by
    simp [ensureFolder, leads.makeFolder_eq, isFolder_iff.mpr ⟨folder, leads⟩]
  unfold makeFolders ancestors
  split
  · rename_i missing made first
    split at first
    · simp_all [firstFolder, ensureFolders]
    · simp_all [firstFolder, ensureFolders]
  · rename_i error first
    split at first
    · simp [firstFolder] at first
    · simp [firstFolder, ensured] at first

end FileSystem

end MenuShell

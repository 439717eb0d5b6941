import MenuShell.Proofs.Shell.Between
import MenuShell.Proofs.Shell.Defining

/-!
Recording lines and replaying them. A replay gives the lines that were recorded under its name, trimmed
and without the blank ones, up to the end line of replays, and then what was there to be read anyway. It
does not matter what has been stored under other names since.
-/

namespace MenuShell

def Settings.replies (settings : Settings) (lines : List String) :
    List (Except Failure (Option String)) :=
  (((nonBlank lines).map Text.trim).takeWhile (· ≠ settings.endReplay)).map fun line =>
    .ok (some line)

theorem given_of_visible {lines : List String}
    (visible : ∀ line ∈ lines, Text.isBlank line = false) :
    given lines = lines.map fun line => .ok (some line) := by
  have all : nonBlank lines = lines := by
    rw [nonBlank, List.filter_eq_self]
    intro line member
    simp [visible line member]
  rw [given, all]

theorem Settings.given_replayed (settings : Settings) (lines : List String) :
    given (((nonBlank lines).map Text.trim).takeWhile (· ≠ settings.endReplay)) =
      settings.replies lines := by
  rw [replies, given_of_visible]
  intro line member
  obtain ⟨raw, kept, rfl⟩ := List.mem_map.mp ((List.takeWhile_prefix _).subset member)
  rw [Text.isBlank_trim]
  simpa [nonBlank] using (List.mem_filter.mp kept).2

namespace RecordStore

variable {store : RecordStore} {name : String} {lines : List String}

def Accepts (store : RecordStore) (name : String) (lines : List String) : Prop :=
  match store with
  | .memory _ => True
  | .folder path files => ((folder path files).add name lines).1 = .ok ()

theorem Accepts.added (accepts : store.Accepts name lines) (valid : RecordName.isValid name = true) :
    (store.add name lines).1 = .ok () := by
  cases store with
  | memory records => simp [add, RecordName.check_eq_ok_iff.mpr valid]
  | folder path files => exact accepts

theorem given_returned (store : RecordStore) (lines : List String) (keep : String → Bool) :
    given ((store.returned lines).takeWhile keep) = given (lines.takeWhile keep) := by
  cases store with
  | memory records => rfl
  | folder path files =>
      cases lines with
      | cons line others => rfl
      | nil =>
          -- A file gives back an empty line, and that is passed over.
          have single : returned (folder path files) [] = [""] := rfl
          rw [single]
          cases first : keep "" <;> simp [first, given, nonBlank, Text.isBlank]

end RecordStore

namespace Tree

variable {Host : Type} {tree later : Tree (Action Host)} {parent : NodeId}

structure Records (tree : Tree (Action Host)) (outer menu stop sink : NodeId) (endWord : String) :
    Prop where
  captures : tree.Captures .record menu stop sink endWord
  record : ∀ line rest, Text.splitFirstWord line = ("record", rest) →
    tree.dispatchRoute? outer line = some (.act menu rest)
  replay : tree.Knows outer "replay" (Script.withArguments Commands.replaySpec Commands.runReplay)

theorem installRecording_ok {settings : Settings} (reachable : tree.Reachable)
    (bound : parent < tree.size) (connected : root ∈ later.lineage parent)
    (built : (Commands.installRecording settings parent).build tree = (.ok (), later)) :
    ∃ menu stop sink, later.Records parent menu stop sink settings.endRecord := by
  obtain ⟨laterReachable, captures, named, shown, hung⟩ :=
    @install_ok _ _ _ _ .record _ reachable bound built
  have acts : (later.node tree.size).action?.isSome := by simp [captures.action]
  have record : ∀ line rest, Text.splitFirstWord line = ("record", rest) →
      later.dispatchRoute? parent line = some (.act tree.size rest) :=
    fun _ _ split => route_of_selector laterReachable connected named shown hung acts split
  obtain ⟨_, first, captured, built⟩ := Builder.bind_ok built
  obtain ⟨rfl, laid⟩ := installCapture_ok reachable bound captured
  obtain ⟨_, second, acted, replay⟩ := Builder.bind_ok built
  obtain ⟨-, rfl⟩ := Prod.mk.inj acted
  obtain ⟨secondReachable, secondBound⟩ := laid.capturing_ok bound .record
  obtain ⟨replayGrown, -⟩ := add_discard_ok secondReachable secondBound replay
  refine ⟨_, _, _, captures, record, ?_⟩
  exact knows_of_added secondBound replayGrown (GrownBelow.refl _ _) laterReachable connected

end Tree

namespace Shell

variable {Host : Type} {shell : Shell Host} {outer : NodeId} {line name : String}
  {lines : List String} {later : InputStack}

theorem keep_of_add (added : (shell.records.add name lines).1 = .ok ()) :
    Capture.record.keep shell name lines =
      shell.keepRecords (shell.records.add name lines).2 := by
  rcases stored : shell.records.add name lines with ⟨result, records⟩
  rw [stored] at added
  cases added
  simp only [Capture.keep, stored]

theorem StoresBeside.holds {shell later : Shell Host} (beside : StoresBeside name shell later)
    (holds : RecordStore.Holds name lines shell.records) :
    RecordStore.Holds name lines later.records := by
  obtain ⟨calls, untouched, after⟩ := beside
  rw [after]
  exact holds.after untouched

theorem loop_replay
    (knows : shell.tree.Knows outer "replay"
      (Script.withArguments Commands.replaySpec Commands.runReplay))
    (invokes : Text.Invokes line "replay" name) (plain : ArgumentSpec.IsPlain name)
    (found : shell.records.get name = .ok lines) (gives : shell.input.Gives [line] later) :
    ∃ replayed, (replayed.input.Delivers
          (given (lines.takeWhile (· ≠ shell.settings.endReplay))) later ∧
        SameButReading replayed shell) ∧
      ∀ outcome, Ends (.loop outer) shell outcome ↔ Ends (.loop outer) replayed outcome := by
  refine loop_goes_on gives fun asked left same => ?_
  cases left
  rw [← same.tree_eq] at knows
  obtain ⟨begun, input, begunSame, dispatched⟩ := dispatch_invoked knows invokes plain rfl
  have sameShell := begunSame.trans same
  have settings : begun.serve .settings = (.ok shell.settings, begun) := by
    rw [sameShell]
    rfl
  have got : begun.serve (.getRecord name) = (.ok lines, begun) := by
    have records : begun.records = shell.records := by rw [sameShell]
    rw [← records] at found
    rw [serve, found]
  let pushed := lines.takeWhile (· ≠ shell.settings.endReplay)
  let replayed := { begun with input := begun.input.pushLines pushed }
  have sameReplayed : SameButReading replayed begun := rfl
  refine ⟨replayed, ⟨?_, sameReplayed.trans sameShell⟩, dispatched (.ok .normal, replayed) ?_⟩
  · rw [← input]
    exact InputStack.delivers_frame (Frame.finite_lines pushed) begun.input.frames begun.input.source
  · rw [Commands.runReplay]
    dsimp only
    rw [ends_ask settings, ends_ask got, ends_andThen_done]
    rfl

/-- Lines that are typed between `record` with a name and the end keyword are replayed under that name,
the ones before the first end line of replays, from memory and from a folder that takes the file and
whose path is not empty. In between any records may be stored under other names, as every task does
that does not ask for one of this name. -/
theorem replay_gives_recorded_lines {Host : Type} :
    (∀ (settings : Settings) (tree grown : Tree (Action Host)) (parent : NodeId),
      tree.Reachable → parent < tree.size → Tree.root ∈ grown.lineage parent →
      (Commands.installRecording settings parent).build tree = (.ok (), grown) →
      ∃ menu stop sink, grown.Records parent menu stop sink settings.endRecord) ∧
    (∀ (shell : Shell Host) (outer menu stop sink : NodeId) (endWord name entry last : String)
      (lines : List String) (later : InputStack),
      shell.tree.Records outer menu stop sink endWord →
      Text.Invokes entry "record" name → ArgumentSpec.IsPlain name →
      RecordName.isValid name = true → (∀ line ∈ lines, '\n' ∉ line.toList) →
      shell.records.HasPath → shell.records.Accepts name ((nonBlank lines).map Text.trim) →
      shell.input.Gives (nonBlank (entry :: lines ++ [last])) later →
      (∀ line ∈ nonBlank lines,
        (shell.tree.comparison menu).begins endWord (Text.splitFirstWord line).1 = false) →
      Text.trim last = endWord →
      ∃ collected kept, collected.input = later ∧ SameButReading collected shell ∧
        kept = collected.keepRecords
          (shell.records.add name ((nonBlank lines).map Text.trim)).2 ∧
        (∀ outcome, Ends (.loop outer) shell outcome ↔ Ends (.loop outer) kept outcome) ∧
        ∀ (reached : Shell Host) (again : NodeId) (line : String) (rest : InputStack),
          StoresBeside name kept reached →
          reached.tree.Knows again "replay"
            (Script.withArguments Commands.replaySpec Commands.runReplay) →
          Text.Invokes line "replay" name → reached.input.Gives [line] rest →
          ∃ replayed, (replayed.input.Delivers (reached.settings.replies lines) rest ∧
              SameButReading replayed reached) ∧
            ∀ outcome, Ends (.loop again) reached outcome ↔ Ends (.loop again) replayed outcome) ∧
    (∀ (task sub : Task Host) (shell reached : Shell Host) (loops : List Opened) (name : String),
      Comes task shell loops sub reached → NeverStores name task shell →
      StoresBeside name shell reached) ∧
    ∀ (task : Task Host) (shell final : Shell Host) (result : Except Failure Signal)
      (name : String), Ends task shell (result, final) → NeverStores name task shell →
      StoresBeside name shell final := by
  refine ⟨?_, ?_, ?_, ?_⟩
  · intro settings tree grown parent reachable bound connected built
    exact Tree.installRecording_ok reachable bound connected built
  · intro shell outer menu stop sink endWord name entry last lines later has invokes plain valid
      solid placed accepts gives data ended
    obtain ⟨collected, input, same, loop⟩ :=
      loop_capture has.captures has.record invokes plain gives data ended
    have records : collected.records = shell.records := by rw [same]
    have added := accepts.added valid
    rw [← records] at placed added ⊢
    rw [keep_of_add added] at loop
    refine ⟨collected, _, input, same, rfl, loop, ?_⟩
    intro reached again line rest beside knows called asked
    have holds := RecordStore.holds_of_add placed added
    rw [← collected.records_keepRecords (collected.records.add _ _).2] at holds
    have legible : ∀ line ∈ (nonBlank lines).map Text.trim, Text.IsLine line := by
      intro line member
      obtain ⟨raw, kept, rfl⟩ := List.mem_map.mp member
      exact Text.isLine_trim (solid raw (List.mem_filter.mp kept).1)
    have replay := loop_replay knows called plain ((beside.holds holds).get_eq legible) asked
    rwa [RecordStore.given_returned, Settings.given_replayed] at replay
  · intro task sub shell reached loops name points never
    exact points.storesBeside never
  · intro task shell final result name ends never
    exact storesBeside_of_ends ends never

/-- With an empty path the file is written and could be read, but the store finds no folder to look
for it in, and nothing is replayed. -/
theorem record_with_empty_path_is_not_replayed :
    let installed := (Commands.installRecording {} 0).build (Tree.empty .insensitive)
    let written : FileSystem := { entries := [(["n"], .file (Text.encode "one\n"))] }
    let shell : Shell Unit :=
      { tree := installed.2
        input := { frames := [.lines ["record n", "one", "endrecord", "replay n"]] }
        procedures := {}, conditions := [], prompts := {}, settings := {},
        records := .folder "" {}, notebooks := [], transcript := #[], host := () }
    shell.records.Accepts "n" ["one"] ∧ written.read "n" = .ok (Text.encode "one\n") ∧
      ∃ final, Ends (.loop 0) shell (.ok .normal, final) ∧ final.records = .folder "" written ∧
        final.texts = ["Unknown record: n\n"] := by
  intro installed written shell
  have accepts : shell.records.Accepts "n" ["one"] := by
    show (RecordStore.add _ _ _).1 = _
    decide +kernel
  have carried : (run 30 (.loop 0) shell).map (fun outcome =>
      (outcome.1, outcome.2.records, outcome.2.texts)) =
      some (.ok .normal, .folder "" written, ["Unknown record: n\n"]) := by
    decide +kernel
  obtain ⟨⟨result, final⟩, ended, same⟩ := exists_ends_of_run carried
  simp only [Prod.mk.injEq] at same
  obtain ⟨rfl, records, said⟩ := same
  exact ⟨accepts, by decide +kernel, final, ended, records, said⟩

theorem replay_gives_recorded_lines_before_end_line :
    let installed := (Commands.installRecording {} 0).build (Tree.empty .insensitive)
    let lines := [" echo  one ", "", "endless two", " endreplay ", "echo three"]
    let shell : Shell Unit :=
      { tree := installed.2
        input := { frames := [.lines ("record n" :: lines), .lines ["endrecord", "after"]] }
        procedures := {}, conditions := [], prompts := {}, settings := {},
        records := .folder "Records" {}, notebooks := [], transcript := #[], host := () }
    ∃ kept : Shell Unit,
      (∀ outcome, Ends (.loop 0) shell outcome ↔ Ends (.loop 0) kept outcome) ∧
      let reached : Shell Unit :=
        { kept with
          input := { frames := [.lines ["replay n", "after"]] }
          records := (kept.records.add "nn" ["other"]).2 }
      ∃ replayed : Shell Unit,
        replayed.input.Delivers [.ok (some "echo  one"), .ok (some "endless two")]
          { frames := [.lines ["after"]] } ∧
        ∀ outcome, Ends (.loop 0) reached outcome ↔ Ends (.loop 0) replayed outcome := by
  intro installed lines shell
  obtain ⟨install, records, -, -⟩ := @replay_gives_recorded_lines Unit
  obtain ⟨menu, stop, sink, has⟩ := install {} (Tree.empty .insensitive) installed.2 0
    ⟨_, .refl⟩ (by decide) (by decide) rfl
  have settled : shell.input.Settled := by
    simp [InputStack.Settled, Frame.Settled, shell]
  have pending : shell.input.pending = nonBlank ("record n" :: lines ++ ["endrecord"]) ++ ["after"] := by
    decide
  obtain ⟨later, gives, -, -⟩ := InputStack.gives_of_pending settled pending
  have accepts : shell.records.Accepts "n" ((nonBlank lines).map Text.trim) := by
    show (RecordStore.add _ _ _).1 = _
    decide +kernel
  have data (mode : Comparison) : ∀ line ∈ nonBlank lines,
      mode.begins "endrecord" (Text.splitFirstWord line).1 = false := by
    cases mode <;> decide
  obtain ⟨collected, kept, -, same, rfl, loop, replays⟩ := records shell 0 menu stop sink "endrecord"
    "n" "record n" "endrecord" lines later has (by decide) (by decide) (by decide) (by decide)
    (by simp [RecordStore.HasPath, shell]) accepts gives (data _) (by decide)
  refine ⟨_, loop, ?_⟩
  intro reached
  have beside : StoresBeside "n" _ reached := ⟨[.add "nn" ["other"]], by simp, rfl⟩
  have first : (reached.input.query none).outcome =
      (.ok (some "replay n"), { frames := [.lines ["after"]] }) := rfl
  obtain ⟨source, stored⟩ := collected.keepRecords_cases
    (shell.records.add "n" ((nonBlank lines).map Text.trim)).2
  have tree : reached.tree = installed.2 := by
    simp only [reached, stored]
    exact same.tree_eq
  have settings : reached.settings = {} := by
    simp only [reached, stored]
    rw [same]
  have knows := has.replay
  rw [← tree] at knows
  obtain ⟨replayed, ⟨delivers, -⟩, goes⟩ :=
    replays reached 0 "replay n" _ beside knows (by decide) (.line first (.nothing _))
  refine ⟨replayed, ?_, goes⟩
  rw [settings] at delivers
  exact delivers

end Shell

end MenuShell

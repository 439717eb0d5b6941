import MenuShell.Proofs.Records.Exchange
import MenuShell.Proofs.Shell.Conduct

/-!
From one shell to a later one. What holds between a shell and the next one at every step of a task holds
between the first shell and all that the task comes to. So a task changes records only by what it asks to
be stored.
-/

namespace MenuShell

def Request.calls {Action : Type} {answer : Answer} : Request Action answer → List RecordStore.Call
  | .addRecord name lines => [.add name lines]
  | .getRecord name => [.get name]
  | .recordNames => [.names]
  | _ => []

namespace Shell

variable {Host : Type} {shell middle later final : Shell Host} {task sub : Task Host}
  {result : Except Failure Signal} {name : String}

structure Spans (relates : Shell Host → Shell Host → Prop) : Prop where
  same : ∀ {shell later}, SameStores later shell → relates shell later
  trans : ∀ {shell middle later}, relates shell middle → relates middle later →
    relates shell later
  asks : ∀ {shell step asked}, shell.next = (step, asked) → relates shell asked

def Serves (relates : Shell Host → Shell Host → Prop) (task : Task Host) (shell : Shell Host) :
    Prop :=
  ∀ (loops : List Opened) (answer : Answer) (request : Request (Action Host) answer)
    (next : Except Failure answer.Value → Script Host) (reached : Shell Host),
    Comes task shell loops (.script (.perform request next)) reached →
      relates reached (reached.serve request).2

theorem sameStores_of_leads {visit : Visit} {route : Route} (leads : Leads shell visit route later) :
    SameStores later shell := by
  cases leads with
  | execute => rfl
  | dispatch => rfl

theorem sameStores_absorb (result : Except Failure Signal) (final : Shell Host) :
    SameStores (absorb (result, final)).2 final := by
  unfold absorb
  split
  · rename_i same
    obtain ⟨-, rfl⟩ := Prod.mk.inj same
    rfl
  · rename_i same
    obtain ⟨-, rfl⟩ := Prod.mk.inj same
    split <;> rfl

variable {relates : Shell Host → Shell Host → Prop}

theorem Serves.behind (serves : Serves relates task shell) {opened : List Opened}
    (turn : Turn task shell opened sub middle) : Serves relates sub middle :=
  fun _ answer request next reached points =>
    serves _ answer request next reached (turn.then points)

namespace Spans

theorem leads (spans : Spans relates) {visit : Visit} {route : Route}
    (leads : Leads shell visit route middle) (event : Event) :
    relates shell (middle.note event) :=
  spans.trans (spans.same (sameStores_of_leads leads)) (spans.same rfl)

theorem runs (spans : Spans relates) (runs : Runs task shell result final)
    (serves : Serves relates task shell) : relates shell final := by
  induction runs with
  | done signal shell => exact spans.same rfl
  | fail failure shell => exact spans.same rfl
  | consult _ ih => exact ih (serves.behind (.consult _ _))
  | @remember shell _ change _ _ _ ih =>
      have changed : SameStores { shell with host := change shell.host } shell := rfl
      exact spans.trans (spans.same changed) (ih (serves.behind (.remember _ _ _)))
  | perform _ ih =>
      exact spans.trans (serves _ _ _ _ _ .here) (ih (serves.behind (.perform _ _ _)))
  | visit visited _ first second =>
      have entered := first (serves.behind (.visit _ _ _))
      exact spans.trans entered (second (serves.behind (.visited visited.ends)))
  | @menu shell left id _ _ ih =>
      have entered : SameStores (shell.enterLoop id) shell := rfl
      have finished : SameStores left.leaveLoop left := rfl
      have looped := spans.trans (spans.same entered) (ih (serves.behind (.menu _ _)))
      exact spans.trans looped (spans.same finished)
  | act leads known _ ih =>
      have acted := spans.trans (spans.leads leads _) (ih (serves.behind (.act leads known)))
      exact spans.trans acted (spans.same (sameStores_absorb _ _))
  | report leads => exact spans.leads leads _
  | unbound leads => exact spans.same (sameStores_of_leads leads)
  | ended next => exact spans.asks next
  | failed next => exact spans.asks next
  | again next _ ih => exact spans.trans (spans.asks next) (ih (serves.behind (.again next)))
  | normal next dispatched _ first second =>
      have line := spans.trans (spans.asks next) (first (serves.behind (.line next)))
      exact spans.trans line (second (serves.behind (.later next dispatched.ends)))
  | quit next _ ih => exact spans.trans (spans.asks next) (ih (serves.behind (.line next)))
  | broken next _ ih => exact spans.trans (spans.asks next) (ih (serves.behind (.line next)))

theorem turn (spans : Spans relates) {opened : List Opened}
    (turn : Turn task shell opened sub middle) (serves : Serves relates task shell) :
    relates shell middle := by
  cases turn with
  | menu => exact spans.same rfl
  | act leads known => exact spans.leads leads _
  | consult => exact spans.same rfl
  | remember => exact spans.same rfl
  | perform => exact serves _ _ _ _ _ .here
  | visit => exact spans.same rfl
  | visited ends => exact spans.runs (ends_iff_runs.mp ends) (serves.behind (.visit _ _ _))
  | again next => exact spans.asks next
  | line next => exact spans.asks next
  | later next ends =>
      exact spans.trans (spans.asks next)
        (spans.runs (ends_iff_runs.mp ends) (serves.behind (.line next)))

theorem comes (spans : Spans relates) {loops : List Opened}
    (points : Comes task shell loops sub middle) (serves : Serves relates task shell) :
    relates shell middle := by
  induction points with
  | here => exact spans.same rfl
  | turn points turn ih =>
      refine spans.trans ih (spans.turn turn ?_)
      intro loops answer request next reached others
      exact serves _ answer request next reached (points.trans others)

end Spans

theorem records_keepRecords (shell : Shell Host) (records : RecordStore) :
    (shell.keepRecords records).records = records := by
  obtain ⟨source, kept⟩ := shell.keepRecords_cases records
  rw [kept]

theorem records_serve (shell : Shell Host) {answer : Answer}
    (request : Request (Action Host) answer) :
    (shell.serve request).2.records = shell.records.after request.calls := by
  have effect := effect_serve shell request
  cases request with
  | addRecord name lines => exact shell.records_keepRecords _
  | getRecord name => rfl
  | recordNames => rfl
  | _ =>
      generalize (Shell.serve _ _).2 = served at effect
      cases effect <;> rfl

/-- Whatever has been stored in between has been stored under other names. -/
def StoresBeside (name : String) (shell later : Shell Host) : Prop :=
  ∃ calls, (∀ others, .add name others ∉ calls) ∧ later.records = shell.records.after calls

def NeverStores (name : String) (task : Task Host) (shell : Shell Host) : Prop :=
  ∀ (loops : List Opened) (others : List String) (next : Except Failure Unit → Script Host)
    (reached : Shell Host),
    ¬ Comes task shell loops (.script (.perform (.addRecord name others) next)) reached

theorem storesBeside_of_eq (same : later.records = shell.records) : StoresBeside name shell later :=
  ⟨[], by simp, same⟩

theorem spans_storesBeside (name : String) : Spans (@StoresBeside Host name) where
  same := by
    intro shell later same
    rw [same]
    exact storesBeside_of_eq rfl
  trans := by
    rintro shell middle later ⟨first, spared, before⟩ ⟨second, alsoSpared, behind⟩
    refine ⟨first ++ second, ?_, ?_⟩
    · intro others member
      rcases List.mem_append.mp member with early | late
      · exact spared others early
      · exact alsoSpared others late
    · rw [behind, before, RecordStore.after_append]
  asks := by
    intro shell step asked next
    apply storesBeside_of_eq
    rcases next_cases next with rfl | ⟨text, rfl⟩
    · rfl
    · rfl

theorem NeverStores.serves (never : NeverStores name task shell) :
    Serves (StoresBeside name) task shell := by
  intro loops answer request next reached points
  refine ⟨request.calls, ?_, reached.records_serve request⟩
  intro others member
  cases request with
  | addRecord other lines =>
      obtain ⟨rfl, rfl⟩ : name = other ∧ others = lines := by simpa [Request.calls] using member
      exact never _ _ _ _ points
  | _ => simp [Request.calls] at member

theorem Comes.storesBeside {loops : List Opened} (points : Comes task shell loops sub middle)
    (never : NeverStores name task shell) : StoresBeside name shell middle :=
  (spans_storesBeside name).comes points never.serves

theorem storesBeside_of_ends (ends : Ends task shell (result, final))
    (never : NeverStores name task shell) : StoresBeside name shell final :=
  (spans_storesBeside name).runs (ends_iff_runs.mp ends) never.serves

end Shell

end MenuShell

import MenuShell.Input.Channel

/-!
Senders and a reader at work on one channel, in any order. The reader gets whole frames, one after the
other as they were accepted: what it has read and what is still there make up all that was sent. It
comes to the end only when nobody is left to send and nothing is left to read. A channel with a limit
makes its senders wait, so that what can happen on it is among what can happen here.
-/

namespace MenuShell

namespace Channel

variable {channel later : Channel} {frames rest : List (List String)} {line : String}
  {left : List String}

theorem unread_eq_flatten (channel : Channel) :
    channel.unread = (channel.pending :: channel.queue).flatten := rfl

theorem firstLine?_eq_none_iff : firstLine? frames = none ↔ frames.flatten = [] := by
  induction frames with
  | nil => simp [firstLine?]
  | cons frame frames ih => cases frame <;> simp [firstLine?, ih]

theorem firstLine?_eq_some (found : firstLine? frames = some (line, left, rest)) :
    ∃ empty, empty.flatten = [] ∧ frames = empty ++ (line :: left) :: rest := by
  induction frames with
  | nil => simp [firstLine?] at found
  | cons frame frames ih =>
      cases frame with
      | nil =>
          obtain ⟨empty, none, rfl⟩ := ih found
          exact ⟨[] :: empty, by simpa using none, rfl⟩
      | cons first others =>
          simp only [firstLine?, Option.some.injEq, Prod.mk.injEq] at found
          obtain ⟨rfl, rfl, rfl⟩ := found
          exact ⟨[], rfl, rfl⟩

inductive Reads : Channel → Receipt → Channel → Prop
  | line {channel : Channel} {line : String} {left : List String} {rest : List (List String)} :
      firstLine? (channel.pending :: channel.queue) = some (line, left, rest) →
      Reads channel (.line line) { channel with pending := left, queue := rest }
  | ended {channel : Channel} : channel.unread = [] → channel.senders = 0 →
      Reads channel .ended { channel with pending := [], queue := [] }
  | waiting {channel : Channel} : channel.unread = [] → channel.senders ≠ 0 →
      Reads channel .waiting { channel with pending := [], queue := [] }

theorem reads_read (channel : Channel) : Reads channel channel.read.1 channel.read.2 := by
  unfold read
  split
  · rename_i found
    exact .line found
  · rename_i none
    have empty : channel.unread = [] := firstLine?_eq_none_iff.mp none
    split
    · rename_i gone
      exact .ended empty gone
    · rename_i others
      exact .waiting empty others

theorem receipt_eq (channel : Channel) :
    channel.read.1 = match channel.unread with
      | line :: _ => .line line
      | [] => if channel.senders = 0 then .ended else .waiting := by
  rcases taken : channel.read with ⟨receipt, later⟩
  have reads := channel.reads_read
  rw [taken] at reads
  cases reads with
  | line found =>
      obtain ⟨empty, none, parts⟩ := firstLine?_eq_some found
      rw [unread_eq_flatten, parts, List.flatten_append, none]
      rfl
  | ended empty gone => simp [empty, gone]
  | waiting empty others => simp [empty, others]

/-! ### Shared channels -/

structure Shared where
  channel : Channel
  senders : List Nat

def Shared.opened : Shared :=
  { channel := {}, senders := [0] }

inductive Act where
  | sent (sender : Nat) (frame : List String)
  | cloned (sender copy : Nat)
  | dropped (sender : Nat)
  | read (receipt : Receipt)
deriving DecidableEq

def Act.accepts : Act → List (List String)
  | .sent _ frame => [frame]
  | _ => []

def Act.receives : Act → List String
  | .read (.line line) => [line]
  | _ => []

def accepted (acts : List Act) : List (List String) :=
  acts.flatMap Act.accepts

def received (acts : List Act) : List String :=
  acts.flatMap Act.receives

namespace Shared

/-- Only who is there can send, be cloned or go. A reading that has to wait may take place too; it
goes on as another one. -/
inductive Step : Shared → Act → Shared → Prop
  | send {channel later : Channel} {senders : List Nat} {sender : Nat} {frame : List String} :
      sender ∈ senders → channel.send frame = .ok later →
      Step ⟨channel, senders⟩ (.sent sender frame) ⟨later, senders⟩
  | clone {channel : Channel} {senders : List Nat} {sender copy : Nat} :
      sender ∈ senders → copy ∉ senders →
      Step ⟨channel, senders⟩ (.cloned sender copy) ⟨channel.clone, copy :: senders⟩
  | drop {channel : Channel} {senders : List Nat} {sender : Nat} : sender ∈ senders →
      Step ⟨channel, senders⟩ (.dropped sender) ⟨channel.dropSender, senders.erase sender⟩
  | read {channel later : Channel} {senders : List Nat} {receipt : Receipt} :
      channel.read = (receipt, later) → Step ⟨channel, senders⟩ (.read receipt) ⟨later, senders⟩

inductive Run : Shared → List Act → Shared → Prop
  | nil (shared : Shared) : Run shared [] shared
  | cons {first middle last : Shared} {act : Act} {acts : List Act} : Step first act middle →
      Run middle acts last → Run first (act :: acts) last

variable {first last shared : Shared} {act : Act} {acts before behind : List Act}

theorem Run.split (run : Run first (before ++ behind) last) :
    ∃ middle, Run first before middle ∧ Run middle behind last := by
  induction before generalizing first with
  | nil => exact ⟨first, .nil first, run⟩
  | cons act before ih =>
      cases run with
      | cons step others =>
          obtain ⟨middle, front, back⟩ := ih others
          exact ⟨middle, .cons step front, back⟩

structure Attended (shared : Shared) : Prop where
  listening : shared.channel.listening = true
  count : shared.channel.senders = shared.senders.length

theorem attended_opened : opened.Attended :=
  ⟨rfl, rfl⟩

theorem send_of_attended (attended : shared.Attended) (frame : List String) :
    shared.channel.send frame =
      .ok { shared.channel with queue := shared.channel.queue ++ [frame] } := by
  rw [Channel.send, if_pos attended.listening]

theorem Attended.step (attended : first.Attended) (step : Step first act last) :
    last.Attended := by
  obtain ⟨listening, count⟩ := attended
  cases step with
  | @send _ _ _ _ frame _ sent =>
      rw [send_of_attended ⟨listening, count⟩ frame, Except.ok.injEq] at sent
      subst sent
      exact ⟨listening, count⟩
  | clone _ _ => exact ⟨listening, congrArg (· + 1) count⟩
  | drop present =>
      refine ⟨listening, ?_⟩
      rw [List.length_erase_of_mem present]
      exact congrArg (· - 1) count
  | @read channel _ _ _ taken =>
      have reads := channel.reads_read
      rw [taken] at reads
      cases reads <;> exact ⟨listening, count⟩

theorem Attended.run (attended : first.Attended) (run : Run first acts last) : last.Attended := by
  induction run with
  | nil => exact attended
  | cons step _ ih => exact ih (attended.step step)

theorem Attended.senders_eq_zero_iff (attended : shared.Attended) :
    shared.channel.senders = 0 ↔ shared.senders = [] := by
  rw [attended.count, List.length_eq_zero_iff]

/-- Of the frames that were accepted, some have been taken off the queue, and the others wait there.
The lines of those that were taken have been read, but for the end of the last one. -/
def Conserves (frames : List (List String)) (lines : List String) (channel : Channel) : Prop :=
  ∃ taken, frames = taken ++ channel.queue ∧ taken.flatten = lines ++ channel.pending ∧
    channel.pending <:+ taken.getLast?.getD []

theorem Conserves.flatten_eq {lines : List String} (conserves : Conserves frames lines channel) :
    lines ++ channel.unread = frames.flatten := by
  obtain ⟨taken, rfl, read, -⟩ := conserves
  rw [List.flatten_append, read, unread, List.append_assoc]

theorem Conserves.reads {lines : List String} {receipt : Receipt}
    (conserves : Conserves frames lines channel) (reads : Reads channel receipt later) :
    Conserves frames (lines ++ (Act.read receipt).receives) later := by
  obtain ⟨taken, rfl, read, partly⟩ := conserves
  have emptied (none : channel.unread = []) :
      Conserves (taken ++ channel.queue) (lines ++ [])
        { channel with pending := [], queue := [] } := by
    obtain ⟨pending, queue⟩ := List.append_eq_nil_iff.mp none
    refine ⟨taken ++ channel.queue, (List.append_nil _).symm, ?_, List.nil_suffix⟩
    rw [List.flatten_append, read, queue, pending, List.append_nil, List.append_nil]
  cases reads with
  | ended none _ => exact emptied none
  | waiting none _ => exact emptied none
  | @line line left rest found =>
      obtain ⟨empty, none, parts⟩ := firstLine?_eq_some found
      cases empty with
      | nil =>
          -- The frame that is being read has the line.
          obtain ⟨pending, queue⟩ := List.cons.inj parts
          refine ⟨taken, by rw [queue], ?_, ?_⟩
          · rw [read, pending]
            simp [Act.receives]
          · exact (List.suffix_cons line left).trans (pending ▸ partly)
      | cons frame empty =>
          -- It has run out, and the line stands at the head of a later frame.
          obtain ⟨pending, queue⟩ := List.cons.inj parts
          rw [List.flatten_cons, List.append_eq_nil_iff] at none
          refine ⟨taken ++ empty ++ [line :: left], by rw [queue]; simp, ?_, ?_⟩
          · rw [List.flatten_append, List.flatten_append, read, pending, none.1, none.2]
            simp [Act.receives]
          · simp

theorem Conserves.step {lines : List String} (attended : first.Attended)
    (conserves : Conserves frames lines first.channel) (step : Step first act last) :
    Conserves (frames ++ act.accepts) (lines ++ act.receives) last.channel := by
  cases step with
  | @send _ _ _ _ frame _ sent =>
      rw [send_of_attended attended frame, Except.ok.injEq] at sent
      subst sent
      obtain ⟨taken, rfl, read, partly⟩ := conserves
      exact ⟨taken, by simp [Act.accepts], by simpa [Act.receives] using read, partly⟩
  | clone _ _ =>
      simp only [Act.accepts, Act.receives, List.append_nil]
      exact conserves
  | drop _ =>
      simp only [Act.accepts, Act.receives, List.append_nil]
      exact conserves
  | @read channel _ _ _ taken =>
      have reads := channel.reads_read
      rw [taken] at reads
      simpa [Act.accepts] using conserves.reads reads

theorem Conserves.run {lines : List String} (attended : first.Attended)
    (conserves : Conserves frames lines first.channel) (run : Run first acts last) :
    Conserves (frames ++ accepted acts) (lines ++ received acts) last.channel := by
  induction run generalizing frames lines with
  | nil => simpa [accepted, received] using conserves
  | cons step _ ih =>
      have others := ih (attended.step step) (conserves.step attended step)
      simpa [accepted, received] using others

theorem conserves_of_run (run : Run opened acts last) :
    Conserves (accepted acts) (received acts) last.channel := by
  have start : Conserves [] [] opened.channel := ⟨[], rfl, rfl, List.nil_suffix⟩
  simpa using start.run attended_opened run

structure Over (shared : Shared) : Prop where
  senders : shared.senders = []
  unread : shared.channel.unread = []

theorem Over.step (finished : first.Over) (attended : first.Attended) (step : Step first act last) :
    act = .read .ended ∧ last.Over := by
  have count := attended.senders_eq_zero_iff.mpr finished.senders
  cases step with
  | send present _ => exact absurd finished.senders (List.ne_nil_of_mem present)
  | clone present _ => exact absurd finished.senders (List.ne_nil_of_mem present)
  | drop present => exact absurd finished.senders (List.ne_nil_of_mem present)
  | @read channel _ _ _ taken =>
      have reads := channel.reads_read
      rw [taken] at reads
      cases reads with
      | line found =>
          have none : (channel.pending :: channel.queue).flatten = [] := finished.unread
          rw [firstLine?_eq_none_iff.mpr none] at found
          simp at found
      | ended _ _ => exact ⟨rfl, finished.senders, rfl⟩
      | waiting _ others => exact absurd count others

theorem Over.run (finished : first.Over) (attended : first.Attended) (run : Run first acts last) :
    ∀ act ∈ acts, act = .read .ended := by
  induction run with
  | nil => simp
  | cons step _ ih =>
      obtain ⟨ended, still⟩ := finished.step attended step
      intro act member
      rcases List.mem_cons.mp member with rfl | later
      · exact ended
      · exact ih still (attended.step step) act later

theorem over_of_ended (attended : first.Attended) (step : Step first (.read .ended) last) :
    first.Over ∧ last.Over := by
  cases step with
  | @read channel _ _ _ taken =>
      have reads := channel.reads_read
      rw [taken] at reads
      cases reads with
      | ended none gone =>
          have nobody := attended.senders_eq_zero_iff.mp gone
          exact ⟨⟨nobody, none⟩, nobody, rfl⟩

/-- Whatever senders, cloned and dropped at will, and the reader do to a channel, and in whatever
order: what has been read and what is still to be read is all that was accepted, frame by frame in the
order of acceptance; the reader holds the end of one frame at most, and the queue has those behind it
whole. Whoever is there can send, a line that is there is read, and the end is reported just when
nobody is left to send and every line has been read, and from then on always. -/
theorem lines_arrive_as_sent (run : Run opened acts shared) :
    received acts ++ shared.channel.unread = (accepted acts).flatten ∧
    (∃ taken, accepted acts = taken ++ shared.channel.queue ∧
      taken.flatten = received acts ++ shared.channel.pending ∧
      shared.channel.pending <:+ taken.getLast?.getD []) ∧
    (∀ sender ∈ shared.senders, ∀ frame, ∃ later, Step shared (.sent sender frame) later) ∧
    shared.channel.read.1 = (match shared.channel.unread with
      | line :: _ => .line line
      | [] => if shared.senders = [] then .ended else .waiting) ∧
    ∀ before behind, acts = before ++ .read .ended :: behind →
      (∃ middle, Run opened before middle ∧ middle.senders = [] ∧
        Run middle (.read .ended :: behind) shared) ∧
      received before = (accepted acts).flatten ∧ ∀ act ∈ behind, act = .read .ended := by
  have attended : shared.Attended := attended_opened.run run
  have conserves := conserves_of_run run
  refine ⟨conserves.flatten_eq, conserves, ?_, ?_, ?_⟩
  · intro sender present frame
    exact ⟨_, .send present (send_of_attended attended frame)⟩
  · rw [receipt_eq]
    simp only [attended.senders_eq_zero_iff]
  · rintro before behind rfl
    obtain ⟨middle, front, others⟩ := run.split
    cases others with
    | cons ended others =>
        have midAttended : middle.Attended := attended_opened.run front
        obtain ⟨finished, still⟩ := over_of_ended midAttended ended
        have after := still.run (midAttended.step ended) others
        refine ⟨⟨middle, front, finished.senders, .cons ended others⟩, ?_, after⟩
        -- Nothing has been accepted since.
        have silent : accepted (before ++ .read .ended :: behind) = accepted before := by
          have none : behind.flatMap Act.accepts = [] :=
            List.flatMap_eq_nil_iff.mpr fun act member => by rw [after act member]; rfl
          simp [accepted, none, Act.accepts]
        have whole := (conserves_of_run front).flatten_eq
        rw [silent, ← whole, finished.unread, List.append_nil]

theorem lines_arrive_as_sent_of_two_senders :
    let front : List Act :=
      [.cloned 0 1, .sent 0 ["a", "b"], .sent 1 [], .read (.line "a"), .sent 1 ["c"],
        .read (.line "b"), .dropped 0, .read (.line "c"), .read .waiting, .dropped 1]
    let acts := front ++ [.read .ended, .read .ended]
    ∃ shared, Run opened acts shared ∧ received acts ++ shared.channel.unread = ["a", "b", "c"] ∧
      received front = ["a", "b", "c"] := by
  intro front acts
  have run : Run opened acts ⟨{ senders := 0 }, []⟩ :=
    .cons (.clone (by decide) (by decide)) <| .cons (.send (by decide) rfl) <|
    .cons (.send (by decide) rfl) <| .cons (.read rfl) <| .cons (.send (by decide) rfl) <|
    .cons (.read rfl) <| .cons (.drop (by decide)) <| .cons (.read rfl) <| .cons (.read rfl) <|
    .cons (.drop (by decide)) <| .cons (.read rfl) <| .cons (.read rfl) <| .nil _
  obtain ⟨all, -, -, -, ended⟩ := lines_arrive_as_sent run
  exact ⟨_, run, all, (ended front [.read .ended] rfl).2.1⟩

end Shared

end Channel

end MenuShell

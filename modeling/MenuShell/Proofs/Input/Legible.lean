import MenuShell.Proofs.Input.Backlog
import MenuShell.Proofs.Text.Decoding

/-!
Sources that can be read to their end. A file of text gives one line after another as long as it
stays as it was, however its blocks are fetched; once it has been written to, what is fetched of it
may be cut within a character, and this is the only way in which a line of it can fail.
-/

namespace MenuShell

namespace Source

def Keeps (fine : Source → Prop) (bears : Failure → Prop) : Prop :=
  ∀ source result later, fine source → source.read = (result, later) →
    fine later ∧ ∀ failure, result = .error failure → bears failure

theorem Passes.keeps {fine : Source → Prop} {bears : Failure → Prop} {prompt? : Option String}
    {source later : Source} {readings : List Reading} {result : Except Failure (Option String)}
    (passes : source.Passes prompt? readings result later) (keeps : Keeps fine bears)
    (holds : fine source) : fine later ∧ ∀ failure, result = .error failure → bears failure := by
  induction passes with
  | stop taken _ => exact keeps _ _ _ holds taken
  | pass taken _ _ ih => exact ih (keeps _ _ _ holds taken).1

end Source

theorem Call.settle_failed {call settled : Call} {error : MenuError}
    (failed : call.settle = (.error error, settled)) : ∃ label, error = .labelNotFound label := by
  unfold settle at failed
  split at failed
  · simp at failed
  · split at failed
    · simp at failed
    · split at failed
      · simp at failed
      · split at failed
        · simp at failed
        · obtain ⟨same, -⟩ := Prod.mk.inj failed
          exact ⟨_, (Except.error.inj same).symm⟩

theorem Frame.draw_failed {frame : Frame} {error : MenuError}
    (failed : frame.draw = .failed error) : ∃ label, error = .labelNotFound label := by
  cases frame with
  | lines unread =>
      simp only [draw, drawLines] at failed
      split at failed <;> contradiction
  | endless line =>
      simp only [draw] at failed
      split at failed <;> contradiction
  | call running =>
      simp only [draw, drawCall] at failed
      split at failed
      · rename_i settled
        cases failed
        exact Call.settle_failed settled
      · split at failed <;> contradiction

theorem InputStack.query_keeps {fine : Source → Prop} {bears : Failure → Prop}
    (keeps : Source.Keeps fine bears) (input : InputStack) (prompt? : Option String)
    (holds : fine input.source) :
    fine (input.query prompt?).rest.source ∧
      ∀ failure, (input.query prompt?).result = .error failure →
        (∃ label, failure = .ofError (.labelNotFound label)) ∨ bears failure := by
  obtain ⟨frames, source⟩ := input
  induction frames with
  | nil =>
      obtain ⟨later, borne⟩ := (query_fromSource prompt? source).passes.keeps keeps holds
      exact ⟨later, fun failure failed => .inr (borne failure failed)⟩
  | cons frame below ih =>
      simp only [query, drawFrom]
      split
      · exact ⟨holds, by simp⟩
      · exact ih holds
      · rename_i error failed
        refine ⟨holds, ?_⟩
        rintro _ ⟨⟩
        obtain ⟨label, rfl⟩ := Frame.draw_failed failed
        exact .inl ⟨label, rfl⟩

def Source.undecodable : Failure :=
  (Failure.ofMessage unreadable).during readingContext

theorem Source.read_of_lines (lines : List String) :
    (Source.listed (lines.map .ok)).read =
      (.ok lines.head?, .listed (lines.tail.map .ok)) := by
  cases lines <;> rfl

inductive Source.Tame : Source → Prop
  | typed (lines : List String) : Tame (.listed (lines.map .ok))
  | bytes (stream : ByteStream) : Tame (.bytes stream)

theorem Source.keeps_tame : Keeps Tame (· = undecodable) := by
  rintro source result later (lines | stream) taken
  · rw [read_of_lines] at taken
    obtain ⟨rfl, rfl⟩ := Prod.mk.inj taken
    exact ⟨.typed _, by simp⟩
  · simp only [read] at taken
    split at taken
    · obtain ⟨rfl, rfl⟩ := Prod.mk.inj taken
      refine ⟨.bytes _, ?_⟩
      intro failure failed
      unfold decodeLine at failed
      split at failed
      · simp [Except.map] at failed
      · exact (Except.error.inj failed).symm
    · obtain ⟨rfl, rfl⟩ := Prod.mk.inj taken
      exact ⟨.bytes _, by simp⟩

theorem Source.tame_refresh {source : Source} (tame : source.Tame) (files : FileSystem) :
    (source.refresh files).Tame := by
  cases tame with
  | typed lines => exact .typed lines
  | bytes stream => exact .bytes _

theorem ByteStream.file?_advance (stream : ByteStream) (count : Nat) :
    (stream.advance count).file? = stream.file? := by
  unfold advance
  split <;> rfl

theorem ByteStream.ahead_advance {stream : ByteStream} {bytes : List UInt8}
    (ahead : stream.ahead = bytes.drop stream.position) (count : Nat) :
    (stream.advance count).ahead = bytes.drop (stream.advance count).position := by
  unfold advance
  split
  · exact ahead
  · simp only [ahead, List.drop_drop, List.length_take, List.length_drop]
    generalize wholeBlocks (count - stream.fetched.length) = fetched
    rcases Nat.le_total fetched (bytes.length - stream.position) with within | beyond
    · rw [Nat.min_eq_left within]
    · rw [Nat.min_eq_right beyond, List.drop_eq_nil_of_le (by omega),
        List.drop_eq_nil_of_le (by omega)]

/-- The stream reads a file of these bytes, and what it has still to give is a text. -/
structure ByteStream.Follows (stream : ByteStream) (place : Place) (bytes : List UInt8) : Prop where
  file : stream.file? = some place
  ahead : stream.ahead = bytes.drop stream.position
  text : Text.IsText stream.unread

theorem ByteStream.follows_ofFile {place : Place} {bytes : List UInt8} (text : Text.IsText bytes) :
    (ofFile place bytes).Follows place bytes :=
  ⟨rfl, rfl, text⟩

theorem ByteStream.Follows.advance {stream : ByteStream} {place : Place} {bytes : List UInt8}
    (follows : stream.Follows place bytes) {count : Nat}
    (text : Text.IsText (stream.unread.drop count)) :
    (stream.advance count).Follows place bytes := by
  rw [← unread_advance] at text
  exact ⟨(stream.file?_advance count).trans follows.file, ahead_advance follows.ahead count, text⟩

theorem ByteStream.Follows.refresh {stream : ByteStream} {place : Place} {bytes : List UInt8}
    (follows : stream.Follows place bytes) {files : FileSystem}
    (kept : files.entry? place = some (.file bytes)) : stream.refresh files = stream := by
  have found : stream.file?.bind files.entry? = some (.file bytes) := by
    rw [follows.file, Option.bind_some, kept]
  simp only [ByteStream.refresh, found, ← follows.ahead]

def Source.Unbacked : Source → Prop
  | .bytes stream => stream.file? = none
  | _ => True

theorem Source.keeps_unbacked : Keeps Unbacked fun _ => True := by
  intro source result later unbacked taken
  refine ⟨?_, fun _ _ => trivial⟩
  unfold read at taken
  split at taken
  · cases taken
    exact trivial
  · cases taken
    exact trivial
  · split at taken
    · rename_i line rest found
      cases taken
      unfold ByteStream.read? at found
      split at found
      · contradiction
      · cases found
        exact (ByteStream.file?_advance _ _).trans unbacked
    · cases taken
      exact unbacked
  · cases taken
    exact trivial

theorem Source.Unbacked.refresh {source : Source} (unbacked : source.Unbacked)
    (files : FileSystem) : source.refresh files = source := by
  cases source with
  | bytes stream =>
      have none : stream.file? = none := unbacked
      simp [Source.refresh, ByteStream.refresh, none]
  | _ => rfl

/-- A source that can be read to its end. If it is a file, the file is to hold these bytes. -/
inductive Source.Legible (script? : Option (Place × List UInt8)) : Source → Prop
  | typed (lines : List String) : Legible script? (.listed (lines.map .ok))
  | script {place : Place} {bytes : List UInt8} {stream : ByteStream} :
      script? = some (place, bytes) → stream.Follows place bytes → Legible script? (.bytes stream)

theorem Source.keeps_legible (script? : Option (Place × List UInt8)) :
    Keeps (Legible script?) fun _ => False := by
  rintro source result later (lines | @⟨place, bytes, stream, known, follows⟩) taken
  · rw [read_of_lines] at taken
    obtain ⟨rfl, rfl⟩ := Prod.mk.inj taken
    exact ⟨.typed _, by simp⟩
  · obtain ⟨line, others⟩ := follows.text.firstLine
    simp only [read, ByteStream.read?] at taken
    cases first : Text.firstLine stream.unread with
    | nil =>
        simp only [first] at taken
        obtain ⟨rfl, rfl⟩ := Prod.mk.inj taken
        exact ⟨.script known follows, by simp⟩
    | cons byte rest =>
        rw [first] at line others
        simp only [first] at taken
        obtain ⟨rfl, rfl⟩ := Prod.mk.inj taken
        refine ⟨.script known (follows.advance others), ?_⟩
        obtain ⟨text, decoded⟩ := Option.isSome_iff_exists.mp line
        simp [decodeLine, decoded, Except.map]

theorem Source.Legible.refresh {script? : Option (Place × List UInt8)} {source : Source}
    (legible : source.Legible script?) {files : FileSystem}
    (kept : ∀ place bytes, script? = some (place, bytes) →
      files.entry? place = some (.file bytes)) : (source.refresh files).Legible script? := by
  cases legible with
  | typed lines => exact .typed lines
  | script known follows =>
      rw [Source.refresh, follows.refresh (kept _ _ known)]
      exact .script known follows

theorem Source.Legible.tame {script? : Option (Place × List UInt8)} {source : Source}
    (legible : source.Legible script?) : source.Tame := by
  cases legible with
  | typed lines => exact .typed lines
  | script known follows => exact .bytes _

theorem Source.legible_ofTerminal {typed : List UInt8} (text : Text.IsText typed)
    (script? : Option (Place × List UInt8)) : (ofTerminal typed).Legible script? := by
  let line (raw : List UInt8) : String := typedLine ((Text.decode? raw).getD "")
  have all : (Text.rawLines typed).map (decodeLine terminalContext typedLine) =
      ((Text.rawLines typed).map line).map .ok := by
    rw [List.map_map]
    apply List.map_congr_left
    intro raw member
    obtain ⟨given, known⟩ := Option.isSome_iff_exists.mp (text.of_mem_rawLines member)
    simp [decodeLine, known, line]
  rw [ofTerminal, all]
  exact .typed _

end MenuShell

import MenuShell.Proofs.Input.Giving
import MenuShell.Proofs.Input.Legible

/-!
How far reading takes the input. Queries take lines from the frame on top, drop it once it has run out
and come to the external source when no frame is left; the frames below the one that is being read
stay as they were, with all that has been requested of them. A source that agrees with its file goes on
agreeing with it however much is read.
-/

namespace MenuShell

namespace Frame

inductive Drawn : Frame → Frame → Prop
  | nothing (frame : Frame) : Drawn frame frame
  | line {frame rest last : Frame} {line : String} :
      frame.draw = .line line rest → Drawn rest last → Drawn frame last

theorem Drawn.trans {frame rest last : Frame} (drawn : frame.Drawn rest)
    (others : rest.Drawn last) : frame.Drawn last := by
  induction drawn with
  | nothing => exact others
  | line first _ ih => exact .line first (ih others)

end Frame

namespace Answered

def line? (answered : Answered) : Option String :=
  answered.result.toOption.join

def complaint? (answered : Answered) : Option String :=
  match answered.result with
  | .ok _ => none
  | .error failure =>
    match failure.menuError? with
    | none => none
    | some error => if error.isUserError then some (error.message ++ "\n") else none

end Answered

namespace InputStack

variable {input middle later : InputStack} {lines others complaints : List String}

inductive Reads : InputStack → List String → List String → InputStack → Prop
  | nothing (input : InputStack) : Reads input [] [] input
  | query {input later : InputStack} {lines complaints : List String} (prompt? : Option String) :
      Reads (input.query prompt?).rest lines complaints later →
      Reads input ((input.query prompt?).line?.toList ++ lines)
        ((input.query prompt?).complaint?.toList ++ complaints) later

theorem Reads.trans {more : List String} (reads : input.Reads lines complaints middle)
    (further : middle.Reads others more later) :
    input.Reads (lines ++ others) (complaints ++ more) later := by
  induction reads with
  | nothing => exact further
  | query prompt? _ ih =>
      rw [List.append_assoc, List.append_assoc]
      exact .query prompt? (ih further)

/-- Frames are gone or the one now on top has been read from, those below it are as they were, and the
source has been read only if no frame is left. -/
inductive Advanced (input : InputStack) : InputStack → Prop
  | dropped {below : List Frame} : below <:+ input.frames →
      Advanced input { input with frames := below }
  | within {frame rest : Frame} {below : List Frame} : frame :: below <:+ input.frames →
      frame.Drawn rest → Advanced input { input with frames := rest :: below }
  | source (source : Source) : Advanced input { frames := [], source }

theorem Advanced.trans (first : input.Advanced middle) (others : middle.Advanced later) :
    input.Advanced later := by
  cases others with
  | source source => exact .source source
  | dropped left =>
      cases first with
      | source source =>
          rw [List.suffix_nil.mp left]
          exact .source source
      | dropped known => exact .dropped (left.trans known)
      | within known drawn =>
          rcases List.suffix_cons_iff.mp left with rfl | left
          · exact .within known drawn
          · exact .dropped (left.trans ((List.suffix_cons _ _).trans known))
  | within left later =>
      cases first with
      | source source => simp at left
      | dropped known => exact .within (left.trans known) later
      | within known drawn =>
          rcases List.suffix_cons_iff.mp left with same | left
          · obtain ⟨rfl, rfl⟩ := List.cons.inj same
            exact .within known (drawn.trans later)
          · exact .within (left.trans ((List.suffix_cons _ _).trans known)) later

theorem advanced_query (input : InputStack) (prompt? : Option String) :
    input.Advanced (input.query prompt?).rest := by
  obtain ⟨frames, source⟩ := input
  induction frames with
  | nil =>
      have emptied := (query_fromSource prompt? source).emptied
      rcases left : (query { source } prompt?).rest with ⟨frames, later⟩
      rw [left] at emptied
      rw [show frames = [] from emptied]
      exact .source later
  | cons frame below ih =>
      have dropped : Advanced { frames := frame :: below, source } { frames := below, source } :=
        .dropped (List.suffix_cons _ _)
      simp only [query, drawFrom]
      split
      · rename_i drawn
        exact .within (List.suffix_refl _) (.line drawn (.nothing _))
      · exact dropped.trans ih
      · exact dropped

theorem Reads.advanced (reads : input.Reads lines complaints later) : input.Advanced later := by
  induction reads with
  | nothing input => exact .dropped (List.suffix_refl _)
  | query prompt? _ ih => exact (advanced_query _ prompt?).trans ih

end InputStack

/-- The source has not missed anything that has been written to its file. -/
def Source.Agrees (files : FileSystem) (source : Source) : Prop :=
  source.refresh files = source

theorem ByteStream.refresh_advance {stream : ByteStream} {files : FileSystem}
    (agrees : stream.refresh files = stream) (count : Nat) :
    (stream.advance count).refresh files = stream.advance count := by
  unfold refresh at agrees ⊢
  rw [file?_advance]
  split at agrees
  · rw [← ahead_advance (congrArg ahead agrees).symm count, ← file?_advance stream count]
  · rfl

theorem ByteStream.refresh_refresh (stream : ByteStream) (files : FileSystem) :
    (stream.refresh files).refresh files = stream.refresh files := by
  cases found : stream.file?.bind files.entry? with
  | none => simp [refresh, found]
  | some entry => cases entry <;> simp [refresh, found]

theorem Source.keeps_agrees (files : FileSystem) : Keeps (Agrees files) fun _ => True := by
  intro source result later agrees taken
  refine ⟨?_, fun _ _ => trivial⟩
  unfold read at taken
  split at taken
  · cases taken
    rfl
  · cases taken
    rfl
  · split at taken
    · rename_i line rest found
      cases taken
      unfold ByteStream.read? at found
      split at found
      · contradiction
      · cases found
        exact congrArg bytes (ByteStream.refresh_advance (Source.bytes.inj agrees) _)
    · cases taken
      exact agrees
  · cases taken
    rfl

theorem Source.agrees_refresh (files : FileSystem) (source : Source) :
    (source.refresh files).Agrees files := by
  cases source with
  | bytes stream => exact congrArg bytes (stream.refresh_refresh files)
  | _ => rfl

end MenuShell

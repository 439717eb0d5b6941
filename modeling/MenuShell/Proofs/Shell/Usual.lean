import MenuShell.Commands.Conditional
import MenuShell.Commands.Samples
import MenuShell.Proofs.Shell.Capturing
import MenuShell.Proofs.Shell.Conduct

/-!
The conduct of the commands that come with the shell. None of them changes the tree, only `pause` reads
the external source, and they visit menus alone; they raise no mistakes of their own, and the names that
they take from a line are not empty.
-/

namespace MenuShell

/-- Requests that leave the tree and the external source alone. A procedure is recorded under some
name. -/
def Request.IsUsual {Action : Type} {answer : Answer} : Request Action answer → Prop
  | .edit _ | .resolve _ _ _ | .resolveNamed _ _ _ | .readExternal _ => False
  | .recordProcedure name _ => name ≠ ""
  | _ => True

namespace Shell

variable {Host : Type} {conduct : Conduct Host}

structure Conduct.Usual (conduct : Conduct Host) : Prop where
  allows : ∀ {answer : Answer} {request : Request (Action Host) answer}, request.IsUsual →
    conduct.allows request
  enters : ∀ menu, conduct.enters (.menu menu)
  bears : ∀ failure, failure.isProgrammingError = false → conduct.bears failure

def IsUsual (action : Action Host) : Prop :=
  ∀ conduct : Conduct Host, conduct.Usual → ∀ line, conduct.Keeps (action line)

namespace Conduct.Usual

variable {next : Script Host}

theorem andThen (usual : conduct.Usual) {request : Request (Action Host) .nothing}
    (quiet : request.IsUsual) (others : conduct.Keeps next) :
    conduct.Keeps (.andThen request next) :=
  keeps_andThen (usual.allows quiet) others

theorem ask (usual : conduct.Usual) {answer : Answer} {request : Request (Action Host) answer}
    {next : answer.Value → Script Host} (quiet : request.IsUsual)
    (others : ∀ value, conduct.Keeps (next value)) : conduct.Keeps (.ask request next) :=
  keeps_ask (usual.allows quiet) others

theorem say (usual : conduct.Usual) (text : String) (others : conduct.Keeps next) :
    conduct.Keeps (.say text next) :=
  usual.andThen trivial others

theorem capture (usual : conduct.Usual) (menu : NodeId) {next : List String → Script Host}
    (others : ∀ lines, conduct.Keeps (next lines)) :
    conduct.Keeps (Commands.capture menu next) := by
  refine usual.andThen trivial (keeps_enter (usual.enters menu) fun _ => ?_)
  exact usual.ask trivial fun lines => usual.andThen trivial (others lines)

end Conduct.Usual

open Conduct

theorem isUsual_quit : IsUsual fun _ => (.done .quit : Script Host) :=
  fun _ _ _ => .done .quit

theorem isUsual_request {request : String → Request (Action Host) .nothing}
    (quiet : ∀ line, (request line).IsUsual) :
    IsUsual fun line => .andThen (request line) (.done .normal) :=
  fun _ usual line => usual.andThen (quiet line) (.done .normal)

theorem isUsual_say (text : String → String) :
    IsUsual fun line => (.say (text line) (.done .normal) : Script Host) :=
  fun _ usual line => usual.say (text line) (.done .normal)

theorem isUsual_withArguments {spec : ArgumentSpec} {run : Arguments → Script Host}
    (runs : ∀ conduct : Conduct Host, conduct.Usual → ∀ arguments : Arguments,
      (∀ word ∈ arguments.positionals, word ≠ "") → conduct.Keeps (run arguments)) :
    IsUsual (Script.withArguments spec run) := by
  intro conduct usual line
  unfold Script.withArguments
  split
  · rename_i arguments parsed
    apply runs conduct usual arguments
    -- Words that are read from a line are not empty.
    intro word member
    exact Text.ne_empty_of_mem_words (ArgumentSpec.mem_words_of_parse parsed member)
  · exact usual.say _ (.done .normal)

theorem isUsual_request_withArguments {spec : ArgumentSpec}
    {request : Arguments → Request (Action Host) .nothing}
    (quiet : ∀ arguments, (request arguments).IsUsual) :
    IsUsual (Script.withArguments spec fun arguments =>
      .andThen (request arguments) (.done .normal)) :=
  isUsual_withArguments fun _ usual arguments _ => usual.andThen (quiet arguments) (.done .normal)

theorem isUsual_runProc (menu : NodeId) :
    IsUsual (Script.withArguments Commands.procSpec (Commands.runProc menu) : Action Host) := by
  apply isUsual_withArguments
  intro conduct usual arguments named
  unfold Commands.runProc
  split
  · exact usual.say _ (.done .normal)
  · rename_i name others positionals
    have nonempty : name ≠ "" := named name (by simp [positionals])
    refine usual.ask trivial fun settings => usual.say _ (usual.capture menu fun lines => ?_)
    exact usual.andThen nonempty (.done .normal)

theorem isUsual_runRecord (menu : NodeId) :
    IsUsual (Script.withArguments Commands.recordSpec (Commands.runRecord menu) : Action Host) := by
  apply isUsual_withArguments
  intro conduct usual arguments _
  unfold Commands.runRecord
  split
  · exact usual.say _ (.done .normal)
  · exact usual.capture menu fun lines => usual.andThen trivial (.done .normal)

theorem isUsual_runReplay :
    IsUsual (Script.withArguments Commands.replaySpec Commands.runReplay : Action Host) := by
  apply isUsual_withArguments
  intro conduct usual arguments _
  unfold Commands.runReplay
  split
  · exact usual.ask trivial fun names => usual.say _ (.done .normal)
  · refine usual.ask trivial fun settings => usual.ask trivial fun lines => ?_
    exact usual.andThen trivial (.done .normal)

theorem isUsual_runIf (menu : NodeId) : IsUsual (Commands.runIf menu : Action Host) := by
  intro conduct usual line
  refine usual.ask trivial fun mode => usual.ask trivial fun verdict => ?_
  cases verdict with
  | none => exact .fail (usual.bears _ rfl)
  | some verdict =>
      dsimp only
      split
      · exact usual.andThen trivial (.done .normal)
      · exact .done .normal

theorem isUsual_runRepeat : IsUsual (Commands.runRepeat : Action Host) :=
  fun _ usual _ => usual.andThen trivial (usual.andThen trivial (.done .normal))

theorem isUsual_runNumber (menu : NodeId) : IsUsual (Commands.runNumber menu : Action Host) := by
  intro conduct usual line
  unfold Commands.runNumber
  split
  · exact usual.andThen trivial (.done .normal)
  · exact usual.say _ (.done .normal)

theorem isUsual_runAdd (menu : NodeId) : IsUsual (Commands.runAdd menu : Action Host) := by
  intro conduct usual line
  refine usual.say _ (usual.say _ (usual.andThen trivial ?_))
  refine keeps_enter (usual.enters menu) fun signal => usual.ask trivial fun numbers => ?_
  exact usual.say _ (.done .normal)

theorem isUsual_runGreet : IsUsual (Commands.runGreet : Action Host) := by
  intro conduct usual line
  unfold Commands.runGreet
  split
  · exact usual.say _ (.done .normal)
  · dsimp only
    split
    · exact usual.andThen trivial (.done .normal)
    · exact .fail (usual.bears _ rfl)

end Shell

end MenuShell

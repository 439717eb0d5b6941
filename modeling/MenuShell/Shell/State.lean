import MenuShell.Input.Prompts
import MenuShell.Input.Stack
import MenuShell.Procedure.Store
import MenuShell.Records.Store
import MenuShell.Script
import MenuShell.Tree.Help

/-!
The state of a shell between two steps, with all that has happened in it so far, and how it
answers the requests of scripts.
-/

namespace MenuShell

inductive Event where
  | read (reading : Reading)
  | wrote (text : String)
  | dispatched (menu : NodeId) (line : String)
  | acted (id : NodeId) (line : String)

structure Shell (Host : Type) where
  tree : Tree (Action Host)
  input : InputStack
  procedures : ProcedureStore
  conditions : List (String × Condition Host)
  prompts : PromptStack
  settings : Settings
  records : RecordStore
  notebooks : List (NodeId × List String)
  transcript : Array Event
  host : Host

namespace Shell

variable {Host : Type}

def note (shell : Shell Host) (event : Event) : Shell Host :=
  { shell with transcript := shell.transcript.push event }

def write (shell : Shell Host) (text : String) : Shell Host :=
  shell.note (.wrote text)

def writeLine (shell : Shell Host) (text : String) : Shell Host :=
  shell.write (text ++ "\n")

def report (shell : Shell Host) (error : MenuError) : Shell Host :=
  shell.writeLine error.message

def receive (shell : Shell Host) (answered : Answered) :
    Except Failure (Option String) × Shell Host :=
  (answered.result,
    { shell with
      input := answered.rest
      transcript := shell.transcript.appendList (answered.readings.map .read) })

def query (shell : Shell Host) (prompt? : Option String) :
    Except Failure (Option String) × Shell Host :=
  shell.receive (shell.input.query prompt?)

def readExternal (shell : Shell Host) (prompt? : Option String) :
    Except Failure (Option String) × Shell Host :=
  shell.receive (shell.input.readExternal prompt?)

def call (shell : Shell Host) (procedure : String) : Except MenuError (Shell Host) :=
  (shell.procedures.call procedure).map fun running =>
    { shell with input := shell.input.pushCall running }

/-- A condition of the same name is replaced. -/
def setCondition (shell : Shell Host) (name : String) (condition : Condition Host) :
    Shell Host :=
  if shell.conditions.any (·.1 = name) then
    { shell with
      conditions := shell.conditions.map fun entry =>
        if entry.1 = name then (name, condition) else entry }
  else { shell with conditions := shell.conditions ++ [(name, condition)] }

def holds (shell : Shell Host) : Condition Host → Bool
  | .constant value => value
  | .switch name => shell.tree.isOn name
  | .hasChild menu? selector =>
    (menu? shell.host).any fun menu => (shell.tree.child? menu selector).isSome
  | .firstTimes count => 0 < count
  | .custom looks holds => holds looks shell.tree shell.settings shell.host

def lookedAt : Condition Host → Condition Host
  | .firstTimes count => .firstTimes (count - 1)
  | .custom looks holds => .custom (looks + 1) holds
  | condition => condition

def test (shell : Shell Host) (word : String) (mode : Comparison) : Option Bool × Shell Host :=
  match shell.conditions.find? fun entry => mode.same entry.1 word with
  | none => (none, shell)
  | some (name, condition) =>
    (some (shell.holds condition), shell.setCondition name (lookedAt condition))

def notes (shell : Shell Host) (menu : NodeId) : List String :=
  (shell.notebooks.lookup menu).getD []

def setNotes (shell : Shell Host) (menu : NodeId) (lines : List String) : Shell Host :=
  { shell with
    notebooks := (menu, lines) :: shell.notebooks.filter fun entry => entry.1 ≠ menu }

/-- An update that succeeds or leaves everything as it was. -/
def update {Error : Type} (shell : Shell Host) (failure : Error → Failure)
    (result : Except Error (Shell Host)) : Except Failure Unit × Shell Host :=
  match result with
  | .ok updated => (.ok (), updated)
  | .error error => (.error (failure error), shell)

def edit (shell : Shell Host) (change : Tree.Edit (Action Host)) :
    Except MenuError (Option NodeId) × Shell Host :=
  let (result, tree) := shell.tree.apply change
  (result, { shell with tree })

/-- Takes over records that have changed. The source may be reading one of their files. -/
def keepRecords (shell : Shell Host) (records : RecordStore) : Shell Host :=
  match records.files? with
  | some files =>
    { shell with records, input.source := shell.input.source.refresh files }
  | none => { shell with records }

def addRecord (shell : Shell Host) (name : String) (lines : List String) :
    Except Failure Unit × Shell Host :=
  let (result, records) := shell.records.add name lines
  (result, shell.keepRecords records)

def serve (shell : Shell Host) {answer : Answer} :
    Request (Action Host) answer → Except Failure answer.Value × Shell Host
  | .write text => (.ok (), shell.write text)
  | .report error => (.ok (), shell.report error)
  | .showHelp menu topic => (.ok (), shell.write (shell.tree.help menu topic))
  | .pushLines lines => (.ok (), { shell with input := shell.input.pushLines lines })
  | .call procedure => shell.update .ofError (shell.call procedure)
  | .requestReturn =>
    shell.update .ofError (shell.input.requestReturn.map fun input => { shell with input })
  | .requestJump label =>
    shell.update .ofError ((shell.input.requestJump label).map fun input => { shell with input })
  | .query prompt? => shell.query prompt?
  | .readExternal prompt? => shell.readExternal prompt?
  | .edit change =>
    let (result, edited) := shell.edit change
    (result.mapError .ofError, edited)
  | .child menu word => (.ok (shell.tree.child? menu word), shell)
  | .defaultChild menu => (.ok (shell.tree.defaultChild? menu), shell)
  | .resolve menu word mode? =>
    ((shell.tree.resolve menu word (mode?.getD (shell.tree.comparison menu))).mapError .ofError,
      shell)
  | .resolveNamed menu word mode? =>
    (((shell.tree.resolveNamed menu word (mode?.getD (shell.tree.comparison menu))).map
      some).mapError .ofError, shell)
  | .comparison id => (.ok (shell.tree.comparison id), shell)
  | .test condition mode =>
    let (verdict, tested) := shell.test condition mode
    (.ok verdict, tested)
  | .settings => (.ok shell.settings, shell)
  | .recordProcedure name lines =>
    shell.update .ofError
      ((shell.procedures.record name lines).map fun procedures => { shell with procedures })
  | .addRecord name lines => shell.addRecord name lines
  | .getRecord name => (shell.records.get name, shell)
  | .recordNames => (.ok shell.records.names, shell)
  | .clearNotes menu => (.ok (), shell.setNotes menu [])
  | .note menu line => (.ok (), shell.setNotes menu (shell.notes menu ++ [line]))
  | .notes menu => (.ok (shell.notes menu), shell)

end Shell

end MenuShell

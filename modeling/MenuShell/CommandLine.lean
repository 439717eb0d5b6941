import MenuShell.Shell.Run
import MenuShell.Shell.Start
import MenuShell.Text.ControlSequence

/-!
The command line of the shell with all its commands: words and variables choose the settings, the
script or the terminal gives the lines, and records are files in a folder.
-/

namespace MenuShell

namespace CommandLine

def program : String := "menu_commands"

def spec : ArgumentSpec where
  command := program
  description := "Interactive command menu with procedures and recorded sessions."
  options := [
    { name := "script", description := "read commands from this file instead of the terminal." },
    { name := "records", description := "directory holding recorded sessions." },
    { name := "case-sensitive", isSwitch := true
      description := "match command keywords case-sensitively." },
    { name := "prompt", description := "prompt of the top-level menu." }]
  positionals := [{
    name := "commands", arity := .greedy
    description := "command lines executed before any other input." }]

inductive Coloring where
  | undecided
  | always
  | never
deriving DecidableEq, Repr

def Coloring.ofName (name : String) : Coloring :=
  if name = "always" then .always
  else if name = "never" then .never
  else .undecided

structure Surroundings where
  words : List String
  valueOf : String → Option String
  typed : List UInt8
  files : FileSystem
  coloring : Coloring := .undecided

structure Report where
  succeeded : Bool
  output : String
  complaints : String
  files : FileSystem
deriving DecidableEq, Repr

/-- Words on the command line outweigh variables. -/
def settings (arguments : Arguments) (valueOf : String → Option String) : Settings :=
  let fromVariables := Settings.ofVariables valueOf
  { fromVariables with
    recordFolder := (arguments.value? "records").getD fromVariables.recordFolder
    prompt := (arguments.value? "prompt").getD fromVariables.prompt
    comparison :=
      if arguments.has "case-sensitive" then .sensitive else fromVariables.comparison }

/-- A folder can be opened as a script, but no line can be read from it. -/
def scriptSource (files : FileSystem) (path : String) : Except Failure Source :=
  match files.find path with
  | .ok (place, .file bytes) => .ok (.bytes (.ofFile place bytes))
  | .ok (_, .folder) =>
    .ok (.broken ((Failure.ofMessage FileError.isFolder.message).during Source.readingContext))
  | .error error =>
    .error ((Failure.ofMessage error.message).during ("can't open script " ++ path))

def source (arguments : Arguments) (surroundings : Surroundings) : Except Failure Source :=
  match arguments.value? "script" with
  | some path => scriptSource surroundings.files path
  | none => .ok (Source.ofTerminal surroundings.typed)

def installAll (settings : Settings) : Builder Unit Unit := do
  Commands.installProcedures settings Tree.root
  Commands.installRecording settings Tree.root
  Commands.installIf Tree.root
  Commands.installSamples

def prepare (arguments : Arguments) (surroundings : Surroundings) :
    Except Failure (Shell Unit) := do
  let chosen := settings arguments surroundings.valueOf
  let lines ← source arguments surroundings
  let records := RecordStore.folder chosen.recordFolder surroundings.files
  match (Shell.start chosen lines records ()).build (installAll chosen) with
  | (.error error, _) => .error (.ofError error)
  | (.ok (), shell) =>
    let commands := arguments.positionals
    .ok (if commands.isEmpty then shell
      else { shell with input := shell.input.pushLines commands })

def terminalVariable : String := "TERM"

def simpleTerminals : List String := ["dumb", "cons25", "emacs"]

/-- A terminal too simple for editing is shown the prompts; lines of a script need none. -/
def showsPrompts (arguments : Arguments) (valueOf : String → Option String) : Bool :=
  (arguments.value? "script").isNone &&
    (valueOf terminalVariable).any fun name => simpleTerminals.contains (name.map Char.toLower)

def promptText (prompt? : Option String) : String :=
  match prompt? with
  | some prompt => prompt ++ " "
  | none => ""

def written (prompting : Bool) : Event → Option String
  | .wrote text => some text
  | .read reading => if prompting then some (promptText reading.prompt?) else none
  | _ => none

def output (prompting : Bool) (shell : Shell Unit) : String :=
  String.join (shell.transcript.toList.filterMap (written prompting))

def forceColorVariable : String := "CLICOLOR_FORCE"

def noColorVariable : String := "NO_COLOR"

/-- A variable counts as set by any value but the empty one. -/
def isSet (valueOf : String → Option String) (name : String) : Bool :=
  (valueOf name).any (!·.isEmpty)

def wantsColor (coloring : Coloring) (valueOf : String → Option String) : Bool :=
  match coloring with
  | .always => true
  | .never => false
  | .undecided => isSet valueOf forceColorVariable && !isSet valueOf noColorVariable

def styled (codes : List String) (text : String) : String :=
  String.join (codes.map fun code => "\x1b[" ++ code ++ "m") ++ text ++ "\x1b[0m"

def complaintHead : String :=
  styled ["90"] "[" ++ styled ["1", "31"] "ERROR" ++ " " ++ program ++ styled ["90"] "]" ++ " "

def indentChar (char : Char) : List Char :=
  if char = '\n' then ['\n', ' ', ' ', ' ', ' '] else [char]

/-- A complaint names the program; its later lines are indented. Unless colors are wanted, all
control sequences are taken out, those of the failure's message too. -/
def complaint (colored : Bool) (failure : Failure) : String :=
  let text := complaintHead ++ String.ofList (failure.message.toList.flatMap indentChar) ++ "\n"
  if colored then text else Text.withoutControls text

def complaintIn (surroundings : Surroundings) (failure : Failure) : String :=
  complaint (wantsColor surroundings.coloring surroundings.valueOf) failure

def reportRefusal (files : FileSystem) : Refusal → Report
  | .help usage => { succeeded := true, output := usage ++ "\n", complaints := "", files }
  | .mistake message =>
    { succeeded := false, output := "", files
      complaints := message ++ "\nRun " ++ program ++ " --help for more information.\n" }

def reportRun (arguments : Arguments) (surroundings : Surroundings)
    (outcome : Shell.Outcome Unit) : Report :=
  let (result, shell) := outcome
  let files := shell.records.files?.getD surroundings.files
  let output := output (showsPrompts arguments surroundings.valueOf) shell
  match result with
  | .ok _ => { succeeded := true, output, complaints := "", files }
  | .error failure =>
    { succeeded := false, output, complaints := complaintIn surroundings failure, files }

/-- Runs the command line in at most `bound` steps; `none` if it takes more. -/
def run (bound : Nat) (surroundings : Surroundings) : Option Report :=
  match spec.parse surroundings.words with
  | .error refusal => some (reportRefusal surroundings.files refusal)
  | .ok arguments =>
    match prepare arguments surroundings with
    | .error failure =>
      some {
        succeeded := false, output := ""
        complaints := complaintIn surroundings failure, files := surroundings.files }
    | .ok shell =>
      (Shell.run bound (.visit (.menu Tree.root)) shell).map (reportRun arguments surroundings)

end CommandLine

end MenuShell

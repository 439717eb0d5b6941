import MenuShell.CommandLine

/-!
The program. It gathers the variables, the files and the typed lines that the command line asks
for, runs the command line, and then writes its output and the files that are new or changed.
Lines that do not come from a script are read to their end before the first one is carried out.
-/

namespace MenuShell

namespace Program

/-- A run that takes more steps than this is given up. -/
def bound : Nat := 1 <<< 64

def knownVariables : List String :=
  [Settings.promptVariable, Settings.recordFolderVariable, Settings.caseVariable,
    CommandLine.terminalVariable, CommandLine.forceColorVariable, CommandLine.noColorVariable]

def readVariables : IO (String → Option String) := do
  let found ← knownVariables.mapM fun name => do return (name, ← IO.getEnv name)
  return fun name => (found.lookup name).join

partial def readAll (stream : IO.FS.Stream) (read : ByteArray) : IO ByteArray := do
  let chunk ← stream.read 65536
  if chunk.isEmpty then return read else readAll stream (read ++ chunk)

def place (path : String) : Place :=
  (FileSystem.parts path).filter fun part => !part.isEmpty

def addFile (files : FileSystem) (path : String) (bytes : ByteArray) : FileSystem :=
  let above := "/".intercalate (FileSystem.parts path).dropLast
  let made := (files.makeFolders above).2
  match made.write path bytes.toList with
  | .ok written => written
  | .error _ => made

def look (files : FileSystem) (path : String) : IO FileSystem := do
  let real := (← IO.currentDir) / path
  if ← real.isDir then
    let folder := (files.makeFolders path).2
    (← real.readDir).foldlM (fun seen entry => do
      if ← entry.path.isDir then return seen
      return addFile seen (FileSystem.join path entry.fileName) (← IO.FS.readBinFile entry.path))
      folder
  else if ← real.pathExists then
    return addFile files path (← IO.FS.readBinFile real)
  else
    return files

def save (before : FileSystem) (place : Place) (entry : Entry) : IO Unit := do
  if before.entry? place ≠ some entry then
    let path := "/" ++ "/".intercalate place
    match entry with
    | .folder => IO.FS.createDirAll path
    | .file bytes =>
      IO.FS.createDirAll ("/" ++ "/".intercalate place.dropLast)
      IO.FS.writeBinFile path ⟨bytes.toArray⟩

def surroundings (words : List String) : IO CommandLine.Surroundings := do
  let valueOf ← readVariables
  let here := place (← IO.currentDir).toString
  let bare := ((FileSystem.mk [] []).makeFolders ("/".intercalate here)).2
  let empty : FileSystem := { bare with here }
  match CommandLine.spec.parse words with
  | .error _ => return { words, valueOf, typed := [], files := empty }
  | .ok arguments =>
    let files ← look empty (CommandLine.settings arguments valueOf).recordFolder
    match arguments.value? "script" with
    | some script => return { words, valueOf, typed := [], files := ← look files script }
    | none =>
      let typed ← readAll (← IO.getStdin) .empty
      return { words, valueOf, typed := typed.toList, files }

def run (words : List String) : IO UInt32 := do
  let surroundings ← surroundings words
  match CommandLine.run bound surroundings with
  | none => return 1
  | some report =>
    report.files.entries.forM fun (place, entry) => save surroundings.files place entry
    IO.print report.output
    IO.eprint report.complaints
    return if report.succeeded then 0 else 1

end Program

end MenuShell

def main (words : List String) : IO UInt32 :=
  MenuShell.Program.run words

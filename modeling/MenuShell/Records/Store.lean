import MenuShell.FileSystem
import MenuShell.Records.Selection
import MenuShell.Sorting
import MenuShell.Text.Lines

/-!
Where records are kept: in memory, or as text files in a folder that is made when it is first
needed. Both give the same answers as long as nothing else touches the folder.
-/

namespace MenuShell

inductive RecordStore where
  | memory (records : List (String × List String))
  | folder (path : String) (files : FileSystem)
deriving DecidableEq, Repr

namespace RecordStore

def empty : RecordStore :=
  .memory []

def files? : RecordStore → Option FileSystem
  | .memory _ => none
  | .folder _ files => some files

/-- The text of a record: every line and a newline between them and at the end. -/
def text (lines : List String) : String :=
  "\n".intercalate lines ++ "\n"

def names : RecordStore → List String
  | .memory records => sortTexts (records.map Prod.fst)
  | .folder path files => if files.isFolder path then files.fileNames path else []

def add (store : RecordStore) (name : String) (lines : List String) :
    Except Failure Unit × RecordStore :=
  match RecordName.check name with
  | .error failure => (.error failure, store)
  | .ok () =>
    match store with
    | .memory records =>
      (.ok (), .memory ((name, lines) :: records.filter fun record => record.1 ≠ name))
    | .folder path files =>
      match files.makeFolders path with
      | (.error error, made) =>
        (.error ((Failure.ofMessage error.message).during ("record: can't create " ++ path)),
          .folder path made)
      | (.ok (), made) =>
        let target := FileSystem.join path name
        match made.write target (Text.encode (text lines)) with
        | .error error =>
          (.error ((Failure.ofMessage error.message).during ("record: can't write " ++ target)),
            .folder path made)
        | .ok written => (.ok (), .folder path written)

def readFile (path : String) (files : FileSystem) (name : String) : Except Failure (List String) :=
  let target := FileSystem.join path name
  let refuse (reason : String) : Except Failure (List String) :=
    .error ((Failure.ofMessage reason).during ("replay: can't read " ++ target))
  match files.read target with
  | .error error => refuse error.message
  | .ok bytes =>
    match Text.decode? bytes with
    | some text => .ok (Text.lines text)
    | none => refuse "stream did not contain valid UTF-8"

def get (store : RecordStore) (wanted : String) : Except Failure (List String) :=
  match RecordName.select? store.names wanted with
  | none => .error (.ofError (.recordNotFound wanted))
  | some name =>
    match store with
    | .memory records => .ok ((records.lookup name).getD [])
    | .folder path files => readFile path files name

end RecordStore

end MenuShell

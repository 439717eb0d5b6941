import MenuShell.Sorting

/-!
A small file system: files and folders under one root, and a working folder for relative paths.
Paths are walked part by part; every part but the last has to name a folder.
-/

namespace MenuShell

inductive FileError where
  | notFound
  | alreadyExists
  | notFolder
  | isFolder
  | nameTooLong
  | nulInName
deriving DecidableEq, Repr

def FileError.message : FileError → String
  | notFound => "No such file or directory (os error 2)"
  | alreadyExists => "File exists (os error 17)"
  | notFolder => "Not a directory (os error 20)"
  | isFolder => "Is a directory (os error 21)"
  | nameTooLong => "File name too long (os error 36)"
  | nulInName => "file name contained an unexpected NUL byte"

abbrev Place := List String

inductive Entry where
  | file (bytes : List UInt8)
  | folder
deriving DecidableEq, Repr

structure FileSystem where
  entries : List (Place × Entry) := []
  here : Place := []
deriving DecidableEq, Repr

namespace FileSystem

def nameLimit : Nat := 255

def pathLimit : Nat := 4095

def entry? (files : FileSystem) (place : Place) : Option Entry :=
  if place.isEmpty then some .folder else files.entries.lookup place

def insert (files : FileSystem) (place : Place) (entry : Entry) : FileSystem :=
  { files with entries := (place, entry) :: files.entries.filter (·.1 ≠ place) }

def checkPath (path : String) : Except FileError Unit :=
  if path.toList.contains '\x00' then .error .nulInName
  else if path.isEmpty then .error .notFound
  else if path.utf8ByteSize > pathLimit then .error .nameTooLong
  else .ok ()

/-- The stretches of a path between its slashes; there is one more of them than slashes. -/
def stretches : List Char → List (List Char)
  | [] => [[]]
  | '/' :: rest => [] :: stretches rest
  | char :: rest =>
    match stretches rest with
    | part :: others => (char :: part) :: others
    | [] => [[char]]

def parts (path : String) : List String :=
  (stretches path.toList).map String.ofList

def start (files : FileSystem) (path : String) : Place :=
  if path.toList.head? = some '/' then [] else files.here

def requireFolder (files : FileSystem) (place : Place) : Except FileError Unit :=
  match files.entry? place with
  | some .folder => .ok ()
  | some (.file _) => .error .notFolder
  | none => .error .notFound

def step (place : Place) (part : String) : Except FileError Place :=
  if part = "" || part = "." then .ok place
  else if part = ".." then .ok place.dropLast
  else if part.utf8ByteSize > nameLimit then .error .nameTooLong
  else .ok (place ++ [part])

def walk (files : FileSystem) (place : Place) : List String → Except FileError Place
  | [] => .ok place
  | part :: others => do
    files.requireFolder place
    files.walk (← step place part) others

def locate (files : FileSystem) (path : String) : Except FileError Place := do
  checkPath path
  files.walk (files.start path) (parts path)

def find (files : FileSystem) (path : String) : Except FileError (Place × Entry) := do
  let place ← files.locate path
  match files.entry? place with
  | some entry => .ok (place, entry)
  | none => .error .notFound

def isFolder (files : FileSystem) (path : String) : Bool :=
  match files.find path with
  | .ok (_, .folder) => true
  | _ => false

def read (files : FileSystem) (path : String) : Except FileError (List UInt8) := do
  match ← files.find path with
  | (_, .file bytes) => .ok bytes
  | (_, .folder) => .error .isFolder

/-- The folder and the name under which a path would create something; none if it ends in a part
that can only name a folder which is there. Slashes at the end do not count. -/
def target? (files : FileSystem) (path : String) : Except FileError (Option (Place × String)) := do
  checkPath path
  match (parts path).reverse.dropWhile (·.isEmpty) with
  | [] => .ok none
  | last :: above =>
    let folder ← files.walk (files.start path) above.reverse
    files.requireFolder folder
    .ok (if last = "." || last = ".." then none else some (folder, last))

/-- Creates a file or replaces its content; a path that ends in a slash names no file. -/
def write (files : FileSystem) (path : String) (bytes : List UInt8) :
    Except FileError FileSystem := do
  match ← files.target? path with
  | none => .error .isFolder
  | some (folder, name) =>
    if path.toList.getLast? = some '/' then .error .isFolder
    else
      let place ← step folder name
      match files.entry? place with
      | some .folder => .error .isFolder
      | _ => .ok (files.insert place (.file bytes))

def makeFolder (files : FileSystem) (path : String) : Except FileError FileSystem := do
  match ← files.target? path with
  | none => .error .alreadyExists
  | some (folder, name) =>
    let place ← step folder name
    if (files.entry? place).isSome then .error .alreadyExists
    else .ok (files.insert place .folder)

def ensureFolder (files : FileSystem) (path : String) : Except FileError FileSystem :=
  match files.makeFolder path with
  | .error .alreadyExists => if files.isFolder path then .ok files else .error .alreadyExists
  | result => result

/-- The beginnings of a path that end in a part which leads on, the shortest first. An empty part
leads nowhere, and a dot only counts at the front. -/
def beginnings (before : List String) : List String → List (List String)
  | [] => []
  | part :: others =>
    let upTo := before ++ [part]
    if part ≠ "" && (part ≠ "." || before.isEmpty) then upTo :: beginnings upTo others
    else beginnings upTo others

/-- A path and those above it, the longest first; the root and the empty path have none. -/
def ancestors (path : String) : List String :=
  match (beginnings [] (parts path)).reverse with
  | [] => []
  | _ :: above => path :: above.map ("/".intercalate ·)

/-- Climbs up to the first folder that is there or can be made, and gives the paths below it,
which are still missing, the shortest first. -/
def firstFolder (files : FileSystem) :
    List String → List String → Except FileError (List String × FileSystem)
  | [], missing => .ok (missing, files)
  | path :: above, missing =>
    match files.ensureFolder path with
    | .ok made => .ok (missing, made)
    | .error .notFound => files.firstFolder above (path :: missing)
    | .error error => .error error

def ensureFolders (files : FileSystem) : List String → Except FileError Unit × FileSystem
  | [] => (.ok (), files)
  | path :: below =>
    match files.ensureFolder path with
    | .ok made => made.ensureFolders below
    | .error error => (.error error, files)

/-- Makes sure that a path leads to a folder; the empty path leads to the working folder. -/
def makeFolders (files : FileSystem) (path : String) : Except FileError Unit × FileSystem :=
  match files.firstFolder (ancestors path) [] with
  | .ok (missing, made) => made.ensureFolders missing
  | .error error => (.error error, files)

def nameIn? (folder place : Place) : Option String :=
  match place.getLast? with
  | some name => if place = folder ++ [name] then some name else none
  | none => none

def content (files : FileSystem) (path : String) : List (String × Entry) :=
  match files.locate path with
  | .ok folder => files.entries.filterMap fun (place, entry) =>
      (nameIn? folder place).map fun name => (name, entry)
  | .error _ => []

def fileName? : String × Entry → Option String
  | (name, .file _) => some name
  | (_, .folder) => none

def fileNames (files : FileSystem) (path : String) : List String :=
  sortTexts ((files.content path).filterMap fileName?)

def join (folder name : String) : String :=
  if folder.isEmpty || folder.toList.getLast? = some '/' then folder ++ name
  else folder ++ "/" ++ name

end FileSystem

end MenuShell

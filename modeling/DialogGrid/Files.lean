import DialogGrid.Utf8

/-!
# Files

A tree of folders and files as one value, with a working folder. Paths are followed name by
name; every name before the last must lead to a folder. Writing gives back the changed tree.
-/

namespace DialogGrid

/-- Where something lies: the names from the root down. -/
abbrev Place := List Text

/-- A file that holds no bytes of its own. -/
inductive Device where
  | null
  | full
  | stream (number : Nat)
  deriving DecidableEq, Repr

inductive Entry where
  | folder
  | file (bytes : List UInt8)
  | device (device : Device)
  | program
  deriving DecidableEq, Repr

/-- Folders that lead to an entry, or to the working folder, exist without an entry. -/
structure Files where
  workingFolder : Place := []
  entries : List (Place × Entry) := []
  deriving DecidableEq, Repr

inductive FileError where
  | notFound
  | denied
  | notFolder
  | isFolder
  | noSpace
  | nameTooLong
  | notOpen
  | zeroInName
  | zeroInWord
  | notText
  deriving DecidableEq, Repr

namespace FileError

/-- The words of the operating system, with its number for the error where it has one. -/
def description : FileError → Text × Option Nat
  | notFound => (lit "No such file or directory", some 2)
  | notOpen => (lit "Bad file descriptor", some 9)
  | denied => (lit "Permission denied", some 13)
  | notFolder => (lit "Not a directory", some 20)
  | isFolder => (lit "Is a directory", some 21)
  | noSpace => (lit "No space left on device", some 28)
  | nameTooLong => (lit "File name too long", some 36)
  | zeroInName => (lit "file name contained an unexpected NUL byte", none)
  | zeroInWord => (lit "nul byte found in provided data", none)
  | notText => (lit "stream did not contain valid UTF-8", none)

def message (e : FileError) : Text :=
  match e.description with
  | (words, some number) => words ++ lit " (os error " ++ Text.ofNat number ++ lit ")"
  | (words, none) => words

end FileError

namespace Files

/-! ## What every system has -/

def standardFolders : List Text :=
  [lit "bin", lit "dev", lit "dev/fd", lit "etc", lit "home", lit "lib", lit "opt", lit "proc", lit "root", lit "run",
    lit "sbin", lit "sys", lit "tmp", lit "usr", lit "usr/bin", lit "usr/lib", lit "usr/local", lit "usr/local/bin",
    lit "usr/sbin", lit "usr/share", lit "var", lit "var/tmp"]

def standardDevices : List (Text × Device) :=
  [(lit "dev/null", .null), (lit "dev/full", .full), (lit "dev/stdin", .stream 0), (lit "dev/stdout", .stream 1),
    (lit "dev/stderr", .stream 2)]
    ++ (List.range 10).map fun descriptor => (lit "dev/fd/" ++ Text.ofNat descriptor, .stream descriptor)

/-- The names of the programs that every system has. -/
def standardPrograms : List Text :=
  [lit "cat", lit "echo", lit "true", lit "false", lit "sh", lit "dash", lit "printf", lit "test", lit "["]

/-- The folders in which programs lie. -/
def programFolders : List Place := [[lit "usr", lit "bin"], [lit "bin"]]

/-- What lies where on every system. -/
def standard : List (Place × Entry) :=
  standardFolders.map (fun path => (path.splitOn '/', .folder))
    ++ standardDevices.map (fun (path, device) => (path.splitOn '/', .device device))
    ++ programFolders.flatMap (fun folder => standardPrograms.map fun name => (folder ++ [name], .program))

/-! ## Entries -/

def entry? (fs : Files) (place : Place) : Option Entry :=
  match fs.entries.lookup place <|> standard.lookup place with
  | some entry => some entry
  | none =>
    if place.isPrefixOf fs.workingFolder ∨ fs.entries.any (fun (other, _) => place.isPrefixOf other) then
      some .folder
    else none

/-- Puts an entry at a place, whatever was there. -/
def put (fs : Files) (place : Place) (entry : Entry) : Files :=
  { fs with entries := (place, entry) :: fs.entries.filter (·.1 != place) }

/-- The names of what lies in a folder. -/
def names (fs : Files) (folder : Place) : List Text :=
  let places := fs.workingFolder :: fs.entries.map (·.1) ++ standard.map (·.1)
  (places.filterMap fun place =>
    if folder.isPrefixOf place then (place.drop folder.length).head? else none).eraseDups

/-! ## Paths -/

/-- A name has at most 255 bytes. -/
def isLongName (name : Text) : Bool := 255 < name.byteSize

/-- A path has less than 4096 bytes. -/
def isLongPath (path : Text) : Bool := 4096 ≤ path.byteSize

/-- Checks that there is a folder. -/
def enter (fs : Files) (place : Place) : Except FileError Unit :=
  match fs.entry? place with
  | some .folder => .ok ()
  | some _ => .error .notFolder
  | none => .error .notFound

/-- Follows names from a place on. The last one need not exist. -/
def follow (fs : Files) (place : Place) : List Text → Except FileError Place
  | [] => .ok place
  | name :: rest => do
    fs.enter place
    if name = [] ∨ name = lit "." then fs.follow place rest
    else if name = lit ".." then fs.follow place.dropLast rest
    else if isLongName name then .error .nameTooLong
    else fs.follow (place ++ [name]) rest

/-- Where the names of a path are followed from. -/
def base (fs : Files) (path : Text) : Place := if path.head? = some '/' then [] else fs.workingFolder

/-- Checks what can be said about a path without following it. -/
def checkPath (path : Text) : Except FileError Unit :=
  if path.contains '\x00' then .error .zeroInName
  else if isLongPath path then .error .nameTooLong
  else if path = [] then .error .notFound
  else .ok ()

/-- What a path leads to, and where that lies. -/
def locate (fs : Files) (path : Text) : Except FileError (Place × Entry) := do
  checkPath path
  let place ← fs.follow (fs.base path) (path.splitOn '/')
  match fs.entry? place with
  | some entry => return (place, entry)
  | none => .error .notFound

/-- What a path leads to. -/
def find (fs : Files) (path : Text) : Except FileError Entry := (fs.locate path).map (·.2)

def isFile (fs : Files) (path : Text) : Bool :=
  match fs.find path with
  | .ok (.file _) => true
  | _ => false

/-! ## Reading and writing -/

def readBytes (fs : Files) (path : Text) : Except FileError (List UInt8) := do
  match ← fs.find path with
  | .folder => .error .isFolder
  | .file bytes => return bytes
  | .device _ => return []
  | .program => .error .notText

def readText (fs : Files) (path : Text) : Except FileError Text := do
  (Utf8.decode (← fs.readBytes path)).mapError fun _ => .notText

/-- The place where a path lets a file be written: a name in a folder that exists, and not the
name of a folder. -/
def target (fs : Files) (path : Text) : Except FileError Place := do
  checkPath path
  let names := path.splitOn '/'
  let named := (names.reverse.dropWhile (· == [])).reverse
  match named.getLast? with
  | none => .error .isFolder
  | some name =>
    let folder ← fs.follow (fs.base path) named.dropLast
    fs.enter folder
    if named.length < names.length ∨ name = lit "." ∨ name = lit ".." then .error .isFolder
    else if isLongName name then .error .nameTooLong
    else if fs.entry? (folder ++ [name]) = some .folder then .error .isFolder
    else return folder ++ [name]

/-- Writes bytes to a place where a file may be. A device takes them and stays as it is. -/
def writeAt (fs : Files) (place : Place) (bytes : List UInt8) : Except FileError Files :=
  match fs.entry? place with
  | some (.device .full) => if bytes = [] then .ok fs else .error .noSpace
  | some (.device _) => .ok fs
  | _ => .ok (fs.put place (.file bytes))

/-- Writes a file, new or in place of an old one. -/
def write (fs : Files) (path : Text) (bytes : List UInt8) : Except FileError Files := do
  fs.writeAt (← fs.target path) bytes

/-- The same files with another working folder. The old one is still there. -/
def moveTo (fs : Files) (place : Place) : Files :=
  { fs with
    workingFolder := place
    entries := if (fs.entries.lookup fs.workingFolder).isSome then fs.entries
      else fs.entries ++ [(fs.workingFolder, .folder)] }

/-! ## Changes -/

/-- The path of a place from the working folder on. -/
def relative (fs : Files) (place : Place) : Text :=
  ['/'].intercalate (if fs.workingFolder.isPrefixOf place then place.drop fs.workingFolder.length else [] :: place)

/-- The files that are new or changed since `old`, with their paths. -/
def changesSince (fs old : Files) : List (Text × List UInt8) :=
  fs.entries.filterMap fun (place, entry) =>
    match entry with
    | .file bytes => if old.entry? place = some (.file bytes) then none else some (fs.relative place, bytes)
    | _ => none

end Files

end DialogGrid

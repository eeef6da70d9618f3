import DialogGrid.Files
import DialogGrid.Raw

/-!
# Processes

What a running program works on: the files, and its descriptors, each of which leads to a channel.
Descriptors that were copied from one another share a channel, and with it the position in a file.
What is printed to a pipe stays in its channel for whoever reads it later. Programs have numbers, to
which signals are sent; who was sent a signal takes it when it goes on.
-/

namespace DialogGrid

/-- How a file is opened. A file may be created only, or replaced if it is there. -/
inductive Opening where
  | read
  | readWrite
  | create
  | replace
  | append
  deriving DecidableEq, Repr

namespace Opening

def canRead : Opening → Bool
  | read | readWrite => true
  | _ => false

def canWrite : Opening → Bool
  | read => false
  | _ => true

end Opening

/-- Where bytes come from or go to. What a pipe took is kept last character first. -/
inductive Channel where
  | source (rest : Raw)
  | pipe (printed : Raw)
  | file (place : Place) (position : Nat) (opening : Opening)
  | folder
  | device (device : Device) (opening : Opening)
  deriving DecidableEq, Repr

structure Process where
  files : Files
  channels : Array Channel := #[]
  descriptors : List (Nat × Nat) := []
  number : Nat := 2
  /-- The number of the program that started this one. -/
  parent : Nat := 1
  /-- The last number that was given to a program. -/
  lastNumber : Nat := 2
  /-- The signals that were sent, each after the number it was sent to. -/
  signals : List (Nat × Nat) := []
  /-- The signals that this program and those that it starts take no notice of. -/
  ignored : List Nat := []

namespace Process

/-! ## Numbers and signals -/

/-- The process of a program that this one starts. -/
def child (p : Process) : Process :=
  { p with number := p.lastNumber + 1, parent := p.number, lastNumber := p.lastNumber + 1 }

/-- The process as it goes on after a program that it started. What that one did to its descriptors and
its working folder does not stay. -/
def afterChild (p child : Process) : Process :=
  { child with
    descriptors := p.descriptors
    number := p.number
    parent := p.parent
    ignored := p.ignored
    files := { child.files with workingFolder := p.files.workingFolder } }

/-- Sends a signal to a program, which need not run any more. -/
def send (p : Process) (number signal : Nat) : Process := { p with signals := p.signals ++ [(number, signal)] }

/-- The signals that were sent to this program. -/
def received (p : Process) : List Nat := (p.signals.filter (·.1 == p.number)).map (·.2)

/-! ## Descriptors -/

/-- The channel that a descriptor leads to, and its number. -/
def channel? (p : Process) (descriptor : Nat) : Option (Nat × Channel) := do
  let number ← p.descriptors.lookup descriptor
  return (number, ← p.channels[number]?)

/-- Adds a channel. -/
def addChannel (p : Process) (c : Channel) : Nat × Process :=
  (p.channels.size, { p with channels := p.channels.push c })

def setChannel (p : Process) (number : Nat) (c : Channel) : Process :=
  { p with channels := p.channels.setIfInBounds number c }

/-- Lets a descriptor lead to a channel, wherever it led before. -/
def bind (p : Process) (descriptor number : Nat) : Process :=
  { p with descriptors := (descriptor, number) :: p.descriptors.filter (·.1 != descriptor) }

def close (p : Process) (descriptor : Nat) : Process :=
  { p with descriptors := p.descriptors.filter (·.1 != descriptor) }

/-- Lets some descriptors lead again where they led before. -/
def restore (p before : Process) (touched : List Nat) : Process :=
  { p with descriptors :=
      before.descriptors.filter (touched.contains ·.1) ++ p.descriptors.filter (!touched.contains ·.1) }

/-! ## Opening -/

/-- Opens what lies at a place for writing, where there is no folder. -/
def openForWriting (p : Process) (place : Place) (how : Opening) : Nat × Process :=
  match p.files.entry? place with
  | some (.device d) => p.addChannel (.device d how)
  | entry? =>
    let kept : List UInt8 := match entry? with
      | some (.file bytes) => if how = .create ∨ how = .replace then [] else bytes
      | _ => []
    { p with files := p.files.put place (.file kept) }.addChannel (.file place 0 how)

/-- Opens what a channel is open to once more. A file is opened anew, and a pipe at either of its ends. -/
def reopen (p : Process) (number : Nat) (how : Opening) : Except FileError (Nat × Process) :=
  match p.channels[number]? with
  | some (.file place _ _) => .ok (if how = .read then p.addChannel (.file place 0 how) else p.openForWriting place how)
  | some (.device d _) => .ok (p.addChannel (.device d how))
  | some .folder => if how = .read then .ok (number, p) else .error .isFolder
  | some (.pipe _) => .ok (if how = .read then p.addChannel (.source []) else (number, p))
  | some (.source _) => .ok (if how.canRead then (number, p) else p.addChannel (.pipe []))
  | none => .ok (number, p)

/-- Opens what a path leads to. A stream of the process is what it is open to. -/
def openPath (p : Process) (path : Text) (how : Opening) : Except FileError (Nat × Process) :=
  let opened : Except FileError (Nat × Process) :=
    if how = .read then do
      let (place, entry) ← p.files.locate path
      match entry with
      | .folder => return p.addChannel .folder
      | .device d => return p.addChannel (.device d how)
      | .file _ | .program => return p.addChannel (.file place 0 how)
    else do
      return p.openForWriting (← p.files.target path) how
  do
    let (number, after) ← opened
    match after.channels[number]? with
    | some (.device (.stream descriptor) _) =>
      match p.descriptors.lookup descriptor with
      | some number => p.reopen number how
      | none => .error .notFound
    | _ => return (number, after)

/-- Whether a path leads to a file, be it through a stream of the process. -/
def isFile (p : Process) (path : Text) : Bool :=
  match p.files.find path with
  | .ok (.file _) => true
  | .ok (.device (.stream descriptor)) =>
    match p.channel? descriptor with
    | some (_, .file _ _ _) => true
    | _ => false
  | _ => false

/-! ## Reading and printing -/

def contents (p : Process) (place : Place) : List UInt8 :=
  match p.files.entry? place with
  | some (.file bytes) => bytes
  | _ => []

/-- What can still be read from a descriptor. -/
def remaining (p : Process) (descriptor : Nat) : Except FileError Raw :=
  match p.channel? descriptor with
  | some (_, .source rest) => .ok rest
  | some (_, .file place position how) =>
    if how.canRead then .ok (Raw.ofBytes ((p.contents place).drop position)) else .error .notOpen
  | some (_, .folder) => .error .isFolder
  | some (_, .device _ how) => if how.canRead then .ok [] else .error .notOpen
  | some (_, .pipe _) | none => .error .notOpen

/-- Goes on in what a descriptor reads. -/
def skip (p : Process) (descriptor count : Nat) : Process :=
  match p.channel? descriptor with
  | some (number, .source rest) => p.setChannel number (.source (rest.drop count))
  | some (number, .file place position how) => p.setChannel number (.file place (position + count) how)
  | _ => p

/-- Reads all that is left. -/
def readAll (p : Process) (descriptor : Nat) : Except FileError (Raw × Process) := do
  let rest ← p.remaining descriptor
  return (rest, p.skip descriptor rest.length)

/-- Reads all that a path leads to. -/
def readPath (p : Process) (path : Text) : Except FileError (Raw × Process) := do
  let (number, opened) ← p.openPath path .read
  let (r, after) ← { opened with descriptors := [(0, number)] }.readAll 0
  return (r, { after with descriptors := p.descriptors })

/-- The bytes of a file with others put in at a position. -/
def overwrite (old : List UInt8) (position : Nat) (new : List UInt8) : List UInt8 :=
  old.take position ++ List.replicate (position - old.length) 0 ++ new ++ old.drop (position + new.length)

/-- Prints to a descriptor. -/
def print (p : Process) (descriptor : Nat) (r : Raw) : Except FileError Process :=
  if r = [] then .ok p
  else
    match p.channel? descriptor with
    | some (number, .pipe printed) => .ok (p.setChannel number (.pipe (r.reverse ++ printed)))
    | some (number, .file place position how) =>
      if how.canWrite then
        let old := p.contents place
        let position := if how = .append then old.length else position
        let files := p.files.put place (.file (overwrite old position r.bytes))
        .ok ({ p with files }.setChannel number (.file place (position + r.length) how))
      else .error .notOpen
    | some (_, .device d how) =>
      if ¬ how.canWrite then .error .notOpen else if d = .full then .error .noSpace else .ok p
    | some (_, .source _) | some (_, .folder) | none => .error .notOpen

/-- What was printed to a channel. -/
def printedTo (p : Process) (number : Nat) : Raw :=
  match p.channels[number]? with
  | some (.pipe printed) => printed.reverse
  | _ => []

end Process

/-- A program is given the name it is called by and its words. It changes its process and ends
with a status. -/
abbrev Program := Raw → List Raw → StateM Process Nat

namespace Program

/-- Prints to a descriptor; whether that was possible. -/
def print (descriptor : Nat) (r : Raw) : StateM Process (Except FileError Unit) := do
  match (← get).print descriptor r with
  | .ok p => set p; return .ok ()
  | .error e => return .error e

/-- Prints a message. -/
def warn (r : Raw) : StateM Process Unit := discard (print 2 r)

/-- The status after printing to descriptor 1, with a message where that was not possible. -/
def printOut (name r : Raw) : StateM Process Nat := do
  match ← print 1 r with
  | .ok () => return 0
  | .error e => warn (name ++ lit ": write error: " ++ e.description.1 ++ lit "\n"); return 1

end Program

end DialogGrid

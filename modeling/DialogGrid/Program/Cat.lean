import DialogGrid.Program.Options
import DialogGrid.Program.Quoted

/-!
# Printing files one after the other

Files are printed as they are, or line by line with numbers and visible marks. A file that cannot
be read is a message, and the others follow all the same; after one that cannot be printed nothing
follows.
-/

namespace DialogGrid.Program

/-- How lines are shown. -/
structure LineMarks where
  numbers : Bool := false
  filledNumbers : Bool := false
  squeezed : Bool := false
  ends : Bool := false
  tabs : Bool := false
  unprintable : Bool := false
  deriving DecidableEq, Repr

namespace LineMarks

/-- The marks that the letters of options ask for. -/
def ofLetters (letters : List Char) : LineMarks :=
  let any (which : String) : Bool := letters.any (which.toList.contains ·)
  { numbers := any "nb", filledNumbers := any "b", squeezed := any "s", ends := any "eAE", tabs := any "tAT",
    unprintable := any "etAv" }

/-- A character with marks for what cannot be seen. -/
def visible (m : LineMarks) (c : Char) : Raw :=
  let low (n : Nat) : Raw := if n < 32 then ['^', Char.ofNat (n + 64)] else if n = 127 then lit "^?" else [Char.ofNat n]
  if c = '\t' then if m.tabs then lit "^I" else [c]
  else if ¬ m.unprintable then [c]
  else if c.toNat < 128 then low c.toNat
  else lit "M-" ++ low (c.toNat - 128)

end LineMarks

/-- Where in a line the output is: how many lines were numbered, and how many lines ended since the
last character, or nothing in the middle of a line. -/
structure LineState where
  counted : Nat := 0
  ended? : Option Nat := some 0

namespace LineState

def number (s : LineState) : Raw × LineState :=
  let digits := Text.ofNat (s.counted + 1)
  (List.replicate (6 - digits.length) ' ' ++ digits ++ ['\t'], { s with counted := s.counted + 1 })

/-- What one character becomes, before another. -/
def step (m : LineMarks) (s : LineState) (c : Char) (next? : Option Char) : Raw × LineState :=
  if c = '\n' then
    match s.ended? with
    | none => ((if m.ends then ['$'] else []) ++ ['\n'], { s with ended? := some 0 })
    | some ended =>
      if m.squeezed ∧ 0 < ended then ([], s)
      else
        let (lead, s) := if m.numbers ∧ ¬ m.filledNumbers then s.number else ([], s)
        (lead ++ (if m.ends then ['$'] else []) ++ ['\n'], { s with ended? := some (ended + 1) })
  else
    let (lead, s) := if m.numbers ∧ s.ended?.isSome then s.number else ([], s)
    let shown := if c = '\r' ∧ next? = some '\n' ∧ m.ends then lit "^M" else m.visible c
    (lead ++ shown, { s with ended? := none })

def render (m : LineMarks) (s : LineState) : Raw → Raw × LineState
  | [] => ([], s)
  | c :: rest =>
    let (shown, s) := s.step m c rest.head?
    let (more, s) := s.render m rest
    (shown ++ more, s)

end LineState

def catOptions : Options where
  letters := lit "benstuvAET"
  names := [(lit "number-nonblank", 'b'), (lit "number", 'n'), (lit "squeeze-blank", 's'),
    (lit "show-nonprinting", 'v'), (lit "show-ends", 'E'), (lit "show-tabs", 'T'), (lit "show-all", 'A'),
    (lit "help", '?'), (lit "version", '?')]

/-- What an operand holds that is still to be read, and the process after it was read. -/
def operandText (p : Process) (operand : Raw) : Except FileError (Raw × Process) :=
  if operand = lit "-" then p.readAll 0 else p.readPath (Raw.text operand)

/-- Whether an operand is the file that is printed to, with something left to read in it. -/
def isOwnOutput (p : Process) (operand : Raw) : Bool :=
  let source? : Option (Place × Nat) :=
    if operand = lit "-" then
      match p.channel? 0 with
      | some (_, .file place position _) => some (place, position)
      | _ => none
    else
      match p.files.locate (Raw.text operand) with
      | .ok (place, .file _) => some (place, 0)
      | _ => none
  match p.channel? 1, source? with
  | some (_, .file place _ _), some (other, position) => place = other && position < (p.contents other).length
  | _, _ => false

/-- Prints operands up to the first whose text cannot be printed, which is an error, and gives the status. -/
def catOperands (name : Raw) (m : LineMarks) : List Raw → Nat → LineState → StateM Process (Except Nat Nat)
  | [], status, _ => return .ok status
  | operand :: rest, status, s => do
    let p ← get
    if isOwnOutput p operand then
      warn (name ++ lit ": " ++ quoted operand ++ lit ": input file is output file\n")
      catOperands name m rest 1 s
    else
      match operandText p operand with
      | .ok (r, p) =>
        set p
        let (shown, s) := if m = {} then (r, s) else s.render m r
        match ← printOut name shown with
        | 0 => catOperands name m rest status s
        | failed => return .error failed
      | .error e =>
        warn (name ++ lit ": " ++ quoted operand ++ lit ": " ++ e.description.1 ++ lit "\n")
        catOperands name m rest 1 s

/-- Closes what is read where no file is named; the status after that, which fails where it was not open. -/
def closeInput (name : Raw) (status : Nat) : StateM Process Nat := do
  if ((← get).channel? 0).isSome then return status
  warn (name ++ lit ": closing standard input: " ++ FileError.notOpen.description.1 ++ lit "\n")
  return 1

/-- Prints files, or what is read where no file is named. -/
def cat : Program := fun name words => do
  let usage := catOptions.read words
  match usage.letters.contains '?', usage.misuse? with
  | true, _ => return 0
  | false, some misuse =>
    warn (name ++ lit ": " ++ misuse.message ++ lit "\nTry '" ++ name ++ lit " --help' for more information.\n")
    return 1
  | false, none =>
    if ((← get).channel? 1).isNone then
      warn (name ++ lit ": standard output: " ++ FileError.notOpen.description.1 ++ lit "\n")
      return 1
    let operands := if usage.operands = [] then [lit "-"] else usage.operands
    match ← catOperands name (LineMarks.ofLetters usage.letters) operands 0 {} with
    | .ok status => if operands.contains (lit "-") then closeInput name status else return status
    | .error failed => return failed

end DialogGrid.Program

import DialogGrid.Program.Escapes
import DialogGrid.Script.Number

/-!
# Formatted printing

A format is printed once for all words that it takes, and again as long as words are left. Words
that are no numbers where numbers are wanted give a message and count as far as they go.
-/

namespace DialogGrid.Script.Printf

/-- How a value is set: flags, the least width, and the precision. -/
structure Layout where
  flags : List Char := []
  width : Nat := 0
  precision? : Option Nat := none

namespace Layout

/-- Text in its width. -/
def pad (l : Layout) (r : Raw) : Raw :=
  let fill := List.replicate (l.width - r.length) ' '
  if l.flags.contains '-' then r ++ fill else fill ++ r

/-- A number with the sign or mark in front of its digits. Zero has no digits if none are asked for. -/
def number (l : Layout) (lead digits : Raw) : Raw :=
  let digits := if digits = ['0'] ∧ l.precision? = some 0 then [] else digits
  let digits := List.replicate (l.precision?.getD 1 - digits.length) '0' ++ digits
  if l.flags.contains '0' ∧ ¬ l.flags.contains '-' ∧ l.precision?.isNone then
    lead ++ List.replicate (l.width - lead.length - digits.length) '0' ++ digits
  else l.pad (lead ++ digits)

/-- A number with its sign, whose digits are not filled up to a precision. -/
def real (l : Layout) (lead digits : Raw) : Raw :=
  if l.flags.contains '0' ∧ ¬ l.flags.contains '-' then
    lead ++ List.replicate (l.width - lead.length - digits.length) '0' ++ digits
  else l.pad (lead ++ digits)

/-- What stands before a number for its sign. -/
def sign (l : Layout) (negative : Bool) : Raw :=
  if negative then ['-'] else if l.flags.contains '+' then ['+'] else if l.flags.contains ' ' then [' '] else []

end Layout

/-- A conversion of a format: its layout, which may want words for width and precision, and its
letter. -/
structure Conversion where
  flags : List Char
  width? : Option (Option Nat)
  precision? : Option (Option Nat)
  letter? : Option Char
  shown : Raw
  length : Nat

/-- Reads a conversion after the percent sign. A star gives no number. -/
def conversion (t : Raw) : Conversion :=
  let flags := t.takeWhile (lit "#-+ 0").contains
  let t₁ := t.drop flags.length
  let size (t : Raw) : Option (Option Nat) × Nat :=
    match t with
    | '*' :: _ => (some none, 1)
    | _ =>
      let digits := t.takeWhile Char.isDigit
      (some (some ((Text.natural? digits).getD 0)), digits.length)
  let (width?, n) := size t₁
  let t₂ := t₁.drop n
  let (precision?, m) := match t₂ with
    | '.' :: rest =>
      let (p?, m) := size rest
      (p?, m + 1)
    | _ => (none, 0)
  let t₃ := t₂.drop m
  let length := flags.length + n + m + 1
  ⟨flags, width?, precision?, t₃.head?, '%' :: t.take length, length⟩

/-- What a conversion did: how far the words are, and whether a word was wrong. -/
structure Progress where
  words : List Raw
  status : Nat := 0

/-- A printing action, which takes words. -/
abbrev Print := StateT Progress Act

def takeWord? : Print (Option Raw) := do
  let p ← get
  match p.words with
  | [] => return none
  | word :: rest =>
    set { p with words := rest }
    return some word

def complain (text : Raw) : Print Unit := do
  StateT.lift (Act.warn text)
  modify fun p => { p with status := 1 }

def outOfRange (word : Raw) : Print Unit := complain (word ++ lit ": Numerical result out of range")

/-- The number of the character after a quote, where a word begins with one. -/
def quotedNumber? : Raw → Option Nat
  | '"' :: rest | '\'' :: rest => some (rest.head?.getD '\x00').toNat
  | _ => none

/-- The next word as a number, which ends at the limits of 64 bits, with or without a sign. A quote before
a character stands for the number of that. -/
def takeNumber (signed : Bool) : Print Int := do
  match ← takeWord? with
  | none => return 0
  | some word =>
    match quotedNumber? word, numberLead? 0 word with
    | some n, _ => return n
    | none, some (n, rest) =>
      let least := if signed then -Int.pow 2 63 else 1 - Int.pow 2 64
      let most := if signed then Int.pow 2 63 - 1 else Int.pow 2 64 - 1
      if rest ≠ [] then complain (word ++ lit ": not completely converted")
      else if n < least ∨ most < n then outOfRange word
      return if n < least then (if signed then least else most) else min n most
    | none, none =>
      if word ≠ [] then complain (word ++ lit ": expected numeric value")
      return 0

/-- The next word as a number with a fraction. -/
def takeReal : Print Binary64 := do
  let ofNat (n : Nat) : Binary64 :=
    match Magnitude.nearest n 1 with
    | .finite m e => .finite false m e
    | .infinite => .infinite false
  match ← takeWord? with
  | none => return ofNat 0
  | some word =>
    match quotedNumber? word, realLead? word with
    | some n, _ => return ofNat n
    | none, some r =>
      if r.rest ≠ [] then complain (word ++ lit ": not completely converted")
      else if r.beyond then outOfRange word
      return r.value
    | none, none =>
      if word ≠ [] then complain (word ++ lit ": expected numeric value")
      return ofNat 0

/-- A size that a conversion has or takes from the words, which then counts modulo two to the power of
32, between the limits with a sign. -/
def takeSize (size? : Option (Option Nat)) : Print (Option Int) := do
  match size? with
  | some (some n) => return some n
  | some none => return some ((← takeNumber true).bmod (Nat.pow 2 32))
  | none => return none

/-- Whether nothing can be that wide. -/
def isBoundless (size : Int) : Bool := Int.pow 2 31 ≤ size.natAbs

/-- Prints text, which stays printed if what follows fails. -/
def put (r : Raw) : Print Unit := StateT.lift (discard (Act.printOut r))

/-- The digits of a number in a base. -/
def digitsOf (base : Nat) (n : Nat) : Raw := Nat.toDigits base n

/-- The number modulo two to the power of 64. -/
def unsigned (n : Int) : Nat := (n % Int.pow 2 64).toNat

/-- What a letter with a number makes of it. -/
def numeric (l : Layout) (letter : Char) (n : Int) : Raw :=
  if letter = 'd' ∨ letter = 'i' then
    l.number (l.sign (n < 0)) (digitsOf 10 n.natAbs)
  else
    let n := unsigned n
    let octal := digitsOf 8 n
    let beginsWithZero : Bool :=
      if n = 0 then l.precision? ≠ some 0 else octal.length < l.precision?.getD 1
    let marked := l.flags.contains '#' && n ≠ 0
    if letter = 'u' then l.number [] (digitsOf 10 n)
    else if letter = 'o' then l.number (if l.flags.contains '#' && !beginsWithZero then ['0'] else []) octal
    else if letter = 'x' then l.number (if marked then lit "0x" else []) (digitsOf 16 n)
    else l.number (if marked then lit "0X" else []) (Text.upper (digitsOf 16 n))

/-- What a letter with a number that has a fraction makes of it. -/
def fractional (l : Layout) (letter : Char) (x : Binary64) : Raw :=
  let shown : Raw := match x with
    | .nan => l.pad (l.sign false ++ lit "nan")
    | .infinite negative => l.pad (l.sign negative ++ lit "inf")
    | .finite negative m e =>
      let places := l.precision?.getD 6
      let keepsPoint := l.flags.contains '#'
      let small := letter.toLower
      if small = 'a' then
        l.real (l.sign negative ++ lit "0x") (RoundedDecimal.hexadecimal keepsPoint l.precision? m e)
      else
        let form :=
          if small = 'f' then RoundedDecimal.fixed
          else if small = 'e' then RoundedDecimal.scientific
          else RoundedDecimal.general
        l.real (l.sign negative) (form keepsPoint places m e)
  if letter.isUpper then Text.upper shown else shown

def wordEscapes : Program.EscapeRules := { zeroLead := true, stop := true }

/-- Prints one conversion; whether an escape ended all printing. -/
def convert (c : Conversion) : Print Bool := do
  let width := (← takeSize c.width?).getD 0
  let size? ← takeSize c.precision?
  let precision? := size?.bind fun n => if n < 0 then none else some n.toNat
  let l : Layout := ⟨if width < 0 then '-' :: c.flags else c.flags, width.natAbs, precision?⟩
  let cut (r : Raw) : Raw := match precision? with
    | some n => r.take n
    | none => r
  let checkSizes : Print Unit := do
    if isBoundless width ∨ precision?.any fun n => isBoundless n then
      StateT.lift (Act.fail (lit "xvsnprintf failed"))
  match c.letter? with
  | none => StateT.lift (Act.fail (lit "missing format character"))
  | some 's' =>
    let word := (← takeWord?).getD []
    checkSizes
    put (l.pad (cut word))
    return false
  | some 'b' =>
    let (r, stopped) := wordEscapes.decode ((← takeWord?).getD [])
    checkSizes
    put (l.pad (cut r))
    return stopped
  | some 'c' =>
    let word := (← takeWord?).getD []
    checkSizes
    put (l.pad [word.head?.getD '\x00'])
    return false
  | some letter =>
    if (lit "diouxX").contains letter then
      let n ← takeNumber (letter = 'd' ∨ letter = 'i')
      checkSizes
      put (numeric l letter n)
      return false
    else if (lit "eEfFgGaA").contains letter then
      let x ← takeReal
      checkSizes
      put (fractional l letter x)
      return false
    else StateT.lift (Act.fail (c.shown ++ lit ": invalid directive"))

/-- Prints the format once; whether an escape ended all printing. The first `skipped` characters belong
to what was read before. -/
def once (skipped : Nat) : Raw → Print Bool
  | [] => return false
  | c :: rest => do
    if 0 < skipped then once (skipped - 1) rest
    else if c = '\\' then
      let (shown, n) := (({} : Program.EscapeRules).read? rest).getD ('\\', 0)
      put [shown]
      once n rest
    else if c ≠ '%' then
      put [c]
      once 0 rest
    else if rest.head? = some '%' then
      put ['%']
      once 1 rest
    else
      let conversion := conversion rest
      if ← convert conversion then return true
      once conversion.length rest

/-- Prints the format as often as the words ask for. -/
def all (format : Raw) : Nat → Print Unit
  | 0 => return ()
  | bound + 1 => do
    let before := (← get).words.length
    let stopped ← once 0 format
    let after := (← get).words.length
    if stopped ∨ after = 0 ∨ after = before then return ()
    all format bound

def command (words : List Raw) : Act Nat := do
  match words with
  | [] => Act.fail (lit "usage: printf format [arg ...]")
  | format :: words =>
    let (_, p) ← (all format words.length.succ).run { words }
    return p.status

end DialogGrid.Script.Printf

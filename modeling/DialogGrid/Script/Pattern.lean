import DialogGrid.Process

/-!
# Patterns

A pattern is read from the characters of a word, of which those in quotes stand for themselves. It
fits whole texts; what it fits at the beginning or at the end of a text can be cut off, and the
files whose paths it fits can be found.
-/

namespace DialogGrid.Script

/-- A character of a word, and whether quotes keep it from having a meaning. -/
abbrev Marked := Char × Bool

namespace Pattern

inductive Item where
  | range (low high : Char)
  | named (name : Raw)
  deriving DecidableEq, Repr

inductive Atom where
  | literal (c : Char)
  | any
  | many
  | oneOf (negated : Bool) (items : List Item)
  deriving DecidableEq, Repr

/-! ## Reading -/

/-- A word as text in which backslashes keep characters from having a meaning. After one that stands in
the word itself, and means that, none is added. -/
def written (afterBackslash : Bool) : List Marked → Raw
  | [] => []
  | ('\\', false) :: rest => '\\' :: written (!afterBackslash) rest
  | (c, quoted) :: rest =>
    let special := quoted && (lit "!*?[]=~:/-\\").contains c
    (if special && !afterBackslash then ['\\', c] else [c]) ++ written false rest

/-- The characters of such a text. A backslash at the end stands for itself. -/
def meant : Raw → List Marked
  | '\\' :: c :: rest => (c, true) :: meant rest
  | c :: rest => (c, c = '\\') :: meant rest
  | [] => []

/-- The names of classes of characters. -/
def classNames : List Raw :=
  [lit "alnum", lit "alpha", lit "blank", lit "cntrl", lit "digit", lit "graph", lit "lower", lit "print",
    lit "punct", lit "space", lit "upper", lit "xdigit"]

/-- The name of a class of characters between colons and brackets, after the first bracket, and how
many characters that takes. -/
def className? (t : List Marked) : Option (Raw × Nat) :=
  (classNames.find? fun name => ((lit ":" ++ name ++ lit ":]").map fun c => (c, false)).isPrefixOf t).map fun name =>
    (name, name.length + 3)

/-- The items up to the closing bracket, which may not be the first character, and how many
characters were read. The first `skipped` characters belong to the item before. -/
def items? (first : Bool) (skipped : Nat) : List Marked → Option (List Item × Nat)
  | [] => none
  | (c, quoted) :: rest =>
    if 0 < skipped then (items? first (skipped - 1) rest).map fun (items, n) => (items, n + 1)
    else if c = ']' ∧ ¬ quoted ∧ ¬ first then some ([], 1)
    else
      let (item, used) : Item × Nat :=
        match className? (if c = '[' ∧ ¬ quoted then rest else []), rest with
        | some (name, used), _ => (.named name, used)
        | none, ('-', false) :: (high, quotedHigh) :: _ =>
          if high = ']' ∧ ¬ quotedHigh then (.range c c, 0) else (.range c high, 2)
        | none, _ => (.range c c, 0)
      (items? false used rest).map fun (items, n) => (item :: items, n + 1)

/-- Reads the characters of a pattern. The first `skipped` ones belong to the atom before. -/
def readFrom (skipped : Nat) : List Marked → List Atom
  | [] => []
  | (c, quoted) :: rest =>
    if 0 < skipped then readFrom (skipped - 1) rest
    else if quoted then .literal c :: readFrom 0 rest
    else
      match c with
      | '*' => .many :: readFrom 0 rest
      | '?' => .any :: readFrom 0 rest
      | '[' =>
        let negated := rest.head? = some ('!', false)
        let lead := if negated then 1 else 0
        match items? true 0 (rest.drop lead) with
        | some (items, used) => .oneOf negated items :: readFrom (used + lead) rest
        | none => .literal c :: readFrom 0 rest
      | c => .literal c :: readFrom 0 rest

/-- Reads a word as a pattern. -/
def read (t : List Marked) : List Atom := readFrom 0 (meant (written false t))

/-! ## Fitting -/

def Item.contains (i : Item) (c : Char) : Bool :=
  match i with
  | range low high => low ≤ c && c ≤ high
  | named name =>
    match String.ofList name with
    | "alpha" => c.isAlpha
    | "digit" => c.isDigit
    | "alnum" => c.isAlphanum
    | "upper" => c.isUpper
    | "lower" => c.isLower
    | "space" => (lit " \t\n\r\x0b\x0c").contains c
    | "blank" => c = ' ' || c = '\t'
    | "punct" => 0x20 < c.toNat && c.toNat < 0x7F && !c.isAlphanum
    | "print" => 0x20 ≤ c.toNat && c.toNat < 0x7F
    | "graph" => 0x20 < c.toNat && c.toNat < 0x7F
    | "cntrl" => c.toNat < 0x20 || c.toNat = 0x7F
    | "xdigit" => (Escape.hexDigit? c).isSome
    | _ => false

/-- All ends of a text, the whole text first. -/
def tails (t : Raw) : List Raw :=
  match t with
  | [] => [[]]
  | c :: rest => (c :: rest) :: tails rest

/-- Whether a pattern fits a text. -/
def fits : List Atom → Raw → Bool
  | [], t => t.isEmpty
  | .many :: rest, t => (tails t).any (fits rest ·)
  | _ :: _, [] => false
  | .literal d :: rest, c :: t => c = d && fits rest t
  | .any :: rest, _ :: t => fits rest t
  | .oneOf negated items :: rest, c :: t => (items.any (·.contains c) != negated) && fits rest t

/-- The length of the shortest or longest beginning that a pattern fits; zero if it fits none. -/
def leadLength (longest : Bool) (p : List Atom) (t : Raw) : Nat :=
  let lengths := List.range (t.length + 1)
  ((if longest then lengths.reverse else lengths).find? fun n => fits p (t.take n)).getD 0

/-- The length of what comes before the shortest or longest end that a pattern fits; that of the
whole text if it fits none. -/
def keptLength (longest : Bool) (p : List Atom) (t : Raw) : Nat :=
  let lengths := List.range (t.length + 1)
  ((if longest then lengths else lengths.reverse).find? fun n => fits p (t.drop n)).getD t.length

/-! ## Paths -/

/-- Whether characters have a meaning in a pattern. That of an opening bracket needs a closing one. -/
def isPattern : List Marked → Bool
  | [] => false
  | (c, quoted) :: rest =>
    let closed := (rest.drop (if rest.head? = some ('!', false) then 2 else 1)).contains (']', false)
    !quoted && (c = '*' || c = '?' || c = '[' && closed) || isPattern rest

/-- The paths that begin with `lead` and go on as the patterns for names say. -/
def pathsFrom (fs : Files) (lead : Raw) : List (List Marked) → List Raw
  | [] => [lead]
  | name :: rest =>
    let slash : Raw := if rest.isEmpty then [] else ['/']
    if isPattern name then
      let folder? := (fs.follow (fs.base (Raw.text lead)) ((Raw.text lead).splitOn '/')).toOption
      let names := ((folder?.map fun folder => lit "." :: lit ".." :: fs.names folder).getD []).map Raw.ofText
      let hidden := name.head?.map (·.1) = some '.'
      (names.filter fun n => (n.head? != some '.' || hidden) && fits (readFrom 0 name) n).flatMap fun n =>
        let path := lead ++ n
        let leadsOn := rest.isEmpty || (fs.find (Raw.text path)).toOption = some .folder
        if leadsOn then pathsFrom fs (path ++ slash) rest else []
    else pathsFrom fs (lead ++ name.map (·.1) ++ slash) rest

/-- The paths that a word fits, in the order of their bytes, if it has a pattern for names. -/
def paths (fs : Files) (t : List Marked) : List Raw :=
  let names := (meant (written false t)).splitOnP (·.1 == '/')
  let found := if names.any isPattern then pathsFrom fs [] names else []
  (found.filter fun path => (fs.find (Raw.text path)).toOption.isSome).mergeSort Raw.isAtMost

end Pattern

end DialogGrid.Script

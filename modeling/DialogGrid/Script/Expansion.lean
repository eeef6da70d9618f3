import DialogGrid.Script.Arithmetic
import DialogGrid.Script.Pattern
import DialogGrid.Script.Shell

/-!
# Expansion of words

A word is expanded to pieces: characters that know whether they are quoted and whether they may
divide the word, and marks between them. From pieces come the fields of a command, which may be
patterns for paths, or one text where nothing is divided.
-/

namespace DialogGrid.Script

/-- A piece of an expanded word. `boundary` divides fields, and `quotes` makes an empty field count. A
`seam` is where a value begins, or what stands after one in an operand. The value is `whole` if it is
that of all parameters in quotes, which nothing but boundaries divides, and `cut` if something was cut
off it. -/
inductive Piece where
  | char (c : Char) (quoted divides : Bool)
  | quotes
  | boundary
  | seam (whole cut : Bool)
  deriving DecidableEq, Repr

namespace Piece

/-- The pieces of a value. Only without quotes may it be divided. -/
def ofValue (quoted : Bool) (r : Raw) : List Piece :=
  (if quoted then [] else [.seam false false]) ++ r.map fun c => .char c quoted !quoted

/-- The characters of pieces, with a space at each boundary. -/
def text (pieces : List Piece) : Raw := pieces.filterMap fun
  | .char c _ _ => some c
  | .boundary => some ' '
  | .quotes | .seam _ _ => none

/-- The characters of pieces as those of a pattern. -/
def marked (pieces : List Piece) : List Marked := pieces.filterMap fun
  | .char c quoted _ => some (c, quoted)
  | .boundary => some (' ', false)
  | .quotes | .seam _ _ => none

/-- What was read of the fields: the finished ones, and the characters of the current one, last first. -/
structure Division where
  finished : List (List Marked) := []
  current? : Option (List Marked) := none
  /-- Whether it was a blank that ended the last field, if nothing came after that and its blanks. -/
  ended? : Option Bool := none
  /-- Whether every separator divides, as in the value after one that is whole. -/
  strict : Bool := false
  afterWhole : Bool := false
  /-- Whether the last value is whole, apart from empty ones at the end; the first value counts always. -/
  settled? : Option Bool := none

namespace Division

def finish (d : Division) : Division :=
  match d.current? with
  | some field => { d with finished := field.reverse :: d.finished, current? := none }
  | none => d

def add (d : Division) (more : List Marked) : Division :=
  { d with current? := some (more ++ d.current?.getD []), ended? := none }

/-- Divides at a separator. Blanks around another separator belong to it, and those at the beginning of
a field divide nothing. -/
def separate (blank : Bool) (d : Division) : Division :=
  let divided := (d.add []).finish
  if d.strict then divided
  else
    match d.ended?, blank with
    | some _, true => d
    | some true, false => { d with ended? := some false }
    | none, true => if d.current?.isSome then { divided with ended? := some true } else d
    | _, false => { divided with ended? := some false }

/-- Goes on with a piece. After a value that was cut, empty values before it do not matter. -/
def step (separators : Raw) (d : Division) (p : Piece) : Division :=
  let settled := { d with settled? := d.settled?.map fun _ => d.afterWhole }
  match p with
  | .seam whole cut =>
    { d with
      ended? := none
      strict := if cut then d.settled?.getD false else d.afterWhole
      afterWhole := whole
      settled? := d.settled? <|> some whole }
  | .quotes => settled.add []
  | .boundary => if d.afterWhole then (settled.add []).finish else settled.separate true
  | .char c quoted divides =>
    if divides ∧ separators.contains c then settled.separate ((lit " \t\n").contains c)
    else settled.add [(c, quoted)]

end Division

/-- The fields that pieces are divided into. A whole value at the end ends with a field. -/
def fields (separators : Raw) (pieces : List Piece) : List (List Marked) :=
  let d := pieces.foldl (Division.step separators) {}
  (if d.afterWhole then d.add [] else d).finish.finished.reverse

end Piece

/-- What expansion needs to run commands: how they run, what a copy of the shell does last, and how
deep words may be nested in words. -/
structure Runner where
  run : Command → Act Nat
  atExit : Act Unit
  depth : Nat

/-! ## Arithmetic -/

open Arithmetic in
/-- The value of an expression. A variable without a value counts as zero. What is evaluated `silently`
cannot change its result: of it only faults matter. -/
def evaluate (shownText : Raw) (silently : Bool) : Expr → Act Int64
  | .number n => return n
  | .variable name => if silently then return 0 else valueOf name
  | .negate e => return -(← evaluate shownText silently e)
  | .invert e => return ~~~(← evaluate shownText silently e)
  | .not e => return ofBool ((← evaluate shownText silently e) = 0)
  | .binary op a b => do
    let a ← evaluate shownText silently a
    let b ← evaluate shownText silently b
    if silently then return b else apply op a b
  | .both a b => do
    let a ← evaluate shownText silently a
    let b ← evaluate shownText (silently || a = 0) b
    return ofBool (a ≠ 0 ∧ b ≠ 0)
  | .either a b => do
    let a ← evaluate shownText silently a
    let b ← evaluate shownText (silently || a ≠ 0) b
    return ofBool (a ≠ 0 ∨ b ≠ 0)
  | .choose test yes no => do
    let test ← evaluate shownText silently test
    let yes ← evaluate shownText (silently || test = 0) yes
    let no ← evaluate shownText (silently || test ≠ 0) no
    return if test ≠ 0 then yes else no
  | .assign name op? e => do
    let right ← evaluate shownText silently e
    if silently then return right
    let n ← match op? with
      | none => pure right
      | some op => apply op (← valueOf name) right
    Act.assign name (shown n)
    return n
  | .fault f => faulty f
  | .before e f => do
    discard (evaluate shownText silently e)
    faulty f
where
  faulty (f : Fault) : Act Int64 :=
    Act.fail (lit "arithmetic expression: " ++ f.message ++ lit ": \"" ++ shownText ++ lit "\"")
  apply (op : Operation) (a b : Int64) : Act Int64 :=
    match op.apply a b with
    | .ok n => return n
    | .error f => faulty f
  valueOf (name : Raw) : Act Int64 := do
    match ← Act.value? name with
    | none => return 0
    | some written =>
      let blank (c : Char) : Bool := (lit " \t\n").contains c
      let t := written.dropWhile blank
      let (negative, digits) := match t with
        | '-' :: rest => (true, rest)
        | '+' :: rest => (false, rest)
        | _ => (false, t)
      let (n, rest) := number digits
      let isNumber := digits.head?.any Char.isDigit && (rest.dropWhile blank).isEmpty
      if t.isEmpty then return 0
      else if isNumber then return if negative then -n else n
      else Act.fail (lit "Illegal number: " ++ written)

/-- The value of the expression that a text writes. -/
def evaluateText (text : Raw) : Act Int64 := evaluate text false (Arithmetic.read text)

/-! ## Parameters -/

/-- The letters of the options that are on. -/
def optionLetters (options : List Char) : Raw := (lit "pubaCEVvxsnmiIfe").filter options.contains

/-- The value of a parameter other than the list of all parameters. -/
def parameter? (name : Raw) : Act (Option Raw) := do
  let s ← get
  match name with
  | ['#'] => return some (Text.ofNat s.parameters.length)
  | ['?'] => return some (Text.ofNat s.status)
  | ['-'] => return some (optionLetters s.options)
  | ['$'] => return some (Text.ofNat s.process.number)
  | ['!'] => return s.lastJob?.map Text.ofNat
  | _ =>
    match Text.natural? name with
    | some 0 => return some s.name
    | some n => return s.parameters[n - 1]?
    | none => Act.value? name

/-- What a parameter is: one value or none, or all parameters, of which it is known what stands
between two of them where they are joined. -/
inductive Held where
  | one (value? : Option Raw)
  | all (values : List Raw) (joint : Raw)

namespace Held

def of (name : Raw) : Act Held := do
  if name = lit "@" ∨ name = lit "*" then
    let separators ← Act.separators
    return .all (← get).parameters (separators.take 1)
  else return .one (← parameter? name)

/-- The value as one text. -/
def text : Held → Raw
  | one value? => value?.getD []
  | all values joint => joint.intercalate values

/-- Whether there is no value, where an empty one may count as none. The list of all parameters
counts as a value even if it is empty. -/
def isMissing (orEmpty : Bool) : Held → Bool
  | one none => true
  | held => orEmpty && held.text.isEmpty

/-- The characters of the value, and nothing between two parameters. -/
def characters : Held → List (Option Char)
  | one value? => (value?.getD []).map some
  | all values _ => [none].intercalate (values.map (·.map some))

/-- The characters that are left after a beginning or an end is cut off; `cut` says how many are
dropped and how many of the rest are kept. -/
def cut (h : Held) (cut : Raw → Nat × Nat) : List (Option Char) :=
  let joint := match h with
    | .all _ (c :: _) => c
    | _ => ' '
  let chars := h.characters
  let (dropped, kept) := cut (chars.map (·.getD joint))
  (chars.drop dropped).take kept

/-- The pieces of such characters, of a value that was `cut` or not. All parameters are fields of their
own, except in quotes after a star and where words are not divided. -/
def pieces (h : Held) (name : Raw) (quoted divided cut : Bool) (chars : List (Option Char)) : List Piece :=
  let char (c : Char) : Piece := .char c quoted !quoted
  match h with
  | one none => []
  | one (some _) => (if quoted then [] else [.seam false cut]) ++ (chars.filterMap id).map char
  | all values joint =>
    if divided ∧ (name = lit "@" ∨ ¬ quoted) then
      (if values.isEmpty then [] else [.seam quoted cut]) ++ chars.map fun c? => (c?.map char).getD .boundary
    else chars.flatMap fun c? => match c? with
      | some c => [char c]
      | none => joint.map char

end Held

/-! ## Tildes -/

/-- The home folders of the users that every system has. -/
def homes : List (Raw × Raw) :=
  [(lit "root", lit "/root"), (lit "daemon", lit "/usr/sbin"), (lit "bin", lit "/bin"), (lit "sys", lit "/dev"),
    (lit "sync", lit "/bin"), (lit "games", lit "/usr/games"), (lit "man", lit "/var/cache/man"),
    (lit "lp", lit "/var/spool/lpd"), (lit "mail", lit "/var/mail"), (lit "news", lit "/var/spool/news"),
    (lit "uucp", lit "/var/spool/uucp"), (lit "proxy", lit "/bin"), (lit "www-data", lit "/var/www"),
    (lit "backup", lit "/var/backups"), (lit "list", lit "/var/list"), (lit "irc", lit "/run/ircd"),
    (lit "_apt", lit "/nonexistent"), (lit "nobody", lit "/nonexistent")]

/-- Replaces a tilde at the beginning, with the name of a user after it if there is one, by the path of
the user's home folder. In a value, where `:` stands between paths, a tilde may follow each of them. The
first `skipped` parts are such a name. -/
def tildes (home? : Option Raw) (inValue atStart : Bool) (skipped : Nat) : Word → Word
  | [] => []
  | part :: rest =>
    let ends (c : Char) : Bool := c = '/' || (inValue && c = ':')
    let name := (rest.map Part.plain?).takeWhile fun c? => c?.any (!ends ·)
    let isWhole : Bool := match rest.drop name.length with
      | [] => true
      | part :: _ => part.plain?.any ends
    let folder? := if name = [] then home? else homes.lookup (name.filterMap id)
    if 0 < skipped then tildes home? inValue false (skipped - 1) rest
    else
      match part, folder? with
      | .char '~' false, some folder =>
        if atStart ∧ isWhole then Word.ofRaw true folder ++ tildes home? inValue false name.length rest
        else part :: tildes home? inValue false 0 rest
      | part, _ => part :: tildes home? inValue (inValue && part.plain? = some ':') 0 rest

/-! ## Parts -/

/-- How a word is expanded: whether it is divided into fields, whether it may begin with a tilde, whether
it is a value in which tildes may follow colons, and whether it is the operand of a parameter. -/
structure Manner where
  divided : Bool := false
  tilde : Bool := false
  inValue : Bool := false
  operand : Bool := false
  deriving DecidableEq, Repr

namespace Manner

/-- The manner of the operand that stands for a parameter. -/
def forParameter (m : Manner) : Manner := { m with tilde := true, operand := true }

/-- The manner of an operand that is a text of its own. -/
def ofText : Manner := { tilde := true, operand := true }

end Manner

/-- Expands a word inside another. -/
abbrev Expand := Manner → Word → Act (List Piece)

/-- Fails because a parameter has no value. -/
def missing {α : Type} (name : Raw) (orEmpty : Bool) (reason : Raw) : Act α :=
  let reason :=
    if reason = [] then lit "parameter not set" ++ (if orEmpty then lit " or null" else []) else reason
  Act.fail (name ++ lit ": " ++ reason)

/-- Expands a parameter. -/
def expandParameter (expand : Expand) (m : Manner) (name : Raw) (quoted : Bool) (op : Operator)
    (operand : Word) : Act (List Piece) := do
  let held ← Held.of name
  let own (h : Held) : Act (List Piece) := return h.pieces name quoted m.divided false h.characters
  let checked : Act Unit := do
    match held with
    | .one none => if (← Act.hasOption 'u') then missing name false []
    | _ => return ()
  match op with
  | .value =>
    checked
    own held
  | .length =>
    checked
    return Piece.ofValue quoted (Text.ofNat held.text.length)
  | .fallback orEmpty => if held.isMissing orEmpty then expand m.forParameter operand else own held
  | .assign orEmpty =>
    if held.isMissing orEmpty then
      let value := Piece.text (← expand .ofText operand)
      if ¬ isName name then Act.fail (name ++ lit ": bad variable name")
      Act.assign name value
      own (.one (some value))
    else own held
  | .instead orEmpty => if held.isMissing orEmpty then return Piece.ofValue quoted [] else expand m.forParameter operand
  | .demand orEmpty =>
    if held.isMissing orEmpty then missing name orEmpty (Piece.text (← expand .ofText operand)) else own held
  | .cutLead longest =>
    checked
    let pattern := Pattern.read (Piece.marked (← expand .ofText operand))
    return held.pieces name quoted m.divided true (held.cut fun t => (Pattern.leadLength longest pattern t, t.length))
  | .cutTail longest =>
    checked
    let pattern := Pattern.read (Piece.marked (← expand .ofText operand))
    return held.pieces name quoted m.divided true (held.cut fun t => (0, Pattern.keptLength longest pattern t))
  | .malformed => Act.fail (lit "Bad substitution")

/-- Expands a part of a word. -/
def expandPart (r : Runner) (expand : Expand) (m : Manner) : Part → Act (List Piece)
  | .char c quoted => return [.char c quoted (m.operand && !quoted)]
  | .quotes => return [.quotes]
  | .parameter name quoted op inner => expandParameter expand m name quoted op inner
  | .substitution quoted body => do
    let (printed, status) ← Act.captured (r.run body) r.atExit
    modify fun s => { s with substituted := status }
    let value := ((printed.filter (· != '\x00')).reverse.dropWhile (· == '\n')).reverse
    return Piece.ofValue quoted value
  | .arithmetic quoted expression => do
    let n ← evaluateText (Piece.text (← expand {} expression))
    return Piece.ofValue quoted (Arithmetic.shown n)

/-- Expands a word in which words are nested at most so deep. -/
def expandWithin (r : Runner) : Nat → Expand
  | 0, _, _ => throw (.killed 9)
  | depth + 1, m, w => do
    let home? ← Act.value? (lit "HOME")
    let w := if m.tilde then tildes home? m.inValue true 0 w else w
    let (_, reversed) ← w.foldlM (fun (inRun, pieces) part => do
      let isRun := m.operand && part.plain?.isSome
      let seam : List Piece := if isRun && !inRun then [.seam false false] else []
      let expanded ← expandPart r (expandWithin r depth) m part
      return (isRun, expanded.reverse ++ seam ++ pieces)) (false, [])
    return reversed.reverse

/-! ## Words -/

namespace Runner

def expand (r : Runner) : Expand := expandWithin r r.depth

/-- The text of a word that is not divided. -/
def text (r : Runner) (w : Word) : Act Raw := return Piece.text (← r.expand { tilde := true } w)

/-- The text of a value that is assigned. -/
def value (r : Runner) (w : Word) : Act Raw := return Piece.text (← r.expand { tilde := true, inValue := true } w)

/-- The text of a document, in which a tilde means nothing. -/
def document (r : Runner) (w : Word) : Act Raw := return Piece.text (← r.expand {} w)

/-- A word as a pattern. -/
def pattern (r : Runner) (w : Word) : Act (List Pattern.Atom) :=
  return Pattern.read (Piece.marked (← r.expand { tilde := true } w))

/-- The fields of a word. A field that is a pattern stands for the paths that it fits, if any. -/
def fields (r : Runner) (w : Word) : Act (List Raw) := do
  let pieces ← r.expand { divided := true, tilde := true } w
  let found := Piece.fields (← Act.separators) pieces
  let s ← get
  return found.flatMap fun field =>
    let plain := field.map (·.1)
    if s.options.contains 'f' then [plain]
    else
      match Pattern.paths s.process.files field with
      | [] => [plain]
      | paths => paths

end Runner

end DialogGrid.Script

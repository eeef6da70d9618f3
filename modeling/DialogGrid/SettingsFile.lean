import DialogGrid.Escape
import DialogGrid.Setting

/-!
# Settings files

Settings are written in TOML: comments, tables and lists of tables under headers, keys with dots,
strings, numbers, switches, dates, lists and inline tables. A key is set once, and a table is
opened once. No setting is a date, so that a date is read as a table without fields.

Readers take a text and give back a value with the text after it. Those that call themselves
take a bound on how often, for which the length of the text is enough, and values are nested at
most `depthLimit` deep.
-/

namespace DialogGrid.SettingsFile

/-! ## Blanks and line ends -/

def isSpace (c : Char) : Bool := c == ' ' || c == '\t'

def skipSpace (t : Text) : Text := t.dropWhile isSpace

/-- A control character, which may stand nowhere but at a line end; a tab is none. -/
def isControl (c : Char) : Bool := (c.toNat < 0x20 && c != '\t') || c.toNat == 0x7F

/-- The text after blanks, comments and line ends. A carriage return must begin a line end. -/
def skipLines (inComment : Bool) : Text → Option Text
  | [] => some []
  | c :: rest =>
    if c = '\n' then skipLines false rest
    else if c = '\r' then if rest.head? = some '\n' then skipLines inComment rest else none
    else if inComment then if isControl c then none else skipLines true rest
    else if c = '#' then skipLines true rest
    else if isSpace c then skipLines false rest
    else some (c :: rest)

/-- The text after the end of a line that holds nothing more than a comment. -/
def endLine (t : Text) : Option Text :=
  let t := skipSpace t
  match t.head? with
  | none => some []
  | some c => if c = '\n' ∨ c = '\r' ∨ c = '#' then skipLines false t else none

/-! ## Strings -/

/-- The text up to a closing quote, and the text after it. With `escapes` a backslash keeps the
character after it from closing the string. -/
def untilQuote (quote : Char) (escapes escaped : Bool) : Text → Option (Text × Text)
  | [] => none
  | c :: rest =>
    if c = quote ∧ escaped = false then some ([], rest)
    else if isControl c then none
    else
      (untilQuote quote escapes (escapes && !escaped && c == '\\') rest).map fun (inside, after) =>
        (c :: inside, after)

/-- The character with the code written by some hexadecimal digits, and the text after them. -/
def codePoint? (digits : Nat) (t : Text) : Option (Char × Text) := do
  let written := t.take digits
  if written.length ≠ digits then none
  else
    let values ← written.mapM Escape.hexDigit?
    let code := values.foldl (fun n d => 16 * n + d) 0
    if code.isValidChar then some (Char.ofNat code, t.drop digits) else none

/-- What a backslash before this text stands for, and the text after the escape. -/
def escape? : Text → Option (Char × Text)
  | [] => none
  | c :: rest =>
    match c with
    | 'b' => some ('\x08', rest)
    | 't' => some ('\t', rest)
    | 'n' => some ('\n', rest)
    | 'f' => some ('\x0c', rest)
    | 'r' => some ('\r', rest)
    | 'e' => some ('\x1b', rest)
    | '"' => some ('"', rest)
    | '\\' => some ('\\', rest)
    | 'x' => codePoint? 2 rest
    | 'u' => codePoint? 4 rest
    | 'U' => codePoint? 8 rest
    | _ => none

/-- The text after a line end, if there is one. -/
def lineEnd? : Text → Option Text
  | '\n' :: rest | '\r' :: '\n' :: rest => some rest
  | _ => none

/-- The text of a string with its escapes decoded, reading at most `bound` characters of it. A backslash
at the end of a line takes away all blanks and line ends after it. -/
def unescape : Nat → Text → Option Text
  | _, [] => some []
  | 0, _ => none
  | bound + 1, c :: rest =>
    if c = '\\' then
      match lineEnd? (skipSpace rest) with
      | some after => unescape bound (after.dropWhile fun c => isSpace c || c == '\n' || c == '\r')
      | none => do
        let (decoded, after) ← escape? rest
        let more ← unescape bound after
        return decoded :: more
    else (unescape bound rest).map (c :: ·)

/-- A string in quotes, with escapes, or in apostrophes, without. -/
def string? : Text → Option (Text × Text)
  | '"' :: rest => do
    let (inside, after) ← untilQuote '"' true false rest
    let decoded ← unescape inside.length inside
    return (decoded, after)
  | '\'' :: rest => untilQuote '\'' false false rest
  | _ => none

/-- The text up to three closing quotes, and the text after them. It may end with two more quotes. -/
def untilQuotes (quote : Char) (escapes escaped : Bool) : Text → Option (Text × Text)
  | [] => none
  | c :: rest =>
    let quotes := min 5 ((c :: rest).takeWhile (· == quote)).length
    if ¬ escaped ∧ 3 ≤ quotes then some (List.replicate (quotes - 3) quote, rest.drop (quotes - 1))
    else if isControl c ∧ c ≠ '\n' ∧ ¬ (c = '\r' ∧ rest.head? = some '\n') then none
    else
      (untilQuotes quote escapes (escapes && !escaped && c == '\\') rest).map fun (inside, after) =>
        (c :: inside, after)

/-- A string over several lines in three quotes or three apostrophes. A line end right after them does
not count. -/
def longString? (t : Text) : Option (Text × Text) :=
  let opened := t.drop 3
  let body := (lineEnd? opened).getD opened
  if t.take 3 = lit "\"\"\"" then do
    let (inside, after) ← untilQuotes '"' true false body
    let decoded ← unescape inside.length inside
    return (decoded, after)
  else if t.take 3 = lit "'''" then untilQuotes '\'' false false body
  else none

/-! ## Keys -/

/-- A character of a key without quotes. -/
def isKeyChar (c : Char) : Bool := c.isAlphanum || c == '_' || c == '-'

def simpleKey? (t : Text) : Option (Text × Text) :=
  match t.takeWhile isKeyChar with
  | [] => string? t
  | word => some (word, t.dropWhile isKeyChar)

/-- How many lists and inline tables may lie around a value, and how many keys before the last one of
those that dots join. -/
def depthLimit : Nat := 80

/-- Keys joined by dots, at most `bound` of them. -/
def keysWithin? : Nat → Text → Option (List Text × Text)
  | 0, _ => none
  | bound + 1, t => do
    let (first, after) ← simpleKey? (skipSpace t)
    match skipSpace after with
    | '.' :: rest => do
      let (more, after) ← keysWithin? bound rest
      return (first :: more, after)
    | after => return ([first], after)

def key? (t : Text) : Option (List Text × Text) := keysWithin? (depthLimit + 1) t

/-! ## Numbers -/

/-- Digits with single underscores between two of them, read without the underscores. -/
def digits? (isDigit : Char → Bool) (t : Text) : Option Text :=
  let groups := t.splitOn '_'
  if groups.all (fun g => g ≠ [] && g.all isDigit) then some groups.flatten else none

/-- The whole number written in a base. -/
def based? (base : Nat) (t : Text) : Option Nat := do
  let digits ← digits? (fun c => (Escape.hexDigit? c).any (· < base)) t
  let values ← digits.mapM Escape.hexDigit?
  return values.foldl (fun n d => base * n + d) 0

/-- Decimal digits without a needless zero in front. -/
def decimal? (t : Text) : Option Text := do
  let digits ← digits? Char.isDigit t
  if 1 < digits.length ∧ digits.head? = some '0' then none else some digits

/-- The sign of a number, and what follows it. -/
def sign (t : Text) : Bool × Text :=
  match t with
  | '-' :: rest => (true, rest)
  | '+' :: rest => (false, rest)
  | _ => (false, t)

/-- The binary64 number nearest to a decimal one; `none` where that is infinite. Far from the numbers
that there are nothing is calculated. -/
def nearestFloat? (negative : Bool) (digits : Text) (place : Int) : Option Float :=
  let significant := digits.dropWhile (· == '0')
  let size : Int := significant.length + place
  let magnitude :=
    if significant = [] ∨ size < -400 then 0.0
    else if 400 < size then 1.0 / 0.0
    else Float.ofScientific (Nat.ofDigitChars 10 significant 0) (place < 0) place.natAbs
  if magnitude.isFinite then some (if negative then -magnitude else magnitude) else none

/-- A number with a fraction, an exponent or both. -/
def float? (t : Text) : Option Float := do
  let (negative, t) := sign t
  if t = lit "inf" then some (if negative then -1.0 / 0.0 else 1.0 / 0.0)
  else if t = lit "nan" then some (0.0 / 0.0)
  else
    let (number, exponent) := t.cutAt fun c => c == 'e' || c == 'E'
    let (whole, fraction) := number.cutAt (· == '.')
    let whole ← decimal? whole
    let fraction ← if number.contains '.' then digits? Char.isDigit fraction else some []
    let (below, exponent) := sign exponent
    let exponent ← if number.length < t.length then digits? Char.isDigit exponent else some []
    if number.length = t.length ∧ ¬ number.contains '.' then none
    else
      let power : Int := Nat.ofDigitChars 10 exponent 0
      nearestFloat? negative (whole ++ fraction) ((if below then -power else power) - fraction.length)

/-- A whole number in decimal with a sign, or in another base after `0x`, `0o` or `0b`. It must fit
in 128 bits, with or without a sign. -/
def integer? (t : Text) : Option Int := do
  let value : Int ← match t with
    | '0' :: 'x' :: rest => (based? 16 rest).map Int.ofNat
    | '0' :: 'o' :: rest => (based? 8 rest).map Int.ofNat
    | '0' :: 'b' :: rest => (based? 2 rest).map Int.ofNat
    | _ => do
      let (negative, rest) := sign t
      let digits ← decimal? rest
      let n : Int := Nat.ofDigitChars 10 digits 0
      some (if negative then -n else n)
  if -Int.pow 2 127 ≤ value ∧ value < Int.pow 2 128 then some value else none

/-- A value written as one word. -/
def word? (t : Text) : Option Setting :=
  if t = lit "true" then some (.switch true)
  else if t = lit "false" then some (.switch false)
  else
    match integer? t with
    | some n => some (.integer n)
    | none => (float? t).map .float

/-! ## Dates -/

/-- The number that so many digits write at the beginning, and the text after them. -/
def fixed? (count : Nat) (t : Text) : Option (Nat × Text) :=
  let digits := t.take count
  if digits.length = count ∧ digits.all Char.isDigit then some (Nat.ofDigitChars 10 digits 0, t.drop count) else none

def daysOf (year month : Nat) : Nat :=
  if month = 2 then if year % 4 = 0 ∧ (year % 100 ≠ 0 ∨ year % 400 = 0) then 29 else 28
  else if [4, 6, 9, 11].contains month then 30
  else 31

/-- The text after a day. -/
def date? (t : Text) : Option Text := do
  let (year, t) ← fixed? 4 t
  let (month, t) ← fixed? 2 (← t.dropLead? ['-'])
  let (day, t) ← fixed? 2 (← t.dropLead? ['-'])
  if 1 ≤ month ∧ month ≤ 12 ∧ 1 ≤ day ∧ day ≤ daysOf year month then some t else none

/-- The text after a time of the day, of which seconds and their fraction may be left out. -/
def time? (t : Text) : Option Text := do
  let (hour, t) ← fixed? 2 t
  let (minute, t) ← fixed? 2 (← t.dropLead? [':'])
  if 23 < hour ∨ 59 < minute then none
  else
    match t with
    | ':' :: rest => do
      let (second, t) ← fixed? 2 rest
      if 60 < second then none
      else
        match t with
        | '.' :: rest => if rest.head?.any Char.isDigit then some (rest.dropWhile Char.isDigit) else none
        | t => some t
    | t => some t

/-- Whether a text is what may follow a time of the day: how far it is from universal time. -/
def isOffset (t : Text) : Bool :=
  match t with
  | [] | ['Z'] | ['z'] => true
  | '+' :: rest | '-' :: rest =>
    match fixed? 2 rest with
    | some (hour, ':' :: rest) => hour < 24 && (fixed? 2 rest).any fun (minute, rest) => minute < 60 && rest.isEmpty
    | _ => false
  | _ => false

/-- Whether a word is a date, a time or both. -/
def isDate (t : Text) : Bool :=
  match date? t with
  | some [] => true
  | some ('T' :: rest) | some ('t' :: rest) | some (' ' :: rest) => (time? rest).any isOffset
  | some _ => false
  | none => (time? t).any List.isEmpty

/-! ## Values -/

/-- Sets the value at the end of a path, on which lists lead to their last table. A value that is there
is never replaced. -/
def insertAt : List Text → Setting → List (Text × Setting) → Option (List (Text × Setting))
  | [], _, _ => none
  | [key], value, fields => if (fields.lookup key).isSome then none else some (fields ++ [(key, value)])
  | key :: path, value, fields =>
    match fields.lookup key with
    | none => (insertAt path value []).map fun inner => fields ++ [(key, .table inner)]
    | some (.table inner) =>
      (insertAt path value inner).map fun inner =>
        fields.map fun (name, old) => if name = key then (name, .table inner) else (name, old)
    | some (.list items) =>
      match items.getLast? with
      | some (.table inner) =>
        (insertAt path value inner).map fun inner =>
          let items := items.dropLast ++ [.table inner]
          fields.map fun (name, old) => if name = key then (name, .list items) else (name, old)
      | _ => none
    | some _ => none

/-- A character that ends a value written as one word. -/
def endsWord (c : Char) : Bool := isSpace c || c == '\n' || c == '\r' || c == ',' || c == ']' || c == '\x7d' || c == '#'

/-- A value that is written as a word, or as two where a date and a time stand side by side. -/
def scalar? (t : Text) : Option (Setting × Text) :=
  let word := t.takeWhile (!endsWord ·)
  let after := t.drop word.length
  match word? word, after with
  | some value, _ => some (value, after)
  | none, ' ' :: rest =>
    let both := word ++ ' ' :: rest.takeWhile (!endsWord ·)
    if isDate both then some (.table [], t.drop both.length)
    else if isDate word then some (.table [], after)
    else none
  | none, _ => if isDate word then some (.table [], after) else none

mutual

/-- A value, inside which lists and inline tables may still be nested `depth` deep. -/
def value? : Nat → Nat → Text → Option (Setting × Text)
  | 0, _, _ => none
  | bound + 1, depth, t =>
    match t, depth with
    | '[' :: rest, depth + 1 => do
      let (values, after) ← list? bound depth (← skipLines false rest)
      return (.list values, after)
    | '\x7b' :: rest, depth + 1 => do
      let (fields, after) ← inlineTable? bound depth [] [] (← skipLines false rest)
      return (.table fields, after)
    | '[' :: _, 0 | '\x7b' :: _, 0 => none
    | '"' :: '"' :: '"' :: _, _ | '\'' :: '\'' :: '\'' :: _, _ =>
      (longString? t).map fun (s, after) => (.text s, after)
    | '"' :: _, _ | '\'' :: _, _ => (string? t).map fun (s, after) => (.text s, after)
    | _, _ => scalar? t

/-- The values of a list up to its closing bracket. -/
def list? : Nat → Nat → Text → Option (List Setting × Text)
  | 0, _, _ => none
  | bound + 1, depth, t =>
    match t with
    | ']' :: after => some ([], after)
    | _ => do
      let (first, after) ← value? bound depth t
      match ← skipLines false after with
      | ',' :: rest => do
        let (more, after) ← list? bound depth (← skipLines false rest)
        return (first :: more, after)
      | ']' :: after => return ([first], after)
      | _ => none

/-- The fields of an inline table up to its closing brace. The tables that were opened as values
are closed to dotted keys. -/
def inlineTable? :
    Nat → Nat → List (List Text) → List (Text × Setting) → Text → Option (List (Text × Setting) × Text)
  | 0, _, _, _, _ => none
  | bound + 1, depth, closed, fields, t =>
    match t with
    | '\x7d' :: after => some (fields, after)
    | _ => do
      let (path, after) ← key? t
      match ← skipLines false after with
      | '=' :: rest => do
        let (value, after) ← value? bound depth (← skipLines false rest)
        if closed.any (·.isPrefixOf path) then none
        else
          let fields ← insertAt path value fields
          match ← skipLines false after with
          | ',' :: rest => inlineTable? bound depth (path :: closed) fields (← skipLines false rest)
          | '\x7d' :: after => return (fields, after)
          | _ => none
      | _ => none

end

/-! ## Files -/

/-- What was read of a file: the fields, the table that keys go into, the tables opened by headers,
those of them that are items of lists, those opened by dotted keys, and the keys that have a value. -/
structure Progress where
  fields : List (Text × Setting) := []
  current : List Text := []
  headers : List (List Text) := []
  items : List (List Text) := []
  dotted : List (List Text) := []
  closed : List (List Text) := []

namespace Progress

/-- Whether what a path leads to has all its fields. -/
def isClosed (p : Progress) (path : List Text) : Bool := p.closed.any (·.isPrefixOf path)

/-- Opens the table of a header. There may be one already if a header opened a table inside it. -/
def openTable (p : Progress) (path : List Text) : Option Progress :=
  if p.headers.contains path ∨ p.dotted.contains path ∨ p.isClosed path then none
  else
    let opened := { p with current := path, headers := path :: p.headers }
    if p.headers.any (path.isPrefixOf ·) then some opened
    else (insertAt path (.table []) p.fields).map fun fields => { opened with fields }

/-- Adds a table to the list at the end of a path. -/
def addItem : List Text → List (Text × Setting) → Option (List (Text × Setting))
  | [], _ => none
  | key :: path, fields =>
    let replaced (new : Setting) : List (Text × Setting) :=
      fields.map fun (name, old) => if name = key then (name, new) else (name, old)
    match path, fields.lookup key with
    | [], some (.list items) => some (replaced (.list (items ++ [.table []])))
    | path, some (.table inner) => (addItem path inner).map fun inner => replaced (.table inner)
    | path, some (.list items) =>
      match items.getLast? with
      | some (.table inner) =>
        (addItem path inner).map fun inner => replaced (.list (items.dropLast ++ [.table inner]))
      | _ => none
    | _, _ => none

/-- Opens the next table of the list of a header. What was known of the last one does not hold for it. -/
def openItem (p : Progress) (path : List Text) : Option Progress :=
  if p.items.contains path then
    let stays (other : List Text) : Bool := other = path || !path.isPrefixOf other
    (addItem path p.fields).map fun fields =>
      { fields, current := path, headers := p.headers.filter stays, items := p.items.filter stays,
        dotted := p.dotted.filter stays, closed := p.closed.filter stays }
  else if p.isClosed path then none
  else
    (insertAt path (.list [.table []]) p.fields).map fun fields =>
      { p with fields, current := path, headers := path :: p.headers, items := path :: p.items }

/-- Sets a key of the current table. A dotted key must not reach into a table that a header opened. -/
def assign (p : Progress) (key : List Text) (value : Setting) : Option Progress :=
  let path := p.current ++ key
  let inner := ((List.range key.length).drop 1).map fun n => p.current ++ key.take n
  if inner.any p.headers.contains ∨ p.isClosed path then none
  else
    (insertAt path value p.fields).map fun fields =>
      { p with fields, dotted := inner ++ p.dotted, closed := path :: p.closed }

end Progress

/-- Reads headers and keys until the text ends. -/
def statements : Nat → Progress → Text → Option Progress
  | _, p, [] => some p
  | 0, _, _ => none
  | bound + 1, p, t =>
    match t with
    | '[' :: '[' :: rest => do
      let (path, after) ← key? rest
      match after with
      | ']' :: ']' :: after => statements bound (← p.openItem path) (← endLine after)
      | _ => none
    | '[' :: rest => do
      let (path, after) ← key? rest
      match after with
      | ']' :: after => statements bound (← p.openTable path) (← endLine after)
      | _ => none
    | _ => do
      let (key, after) ← key? t
      match after with
      | '=' :: rest => do
        let (value, after) ← value? t.length depthLimit (skipSpace rest)
        statements bound (← p.assign key value) (← endLine after)
      | _ => none

/-- The settings of a file; `none` if it is not well formed. -/
def read? (t : Text) : Option Setting := do
  let body ← skipLines false ((t.dropLead? ['\ufeff']).getD t)
  let p ← statements t.length {} body
  return .table p.fields

end DialogGrid.SettingsFile

import DialogGrid.Script.Basic

/-!
# Tokens of scripts

A reader goes through a script and keeps what it needs to go on: the text that is left, its line, a
token that was looked at, and the documents whose lines are still to come. A backslash before a
line end joins two lines everywhere but in single quotes.

Words contain commands and commands contain words. The readers here are given those of what lies
inside them, so that a bound on the depth can be put into one place.
-/

namespace DialogGrid.Script

inductive Token where
  | ending
  | newline
  | symbol (r : Raw)
  | keyword (r : Raw)
  | word (w : Word)
  | redirection (descriptor : Nat) (form : Raw)

namespace Token

/-- A token as messages name it. -/
def shown : Token → Raw
  | ending => lit "end of file"
  | newline => lit "newline"
  | symbol r | keyword r => lit "\"" ++ r ++ lit "\""
  | word _ => lit "word"
  | redirection _ _ => lit "redirection"

def isSymbol (t : Token) (s : String) : Bool :=
  match t with
  | symbol r => r = s.toList
  | _ => false

def isKeyword (t : Token) (s : String) : Bool :=
  match t with
  | keyword r => r = s.toList
  | _ => false

/-- A token after which no command of a list can follow. -/
def endsList : Token → Bool
  | ending => true
  | symbol r => r = lit ")" || r = lit ";;"
  | keyword r =>
    [lit "do", lit "done", lit "elif", lit "else", lit "esac", lit "fi", lit "then", lit "\x7d"].contains r
  | _ => false

/-- The word that a token is where keywords mean nothing. -/
def toWord : Token → Word
  | word w => w
  | keyword r => .ofRaw false r
  | _ => []

end Token

def keywords : List Raw :=
  [lit "!", lit "case", lit "do", lit "done", lit "elif", lit "else", lit "esac", lit "fi", lit "for", lit "if",
    lit "in", lit "then", lit "until", lit "while", lit "\x7b", lit "\x7d"]

/-- A document whose lines come after the line of its command. -/
structure PendingDocument where
  number : Nat
  mark : Raw
  quoted : Bool
  tabsStripped : Bool

namespace PendingDocument

/-- A text without the tabs before its first line, where they do not count. -/
def unindented (d : PendingDocument) (r : Raw) : Raw := if d.tabsStripped then r.dropWhile (· == '\t') else r

/-- What follows the line of the mark, if a text begins with that. -/
def afterMark? (d : PendingDocument) (r : Raw) : Option Raw :=
  let line := (d.unindented r).takeWhile (· != '\n')
  if line = d.mark then some ((d.unindented r).drop (line.length + 1)) else none

/-- A text from a line on that is not that of the mark. Where the line begins like the mark, a byte beyond
ASCII is lost that comes next. -/
def beginLine (d : PendingDocument) (r : Raw) : Raw :=
  let r := d.unindented r
  let same := ((r.zip d.mark).takeWhile fun (a, b) => a == b).length
  match r.drop same with
  | c :: rest => if 0 < same ∧ 0x80 ≤ c.toNat then r.take same ++ rest else r
  | [] => r

end PendingDocument

structure Reader where
  rest : Raw
  line : Nat := 1
  looked : Option Token := none
  pending : List PendingDocument := []
  documents : Array Word := #[]
  /-- The document whose lines are read, apart from commands in them. -/
  document? : Option PendingDocument := none
  /-- Whether the mark of that document was passed, where its text ends. -/
  atMark : Bool := false
  /-- Whether the next character is read as it stands because tabs were passed before it. -/
  unjoined : Bool := false
  aliases : List (Raw × Raw) := []
  /-- The aliases whose text is being read, with the length of what is left after it and whether a blank
  ends it. -/
  replaced : List (Raw × Nat × Bool) := []
  /-- Whether the last token came after an alias that ends with a blank. -/
  afterAlias : Bool := false

/-- What is wrong with a script, and the line where that was seen. -/
structure Mistake where
  line : Nat
  text : Raw
  deriving DecidableEq, Repr

abbrev Parse := EStateM Mistake Reader

namespace Parse

def fail {α : Type} (text : Raw) : Parse α := do throw ⟨(← get).line, text⟩

def unexpected {α : Type} (t : Token) : Parse α := fail (t.shown ++ lit " unexpected")

/-- Fails because a symbol or keyword should have stood where a token is. -/
def expected {α : Type} (t : Token) (wanted : String) : Parse α :=
  fail (t.shown ++ lit " unexpected (expecting \"" ++ lit wanted ++ lit "\")")

/-! ## Characters -/

/-- The text after joined line ends, and how many there were. -/
def dropJoins (count : Nat) : Raw → Nat × Raw
  | '\\' :: '\n' :: rest => dropJoins (count + 1) rest
  | r => (count, r)

/-- Passes the mark of the document that is read if a line begins with it, and tabs before a line if they
do not count. -/
def startLine : Parse Unit := do
  let s ← get
  match s.document? with
  | none => return ()
  | some d =>
    let (count, rest) := dropJoins 0 s.rest
    let s := { s with line := s.line + count }
    match d.afterMark? rest with
    | some after => set { s with rest := after, line := s.line + 1, atMark := true }
    | none =>
      let begun := d.beginLine rest
      set { s with rest := begun, unjoined := d.tabsStripped && rest.head? = some '\t' }

/-- Takes the next character as it stands. -/
def takeAsIs : Parse (Option Char) := do
  let s ← get
  match s.atMark, s.rest with
  | true, _ | _, [] => return none
  | false, c :: rest =>
    if c = '\n' then
      set { s with rest, line := s.line + 1, unjoined := false }
      startLine
    else set { s with rest, unjoined := false }
    return some c

/-- The next character; joined line ends before it are passed. -/
def peek : Parse (Option Char) := do
  let s ← get
  if s.atMark then return none
  if s.unjoined then return s.rest.head?
  let (count, rest) := dropJoins 0 s.rest
  set { s with rest, line := s.line + count }
  return rest.head?

def take : Parse (Option Char) := do
  discard peek
  takeAsIs

/-- Takes the next character, which does not count as a line end. -/
def takeUncounted : Parse (Option Char) := do
  let c? ← peek
  if c?.isSome then modify fun s => { s with rest := s.rest.drop 1, unjoined := false }
  return c?

/-- Takes the character after a backslash, which does not count as a line end. -/
def takeEscaped : Parse (Option Char) := do
  let s ← get
  match s.atMark, s.rest with
  | true, _ | _, [] => return none
  | false, c :: rest =>
    set { s with rest }
    return some c

/-- Takes the next character if it is this one. -/
def takeIf (c : Char) : Parse Bool := do
  if (← peek) = some c then
    discard take
    return true
  else return false

/-- Takes characters as long as they fulfil a condition. -/
def takeWhile (p : Char → Bool) : Parse Raw := do
  go (← get).rest.length []
where
  go : Nat → Raw → Parse Raw
    | 0, taken => return taken.reverse
    | bound + 1, taken => do
      match ← peek with
      | some c =>
        if p c then
          discard take
          go bound (c :: taken)
        else return taken.reverse
      | none => return taken.reverse

/-- Reads parts until a step finds the end. Every step but the last takes a character. -/
def partsUntil (step : Parse (Option Word)) : Parse Word := do
  go (← get).rest.length.succ []
where
  go : Nat → Word → Parse Word
    | 0, read => return read.reverse
    | bound + 1, read => do
      match ← step with
      | some parts => go bound (parts.reverse ++ read)
      | none => return read.reverse

/-- Puts a token back. -/
def look (t : Token) : Parse Unit := modify fun s => { s with looked := some t }

end Parse

open Parse

/-- Where parts stand, which decides what ends them and which characters are special. -/
inductive Surroundings where
  | word
  | mark
  | double
  | markDouble
  | operand (inDouble : Bool)
  | arithmetic
  | parentheses
  | document
  deriving DecidableEq, Repr

namespace Surroundings

def isQuoted : Surroundings → Bool
  | word | mark | operand false => false
  | _ => true

/-- Whether the parts are those of the mark that ends a document. -/
def isMark (s : Surroundings) : Bool := s = .mark || s = .markDouble

/-- Whether a backslash takes away the meaning of a character, and does not stand for itself. -/
def escapes (s : Surroundings) (c : Char) : Bool :=
  !s.isQuoted || (lit "\\`$").contains c || (c = '"' && s != .document)
    || (c = '\x7d' && s = .operand true)

end Surroundings

/-- The readers for what lies inside. -/
structure Inside where
  parts : Surroundings → Parse Word
  block : Parse Command

/-! ## Parts of words -/

/-- A character that ends a word. -/
def endsWord (c : Char) : Bool := (lit " \t\n<>();&|").contains c

/-- Fails because quotes are not closed, or in a document because the braces around them are not. -/
def unterminated {α : Type} : Parse α := do
  fail (if (← get).document?.isSome then lit "Missing '\x7d'" else lit "Unterminated quoted string")

/-- Reads to the closing apostrophe. -/
def singleQuoted : Parse Word := do
  let inside ← partsUntil do
    match ← takeAsIs with
    | none => unterminated
    | some '\'' => return none
    | some c => return some [.char c true]
  return .quotes :: inside

/-- Reads the command in parentheses after a dollar sign. -/
def substitution (i : Inside) (quoted : Bool) : Parse Word := do
  let outer ← get
  set { outer with pending := [], document? := none }
  let body ← i.block
  let closing := (← get).looked.getD .ending
  if ¬ closing.isSymbol ")" then expected closing ")"
  modify fun s => { s with looked := none, pending := outer.pending, document? := outer.document? }
  return [.substitution quoted body]

/-- The text up to a closing backquote. A backslash is dropped before the characters whose meaning
it takes away. -/
def backquotedText (quoted : Bool) : Parse Raw := do
  let parts ← partsUntil do
    match ← take with
    | none => fail (lit "EOF in backquote substitution")
    | some '`' => return none
    | some '\\' =>
      match ← takeAsIs with
      | none => fail (lit "EOF in backquote substitution")
      | some c =>
        let escaped := (lit "\\`$").contains c || (quoted && c = '"')
        return some (.ofRaw true (if escaped then [c] else ['\\', c]))
    | some c => return some [.char c true]
  return Word.literal parts

/-- Reads the command between backquotes, which is a script with lines of its own. -/
def backquoted (i : Inside) (quoted : Bool) : Parse Word := do
  let document? := (← get).document?
  modify fun s => { s with document? := none }
  let text ← backquotedText quoted
  let outer ← get
  set { outer with rest := text, line := 1, looked := none, pending := [], replaced := [], afterAlias := false }
  let body ← i.block
  modify fun s => { outer with documents := s.documents, document? }
  return [.substitution quoted body]

/-- The operator that begins with a character, which was taken, and where its operand stands. -/
def operatorOf (s : Surroundings) (c : Char) : Parse (Operator × Surroundings) := do
  let around : Surroundings := .operand s.isQuoted
  let simple (orEmpty : Bool) (c : Option Char) : Operator :=
    match c with
    | some '-' => .fallback orEmpty
    | some '=' => .assign orEmpty
    | some '+' => .instead orEmpty
    | some '?' => .demand orEmpty
    | _ => .malformed
  match c with
  | ':' => return (simple true (← takeUncounted), around)
  | '#' => return (.cutLead (← takeIf '#'), .operand false)
  | '%' => return (.cutTail (← takeIf '%'), .operand false)
  | c => return (simple false (some c), around)

/-- Reads a parameter in braces, after the opening one. -/
def braced (i : Inside) (s : Surroundings) : Parse Word := do
  let malformed : Parse Word := do
    discard (i.parts (.operand s.isQuoted))
    return [.parameter [] s.isQuoted .malformed []]
  let operated (name : Raw) : Parse Word := do
    match ← takeUncounted with
    | some '\x7d' => return [.parameter name s.isQuoted .value []]
    | some c =>
      let (op, around) ← operatorOf s c
      return [.parameter name s.isQuoted op (← i.parts around)]
    | none =>
      discard (i.parts (.operand s.isQuoted))
      return []
  let measured (name : Raw) : Parse Word := do
    if ← takeIf '\x7d' then return [.parameter name s.isQuoted .length []] else malformed
  let name? : Parse (Option Raw) := do
    match ← peek with
    | some c =>
      if isNameStart c then return some (← takeWhile isNameChar)
      else if c.isDigit then return some (← takeWhile Char.isDigit)
      else return none
    | none => return none
  match ← name? with
  | some name => operated name
  | none =>
    match ← peek with
    | some '#' =>
      discard take
      match ← name? with
      | some name => measured name
      | none =>
        -- the number of parameters, unless one more special character and the end follow
        let before ← get
        match ← take, ← peek with
        | some c, some '\x7d' =>
          if c ≠ '\x7d' ∧ isSpecial c then measured [c]
          else
            set before
            operated (lit "#")
        | _, _ =>
          set before
          operated (lit "#")
    | some c =>
      if c = '\x7d' then malformed
      else
        discard takeUncounted
        if isSpecial c then operated [c] else malformed
    | none => malformed

/-- Reads what follows a dollar sign. -/
def dollar (i : Inside) (s : Surroundings) : Parse Word := do
  let plain : Word := [.char '$' s.isQuoted]
  if s.isMark then return plain
  match ← peek with
  | some '(' =>
    discard take
    if ← takeIf '(' then return [.arithmetic s.isQuoted (← i.parts .arithmetic)] else substitution i s.isQuoted
  | some '\x7b' =>
    discard take
    braced i s
  | some c =>
    if isNameStart c then return [.parameter (← takeWhile isNameChar) s.isQuoted .value []]
    else if isSpecial c then
      discard take
      return [.parameter [c] s.isQuoted .value []]
    else return plain
  | none => return plain

/-- The end of the text, where these parts may or may not end with it. -/
def endOfText (s : Surroundings) : Parse (Option Word) := do
  match s with
  | .word | .mark | .document => return none
  | .double | .markDouble | .operand true => unterminated
  | .operand false => fail (lit "Missing '\x7d'")
  | .arithmetic | .parentheses => fail (lit "Missing '))'")

/-- Reads what a character begins, which was taken. -/
def partFrom (i : Inside) (s : Surroundings) (c : Char) : Parse (Option Word) := do
  let itself : Word := [.char c s.isQuoted]
  match c with
  | '\\' =>
    match ← takeEscaped with
    | none => return some [.char '\\' true]
    | some d => return some (.ofRaw true (if s.escapes d then [d] else ['\\', d]))
  | '$' => return some (← dollar i s)
  | '`' => if s.isMark then return some itself else return some (← backquoted i s.isQuoted)
  | '"' =>
    match s with
    | .double | .markDouble => return none
    | .mark => return some (.quotes :: (← i.parts .markDouble))
    | .word | .operand _ =>
      match ← i.parts .double with
      | [.parameter ['@'] quoted .value operand] => return some [.parameter ['@'] quoted .value operand]
      | inside => return some (.quotes :: inside ++ [.quotes])
    | _ => return some itself
  | '\'' => if s.isQuoted then return some itself else return some (← singleQuoted)
  | '\x7d' =>
    match s with
    | .operand _ => return none
    | _ => return some itself
  | '(' =>
    match s with
    | .arithmetic | .parentheses => return some (itself ++ (← i.parts .parentheses) ++ [.char ')' true])
    | _ => return some itself
  | ')' =>
    match s with
    | .parentheses => return none
    | .arithmetic => if ← takeIf ')' then return none else return some itself
    | _ => return some itself
  | _ => return some itself

/-- Reads parts up to what ends them. The end is taken with them, except after a word. -/
def parts (i : Inside) (s : Surroundings) : Parse Word :=
  partsUntil do
    match ← peek with
    | none => endOfText s
    | some c =>
      if (s = .word ∨ s = .mark) ∧ endsWord c then return none
      else
        discard take
        partFrom i s c

/-! ## Documents -/

/-- The lines up to the mark, in which no character has a meaning, what follows it, and how many lines there
are with that of the mark. -/
def documentLines (d : PendingDocument) (bound : Nat) (r : Raw) : Raw × Raw × Nat :=
  match bound with
  | 0 => ([], r, 0)
  | bound + 1 =>
    match d.afterMark? r with
    | some after => ([], after, 1)
    | none =>
      let r := d.beginLine r
      let line := r.takeWhile (· != '\n')
      match r.drop line.length with
      | [] => (line, [], 0)
      | _ :: rest =>
        let (more, after, count) := documentLines d bound rest
        (line ++ '\n' :: more, after, count + 1)

/-- Reads the lines of a document. -/
def readDocument (i : Inside) (d : PendingDocument) : Parse Word := do
  if d.quoted then
    let s ← get
    let (text, rest, count) := documentLines d s.rest.length.succ s.rest
    set { s with rest, line := s.line + count }
    return .ofRaw true text
  else
    discard peek
    modify fun s => { s with document? := some d }
    startLine
    let body ← i.parts .document
    modify fun s => { s with document? := none, atMark := false, unjoined := false }
    return body

/-- Reads the lines of the documents that are pending. -/
def readDocuments (i : Inside) : Parse Unit := do
  let pending := (← get).pending
  modify fun s => { s with pending := [] }
  for d in pending do
    let body ← readDocument i d
    modify fun s => { s with documents := s.documents.setIfInBounds d.number body }

/-! ## Tokens -/

/-- Reads a token that consists of one character or of two of the same. -/
def doubled (c : Char) : Parse Token := do
  return .symbol (if ← takeIf c then [c, c] else [c])

/-- The form of a redirection after its first character. -/
def redirectionForm (c : Char) : Parse Raw := do
  let longer := if c = '>' then [lit ">>", lit ">|", lit ">&"] else [lit "<<", lit "<&", lit "<>"]
  match ← peek with
  | some d =>
    if longer.contains [c, d] then
      discard take
      if [c, d] ≠ lit "<<" then return [c, d]
      return if ← takeIf '-' then lit "<<-" else lit "<<"
    else return [c]
  | none => return [c]

/-- Reads a redirection, or a word. -/
def wordToken (i : Inside) (mark : Bool) (c : Char) : Parse Token := do
  let redirection (descriptor? : Option Nat) (c : Char) : Parse Token := do
    discard take
    return .redirection (descriptor?.getD (if c = '<' then 0 else 1)) (← redirectionForm c)
  if c = '<' ∨ c = '>' then redirection none c
  else
    let before ← get
    if c.isDigit then discard take
    match c.isDigit, ← peek with
    | true, some '<' => redirection (some (c.toNat - '0'.toNat)) '<'
    | true, some '>' => redirection (some (c.toNat - '0'.toNat)) '>'
    | _, _ =>
      set before
      return .word (← i.parts (if mark then .mark else .word))

/-- What the reader of a token looks for: words only, words that may be aliases, keywords and aliases too,
these after any number of line ends, keywords alone after them, or the mark that ends a document. -/
inductive Looking where
  | words
  | names
  | keys
  | keysPastLines
  | keywordsPastLines
  | mark
  deriving DecidableEq, Repr

namespace Looking

def passesLines (l : Looking) : Bool := l = .keysPastLines || l = .keywordsPastLines

def takesKeywords (l : Looking) : Bool := l = .keys || l.passesLines

def takesAliases (l : Looking) : Bool := l = .names || l = .keys || l = .keysPastLines

end Looking

/-- Reads a token as it stands. -/
def tokenAsIs (i : Inside) (mark : Bool) : Parse Token := do
  match (← get).looked with
  | some t =>
    modify fun s => { s with looked := none }
    return t
  | none =>
    let before := (← get).rest.length
    discard (takeWhile fun c => c = ' ' || c = '\t')
    if (← peek) = some '#' then
      modify fun s => { s with rest := s.rest.dropWhile (· != '\n') }
    modify fun s =>
      let left := s.rest.length
      { s with
        afterAlias := s.replaced.any fun (_, after, blank) => blank && after < before && left ≤ after
        replaced := s.replaced.filter fun (_, after, _) => after < left }
    match ← peek with
    | none => return .ending
    | some c =>
      match c with
      | '\n' =>
        discard take
        return .newline
      | '&' | '|' | ';' =>
        discard take
        doubled c
      | '(' | ')' =>
        discard take
        return .symbol [c]
      | c => wordToken i mark c

/-- Passes line ends from a token on, and with them the documents that begin there. -/
def pastLines (i : Inside) : Nat → Token → Parse Token
  | 0, t => return t
  | bound + 1, t => do
    match t with
    | .newline =>
      readDocuments i
      pastLines i bound (← tokenAsIs i false)
    | t => return t

/-- Puts the text of an alias before what is left, if a word is one whose text is not being read. -/
def replaceAlias (word : Raw) : Parse Bool := do
  let s ← get
  match s.aliases.lookup word with
  | none => return false
  | some text =>
    if s.replaced.any (·.1 == word) then return false
    let blank := text.getLast?.any fun c => c = ' ' || c = '\t'
    set { s with rest := text ++ s.rest, replaced := (word, s.rest.length, blank) :: s.replaced }
    return true

/-- Reads a token, at most so often after the text of an alias. -/
def tokenWithin (i : Inside) (l : Looking) : Nat → Parse Token
  | 0 => fail (lit "too deep")
  | bound + 1 => do
    let first ← tokenAsIs i (l = .mark)
    let t ← if l.passesLines then pastLines i (← get).rest.length.succ first else pure first
    match t with
    | .word w =>
      match w.plain? with
      | some r =>
        if l.takesKeywords ∧ keywords.contains r then return .keyword r
        else if l.takesAliases ∨ (← get).afterAlias then
          if ← replaceAlias r then tokenWithin i l bound else return t
        else return t
      | none => return t
    | _ => return t

/-- Reads a token. -/
def token (i : Inside) (l : Looking) : Parse Token := do
  tokenWithin i l ((← get).aliases.length + (← get).rest.length + 1)

end DialogGrid.Script

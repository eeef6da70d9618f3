import DialogGrid.Process

/-!
# Scripts

Scripts as data. A word is a list of parts, each of which knows whether quotes keep it from being
taken apart; a command is made of words, redirections and other commands. The lines of documents
that stand in a script after the command that reads them are kept apart, by number.
-/

namespace DialogGrid.Script

/-- What is made of the value of a parameter. With `orEmpty` an empty value counts as none. -/
inductive Operator where
  | value
  | length
  | fallback (orEmpty : Bool)
  | assign (orEmpty : Bool)
  | instead (orEmpty : Bool)
  | demand (orEmpty : Bool)
  | cutLead (longest : Bool)
  | cutTail (longest : Bool)
  | malformed
  deriving DecidableEq, Repr

mutual

/-- A part of a word. `quotes` marks where quotes stand, so that an empty word is a word. -/
inductive Part where
  | char (c : Char) (quoted : Bool)
  | quotes
  | parameter (name : Raw) (quoted : Bool) (op : Operator) (operand : List Part)
  | substitution (quoted : Bool) (body : Command)
  | arithmetic (quoted : Bool) (expression : List Part)

inductive Redirection where
  | file (descriptor : Nat) (how : Opening) (path : List Part)
  | copy (descriptor : Nat) (source : List Part)
  | document (descriptor : Nat) (number : Nat)

/-- A command. Those that tell their line in messages have it. -/
inductive Command where
  | nothing
  | simple (line : Nat) (assignments : List (Raw × List Part)) (words : List (List Part))
      (redirections : List Redirection)
  | pipeline (commands : List Command)
  | negation (body : Command)
  | both (first second : Command)
  | either (first second : Command)
  | sequence (first second : Command)
  | background (line : Nat) (body : Command)
  | branch (test yes no : Command)
  | loop (untilTrue : Bool) (test body : Command)
  | each (line : Nat) (name : Raw) (words : List (List Part)) (body : Command)
  | choice (line : Nat) (subject : List Part) (cases : List (List (List Part) × Command))
  | subshell (line : Nat) (body : Command)
  | redirected (line : Nat) (body : Command) (redirections : List Redirection)
  | definition (name : Raw) (body : Command)

end

/-- The character that a part is, if it is one without quotes. -/
def Part.plain? : Part → Option Char
  | .char c false => some c
  | _ => none

abbrev Word := List Part

namespace Word

def ofRaw (quoted : Bool) (r : Raw) : Word := r.map fun c => .char c quoted

/-- Whether any part stands in quotes. -/
def isQuoted (w : Word) : Bool := w.any fun
  | .quotes | .char _ true => true
  | _ => false

/-- The text of a word that is nothing but characters without quotes. -/
def plain? (w : Word) : Option Raw := w.mapM Part.plain?

/-- The characters of a word without its quotes, where nothing else is in it. -/
def literal (w : Word) : Raw := w.filterMap fun
  | .char c _ => some c
  | _ => none

end Word

/-! ## Names -/

def isNameStart (c : Char) : Bool := c.isAlpha || c = '_'

def isNameChar (c : Char) : Bool := c.isAlphanum || c = '_'

/-- Whether a text can name a variable or a function. -/
def isName (r : Raw) : Bool := r.head?.any isNameStart && r.all isNameChar

/-- A parameter that is named by one character other than a letter. -/
def isSpecial (c : Char) : Bool := c.isDigit || (lit "#?$!-*@").contains c

/-- The name and the value of a word that assigns. -/
def Word.assignment? (w : Word) : Option (Raw × Word) :=
  let chars := w.map fun
    | .char c false => some c
    | _ => none
  let name := (chars.takeWhile fun c => c.any isNameChar).filterMap id
  if isName name ∧ chars[name.length]? = some (some '=') then some (name, w.drop (name.length + 1)) else none

/-- The commands whose assignments last, and whose failure ends a script. -/
def specialBuiltins : List Raw :=
  [lit ".", lit ":", lit "break", lit "continue", lit "eval", lit "exec", lit "exit", lit "export", lit "local",
    lit "readonly", lit "return", lit "set", lit "shift", lit "times", lit "trap", lit "unset"]

end DialogGrid.Script

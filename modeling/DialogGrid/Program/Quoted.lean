import DialogGrid.Raw

/-!
# Names in messages

A name in a message is quoted as a shell would need it: not at all if every character is harmless,
in double quotes if an apostrophe is the only trouble, and else in single quotes, between which
control characters and bytes beyond ASCII are written as escapes. A colon is quoted too, because
colons divide the parts of messages.
-/

namespace DialogGrid.Program

namespace Quoted

/-- A character that never needs quotes. -/
def isHarmless (c : Char) : Bool := c.isAlphanum || (lit "%+,-./]_@").contains c

/-- A character that needs no quotes at this place of the name. -/
def isPlain (name : Raw) (place : Nat) (c : Char) : Bool :=
  isHarmless c || ((c = '#' || c = '~') && place != 0) || ((c = '\x7b' || c = '\x7d') && name.length != 1)

/-- A character that means the same in double quotes. -/
def isPlainInDouble (place : Nat) (c : Char) : Bool :=
  isHarmless c || c = ':' || c = ' ' || c = '\'' || ((c = '#' || c = '~') && place = 0)

/-- The escape of a character that is not printed as itself. -/
def escape? (c : Char) : Option Raw :=
  match c with
  | '\x07' => some (lit "\\a")
  | '\x08' => some (lit "\\b")
  | '\t' => some (lit "\\t")
  | '\n' => some (lit "\\n")
  | '\x0b' => some (lit "\\v")
  | '\x0c' => some (lit "\\f")
  | '\r' => some (lit "\\r")
  | c =>
    if 0x20 ≤ c.toNat ∧ c.toNat < 0x7F then none
    else some ('\\' :: [c.toNat / 64, c.toNat / 8 % 8, c.toNat % 8].map Nat.digitChar)

/-- The characters between single quotes. With `escaped` the quotes that are open are those of an
escape. -/
def inSingle (escaped : Bool) : Raw → Raw
  | [] => []
  | c :: rest =>
    match c, escape? c with
    | '\'', _ => lit "'\\''" ++ inSingle false rest
    | _, some escape => (if escaped then [] else lit "'$'") ++ escape ++ inSingle true rest
    | _, none => (if escaped then lit "''" else []) ++ c :: inSingle false rest

/-- Whether a condition on places and characters holds all over a name. -/
def allAt (p : Nat → Char → Bool) (name : Raw) : Bool := name.zipIdx.all fun (c, place) => p place c

end Quoted

/-- A name as messages show it. A name with an apostrophe that ends in an escape begins as if one
ended before it. -/
def quoted (name : Raw) : Raw :=
  if name ≠ [] ∧ Quoted.allAt (Quoted.isPlain name) name then name
  else if name.contains '\'' ∧ Quoted.allAt Quoted.isPlainInDouble name then lit "\"" ++ name ++ lit "\""
  else
    let escaped := name.contains '\'' && name.getLast?.any fun c => (Quoted.escape? c).isSome
    lit "'" ++ Quoted.inSingle escaped name ++ lit "'"

end DialogGrid.Program

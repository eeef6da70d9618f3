import DialogGrid.Raw

/-!
# Escapes in printed text

Programs that print their words may decode escapes in them: letters for control characters, and
the numbers of bytes. An unknown escape is printed as it stands.
-/

namespace DialogGrid.Program

/-- What a program understands besides the common escapes: hexadecimal numbers after `x`, one more
zero before an octal number, and the escape that ends all printing. -/
structure EscapeRules where
  hexadecimal : Bool := false
  zeroLead : Bool := false
  stop : Bool := false

namespace EscapeRules

/-- The control character that a letter stands for. -/
def control? (letter : Char) : Option Char :=
  match letter with
  | '\\' => some '\\'
  | 'a' => some '\x07'
  | 'b' => some '\x08'
  | 'f' => some '\x0c'
  | 'n' => some '\n'
  | 'r' => some '\r'
  | 't' => some '\t'
  | 'v' => some '\x0b'
  | 'e' => some '\x1b'
  | _ => none

/-- The byte that the text after a backslash names, and how many characters name it. -/
def read? (r : EscapeRules) : Raw → Option (Char × Nat)
  | [] => none
  | letter :: rest =>
    match control? letter with
    | some c => some (c, 1)
    | none =>
      if letter = 'x' ∧ r.hexadecimal then
        let (value, count, _) := Raw.digits 16 2 0 rest
        if count = 0 then none else some (Raw.byte value, count + 1)
      else
        let lead := if letter = '0' ∧ r.zeroLead ∧ (Raw.digits 8 1 0 rest).2.1 = 1 then 1 else 0
        let (value, count, _) := Raw.digits 8 3 0 ((letter :: rest).drop lead)
        if count = 0 then none else some (Raw.byte value, count + lead)

/-- The text with its escapes decoded, and whether one of them ended the printing. The first
`skipped` characters belong to an escape before them. -/
def decodeFrom (r : EscapeRules) (skipped : Nat) : Raw → Raw × Bool
  | [] => ([], false)
  | c :: rest =>
    if 0 < skipped then r.decodeFrom (skipped - 1) rest
    else if c = '\\' ∧ r.stop ∧ rest.head? = some 'c' then ([], true)
    else
      let (shown, skipped) := (if c = '\\' then r.read? rest else none).getD (c, 0)
      let (more, stopped) := r.decodeFrom skipped rest
      (shown :: more, stopped)

def decode (r : EscapeRules) (t : Raw) : Raw × Bool := r.decodeFrom 0 t

end EscapeRules

/-- Words with spaces between them and their escapes decoded, up to the escape that ends the
printing, and whether there was one. -/
def EscapeRules.decodeWords (r : EscapeRules) : List Raw → Raw × Bool
  | [] => ([], false)
  | word :: rest =>
    let (shown, stopped) := r.decode word
    if stopped ∨ rest = [] then (shown, stopped)
    else
      let (more, stopped) := r.decodeWords rest
      (shown ++ ' ' :: more, stopped)

end DialogGrid.Program

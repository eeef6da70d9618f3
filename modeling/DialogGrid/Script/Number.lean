import DialogGrid.RoundedDecimal
import DialogGrid.Script.Shell

/-!
# Numbers in the words of scripts

Numbers are read as far as they go, after blanks and a sign. What must be a number as a whole may
have blanks after it too. Numbers with a fraction are read as the nearest binary64 value.
-/

namespace DialogGrid.Script

def isBlankChar (c : Char) : Bool := (lit " \t\n\r\x0b\x0c").contains c

/-- Whether a text begins with a minus sign, and what follows its sign. -/
def signLead (t : Raw) : Bool × Raw :=
  match t with
  | '-' :: rest => (true, rest)
  | '+' :: rest => (false, rest)
  | _ => (false, t)

/-- The number that a text begins with in a base, with the text after it; `none` if there are no
digits. Base zero means that the text says the base itself, by `0` or `0x` in front. -/
def numberLead? (base : Nat) (t : Raw) : Option (Int × Raw) :=
  let (negative, t) := signLead (t.dropWhile isBlankChar)
  let (base, t) := if base ≠ 0 then (base, t) else
    match t with
    | '0' :: x :: d :: rest =>
      if (x = 'x' ∨ x = 'X') ∧ (Escape.hexDigit? d).isSome then (16, d :: rest) else (8, t)
    | '0' :: _ => (8, t)
    | _ => (10, t)
  let (value, count, rest) := Raw.digits base t.length 0 t
  if count = 0 then none else some (if negative then -Int.ofNat value else Int.ofNat value, rest)

/-! ## Numbers with fractions -/

/-- The digits at the beginning of a text, with a point among them or not: the digits, how many follow the
point, and what follows them. -/
def pointedLead (isDigit : Char → Bool) (t : Raw) : Raw × Nat × Raw :=
  let whole := t.takeWhile isDigit
  match t.drop whole.length with
  | '.' :: rest =>
    let fraction := rest.takeWhile isDigit
    if whole.isEmpty ∧ fraction.isEmpty then ([], 0, t)
    else (whole ++ fraction, fraction.length, rest.drop fraction.length)
  | rest => (whole, 0, rest)

/-- The exponent after a mark, and what follows it. It is zero where none is written. -/
def exponentLead (mark : Char) (t : Raw) : Int × Raw :=
  match t with
  | [] => (0, [])
  | c :: rest =>
    let (negative, rest) := signLead rest
    let digits := rest.takeWhile Char.isDigit
    if c.toLower ≠ mark ∨ digits.isEmpty then (0, t)
    else
      let n : Int := Nat.ofDigitChars 10 digits 0
      (if negative then -n else n, rest.drop digits.length)

/-- The value nearest to whole digits times a power of a base. Powers that are far beyond all values are
not worked out. -/
def nearestReal (digits base : Nat) (power : Int) : Magnitude :=
  let size : Int := (Nat.toDigits base digits).length + power
  if digits = 0 ∨ size < -1200 then .finite 0 (-1074)
  else if 1200 < size then .infinite
  else .nearest (digits * Nat.pow base power.toNat) (Nat.pow base (-power).toNat)

/-- A value with a fraction that a text begins with. -/
structure RealLead where
  value : Binary64
  /-- Whether the written number is beyond the values with full precision. -/
  beyond : Bool
  rest : Raw

/-- The value that a text begins with, in decimal or, after `0x`, in hexadecimal; `none` if there is none. -/
def realLead? (t : Raw) : Option RealLead :=
  let (negative, t) := signLead (t.dropWhile isBlankChar)
  let named (name : String) : Bool := (lit name).isPrefixOf (t.map Char.toLower)
  let found (magnitude : Magnitude) (isZero : Bool) (rest : Raw) : Option RealLead :=
    match magnitude with
    | .infinite => some ⟨.infinite negative, true, rest⟩
    | .finite m e => some ⟨.finite negative m e, !isZero && m < Nat.pow 2 52, rest⟩
  if named "infinity" then some ⟨.infinite negative, false, t.drop 8⟩
  else if named "inf" then some ⟨.infinite negative, false, t.drop 3⟩
  else if named "nan" then some ⟨.nan, false, t.drop 3⟩
  else
    let isHex (c : Char) : Bool := (Escape.hexDigit? c).isSome
    let (hexDigits, hexPlaces, hexRest) := if named "0x" then pointedLead isHex (t.drop 2) else ([], 0, [])
    if ¬ hexDigits.isEmpty then
      let (power, rest) := exponentLead 'p' hexRest
      let (digits, _, _) := Raw.digits 16 hexDigits.length 0 hexDigits
      found (nearestReal digits 2 (power - 4 * hexPlaces)) (digits = 0) rest
    else
      let (written, places, rest) := pointedLead Char.isDigit t
      if written.isEmpty then none
      else
        let (power, rest) := exponentLead 'e' rest
        let digits := Nat.ofDigitChars 10 written 0
        found (nearestReal digits 10 (power - places)) (digits = 0) rest

/-! ## Whole numbers -/

/-- Whether a number fits in 64 bits with a sign. -/
def fitsSigned (n : Int) : Bool := -Int.pow 2 63 ≤ n && n < Int.pow 2 63

/-- The number that a word is. -/
def integer? (t : Raw) : Option Int := do
  let (n, rest) ← numberLead? 10 t
  if (rest.dropWhile isBlankChar).isEmpty ∧ fitsSigned n then some n else none

namespace Act

/-- The number that a word is, or a failure. -/
def integer (t : Raw) : Act Int :=
  match integer? t with
  | some n => return n
  | none => fail (lit "Illegal number: " ++ t)

/-- The number that a word is, which must not be negative and must fit in 32 bits with a sign. -/
def natural (t : Raw) : Act Nat := do
  let n ← integer t
  if n < 0 ∨ Int.pow 2 31 ≤ n then fail (lit "Illegal number: " ++ t)
  return n.toNat

end Act

end DialogGrid.Script

import DialogGrid.ShortestDecimal

/-!
# Rounded decimal forms

Binary64 values written with as many digits as are asked for: to a fixed place, with an exponent, or
whichever of these is shorter. The exact value is rounded to the nearest written one, a tie to the even
digit, so that no digit depends on how the value was computed.
-/

namespace DialogGrid.RoundedDecimal

/-- The value `m * 2 ^ e` times a power of ten, rounded to a whole number. -/
def scaled (m : Nat) (e power : Int) : Nat :=
  roundQuotient (m * Nat.pow 2 e.toNat * Nat.pow 10 power.toNat)
    (Nat.pow 2 (-e).toNat * Nat.pow 10 (-power).toNat)

/-- The value `m * 2 ^ e` times a power of ten, rounded to a whole number, and how many zeros follow
it: no more than `-e` places after the point differ from zero, so that the others need no rounding. -/
def digitsTo (m : Nat) (e place : Int) : Nat × Nat :=
  let exact : Int := max 0 (-e)
  (scaled m e (min place exact), (place - exact).toNat)

/-- The value to a number of places after the point. The point is left out where nothing follows it,
unless it is to be kept. -/
def fixed (keepsPoint : Bool) (places m : Nat) (e : Int) : Text :=
  let (digits, zeros) := digitsTo m e places
  let written := positional digits (zeros - places)
  if places = 0 then (if keepsPoint then written ++ ['.'] else written)
  else
    let pointed := if written.contains '.' then written else written ++ ['.']
    pointed ++ List.replicate zeros '0'

/-- The place of the first digit of a value that is not zero. -/
def firstPlace (m : Nat) (e : Int) : Int :=
  let reaches (place : Int) : Bool :=
    Nat.pow 10 place.toNat * Nat.pow 2 (-e).toNat ≤ m * Nat.pow 2 e.toNat * Nat.pow 10 (-place).toNat
  let places := (List.range 634).map fun k : Nat => 309 - (k : Int)
  (places.find? reaches).getD 0

/-- The first digits of a value, and the place of the first one. Rounding up may give one more. -/
def leading (count m : Nat) (e : Int) : Text × Int :=
  if m = 0 then (List.replicate count '0', 0)
  else
    let first := firstPlace m e
    let (whole, zeros) := digitsTo m e (count - 1 - first)
    let digits := Text.ofNat whole ++ List.replicate zeros '0'
    (digits.take count, if digits.length ≤ count then first else first + 1)

/-- An exponent after its mark, with a sign and at least so many digits. -/
def exponent (mark : Char) (least : Nat) (n : Int) : Text :=
  let digits := Text.ofNat n.natAbs
  mark :: (if n < 0 then '-' else '+') :: (List.replicate (least - digits.length) '0' ++ digits)

/-- Digits with a point after the first one, if others follow or the point is to be kept. -/
def pointed (keepsPoint : Bool) : Text → Text
  | [] => []
  | first :: rest => if rest.isEmpty ∧ ¬ keepsPoint then [first] else first :: '.' :: rest

/-- The value with one digit before the point, a number of places after it, and an exponent. -/
def scientific (keepsPoint : Bool) (places m : Nat) (e : Int) : Text :=
  let (digits, first) := leading (places + 1) m e
  pointed keepsPoint digits ++ exponent 'e' 2 first

/-- Digits without the zeros after the point that say nothing. -/
def withoutZeros (t : Text) : Text :=
  if t.contains '.' then
    let kept := (t.reverse.dropWhile (· == '0')).reverse
    if kept.getLast? = some '.' then kept.dropLast else kept
  else t

/-- The value with a number of digits that mean something, in the shorter of both forms. The zeros at
the end stay where the point is to be kept. -/
def general (keepsPoint : Bool) (count m : Nat) (e : Int) : Text :=
  let count := max 1 count
  let (digits, first) := leading count m e
  let trimmed (t : Text) : Text := if keepsPoint then t else withoutZeros t
  if -4 ≤ first ∧ first < count then trimmed (fixed keepsPoint (count - 1 - first).toNat m e)
  else trimmed (pointed keepsPoint digits) ++ exponent 'e' 2 first

/-- The value in hexadecimal digits with a power of two, to a number of places if there is one. -/
def hexadecimal (keepsPoint : Bool) (places? : Option Nat) (m : Nat) (e : Int) : Text :=
  let (m, e) := if m = Nat.pow 2 53 then (Nat.pow 2 52, e + 1) else (m, e)
  let normal : Bool := Nat.pow 2 52 ≤ m
  let power : Int := if m = 0 then 0 else if normal then e + 52 else -1022
  let places := min 13 (places?.getD 13)
  let rounded := roundQuotient m (Nat.pow 16 (13 - places))
  let whole := rounded / Nat.pow 16 places
  let digits := Nat.toDigits 16 (rounded % Nat.pow 16 places)
  let fraction := if places = 0 then [] else List.replicate (places - digits.length) '0' ++ digits
  let fraction := match places? with
    | some n => fraction ++ List.replicate (n - 13) '0'
    | none => (fraction.reverse.dropWhile (· == '0')).reverse
  pointed keepsPoint (Text.ofNat whole ++ fraction) ++ exponent 'p' 1 power

end DialogGrid.RoundedDecimal

/-!
# Exact values of binary64 numbers

A `Float` is read through its bits as a sign, a mantissa and a power of two, and arithmetic is
done on those with whole numbers: a product or a quotient is the exact one, rounded to the
nearest value with 53 significant bits, a tie to the even mantissa. Nothing here is rounded
twice, so the results are those of binary64 arithmetic, and every step can be reasoned about.
-/

namespace DialogGrid

/-- The value of a binary64 number. A finite one is `mantissa * 2 ^ exponent` with a sign. -/
inductive Binary64 where
  | nan
  | infinite (negative : Bool)
  | finite (negative : Bool) (mantissa : Nat) (exponent : Int)
  deriving DecidableEq, Repr

/-- The value encoded by 64 bits: a sign, an 11-bit exponent field and a 52-bit fraction. -/
def Binary64.ofBits (bits : Nat) : Binary64 :=
  let negative := decide (Nat.pow 2 63 ≤ bits)
  let field : Nat := bits / Nat.pow 2 52 % Nat.pow 2 11
  let fraction := bits % Nat.pow 2 52
  if field = 2047 then if fraction = 0 then .infinite negative else .nan
  else if field = 0 then .finite negative fraction (-1074)
  else .finite negative (Nat.pow 2 52 + fraction) ((field : Int) - 1075)

def Binary64.ofFloat (x : Float) : Binary64 := .ofBits x.toBits.toNat

/-- A value that is not negative: `mantissa * 2 ^ exponent`, or beyond every finite value. -/
inductive Magnitude where
  | finite (mantissa : Nat) (exponent : Int)
  | infinite
  deriving DecidableEq, Repr

/-- The quotient rounded to the nearest whole number, a tie to the even one. -/
def roundQuotient (numerator denominator : Nat) : Nat :=
  let quotient := numerator / denominator
  let rest := numerator % denominator
  if 2 * rest < denominator ∨ (2 * rest = denominator ∧ quotient % 2 = 0) then quotient else quotient + 1

/-- The quotient rounded up. -/
def ceilQuotient (numerator denominator : Nat) : Nat := (numerator + (denominator - 1)) / denominator

namespace Magnitude

/-- The exponent that gives the quotient 53 significant bits; it is never below `-1074`. -/
def exponentOf (numerator denominator : Nat) : Int :=
  let length : Int := (numerator.log2 : Int) - denominator.log2
  let below : Bool :=
    if 0 ≤ length then numerator < denominator * Nat.pow 2 length.toNat
    else numerator * Nat.pow 2 (-length).toNat < denominator
  max (-1074) (if below then length - 53 else length - 52)

/-- The value nearest to a quotient of whole numbers. A result of `2 ^ 1024` or more is out of
range. -/
def nearest (numerator denominator : Nat) : Magnitude :=
  let exponent := exponentOf numerator denominator
  let mantissa :=
    roundQuotient (numerator * Nat.pow 2 (-exponent).toNat) (denominator * Nat.pow 2 exponent.toNat)
  if 971 < exponent ∨ (exponent = 971 ∧ Nat.pow 2 53 ≤ mantissa) then .infinite
  else .finite mantissa exponent

/-- The product of two values, rounded to nearest. -/
def mul : Magnitude → Magnitude → Magnitude
  | .finite m e, .finite n f => nearest (m * n * Nat.pow 2 (e + f).toNat) (Nat.pow 2 (-(e + f)).toNat)
  | _, _ => .infinite

/-- The number of units in the divisor, rounded to nearest. Dividing by zero is out of range and
dividing by infinity is zero. -/
def divide (units : Nat) : Magnitude → Magnitude
  | .infinite => .finite 0 0
  | .finite m e =>
    if m = 0 then .infinite else nearest (units * Nat.pow 2 (-e).toNat) (m * Nat.pow 2 e.toNat)

/-- The least whole number that is not below the value, or `limit` if that is smaller. -/
def ceil (limit : Nat) : Magnitude → Nat
  | .infinite => limit
  | .finite m e => min limit (ceilQuotient (m * Nat.pow 2 e.toNat) (Nat.pow 2 (-e).toNat))

end Magnitude

/-- The value of a positive finite number. -/
def Binary64.positive? : Binary64 → Option Magnitude
  | .finite false m e => if m = 0 then none else some (.finite m e)
  | _ => none

/-- Rounds up to a whole number between zero and `limit`; what is no number counts as zero. -/
def Binary64.ceil (limit : Nat) : Binary64 → Nat
  | .finite false m e => Magnitude.ceil limit (.finite m e)
  | .infinite false => limit
  | _ => 0

end DialogGrid

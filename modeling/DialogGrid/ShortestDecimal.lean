import DialogGrid.Binary64
import DialogGrid.Numeral

/-!
# Shortest decimal form

The fewest decimal digits that read back as a given binary64 number, written without an
exponent. The numbers that read back as `m * 2 ^ e` form an interval around it, which holds
its ends exactly if `m` is even. The coarsest decimal grid with a point in that interval fixes
the number of digits; of two such points the nearer one is taken, and the upper one at a tie.
-/

namespace DialogGrid

/-- The numbers that round to one value, in units of `2 ^ exponent`. -/
structure RoundingInterval where
  low : Nat
  value : Nat
  high : Nat
  exponent : Int
  closed : Bool

/-- The interval of `m * 2 ^ e`. Below a power of two the next value is only half as far away,
except at the least exponent. -/
def RoundingInterval.of (m : Nat) (e : Int) : RoundingInterval where
  low := 4 * m - if m = Nat.pow 2 52 ∧ -1074 < e then 1 else 2
  value := 4 * m
  high := 4 * m + 2
  exponent := e - 2
  closed := m % 2 = 0

namespace RoundingInterval

/-- Whether `point / unit` lies in the interval scaled by `scale`. -/
def holds (i : RoundingInterval) (point scale : Nat) : Bool :=
  if i.closed then i.low * scale ≤ point && point ≤ i.high * scale
  else i.low * scale < point && point < i.high * scale

/-- The point of the grid of step `10 ^ place` that lies in the interval and nearest to the value. -/
def point? (i : RoundingInterval) (place : Int) : Option Nat :=
  let scale := Nat.pow 2 i.exponent.toNat * Nat.pow 10 (-place).toNat
  let step := Nat.pow 2 (-i.exponent).toNat * Nat.pow 10 place.toNat
  let below := i.value * scale / step
  let lower := below * step
  let upper := (below + 1) * step
  match 0 < below && i.holds lower scale, i.holds upper scale with
  | true, true =>
    some (if i.value * scale - lower < upper - i.value * scale then below else below + 1)
  | true, false => some below
  | false, true => some (below + 1)
  | false, false => none

/-- Digits and the place of the last one, on the coarsest grid that has a point. Places run from
the largest binary64 number down to the smallest. -/
def shortest (i : RoundingInterval) : Nat × Int :=
  let places := (List.range 634).map fun k : Nat => 309 - (k : Int)
  (places.findSome? fun place => (i.point? place).map (·, place)).getD (0, 0)

end RoundingInterval

/-- A whole number times a power of ten, written out in full. -/
def positional (digits : Nat) (place : Int) : Text :=
  let written := Text.ofNat digits
  if 0 ≤ place then written ++ List.replicate place.toNat '0'
  else
    let fraction := (-place).toNat
    let padded := List.replicate (fraction + 1 - written.length) '0' ++ written
    padded.take (padded.length - fraction) ++ '.' :: padded.drop (padded.length - fraction)

/-- The shortest decimal form of a binary64 number. -/
def Binary64.text : Binary64 → Text
  | .nan => lit "NaN"
  | .infinite negative => signed negative (lit "inf")
  | .finite negative m e =>
    signed negative <|
      if m = 0 then lit "0" else
        let (digits, place) := (RoundingInterval.of m e).shortest
        positional digits place
where
  /-- The text with a minus sign before it if `negative`. -/
  signed (negative : Bool) (t : Text) : Text := if negative then '-' :: t else t

end DialogGrid

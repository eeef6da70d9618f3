import DialogGrid.Proofs.Rounding
import Mathlib.Algebra.Order.Floor.Ring
import Mathlib.Algebra.Order.Floor.Semiring
import Mathlib.Data.Rat.Floor

/-!
# The documented cells

Ratios that are whole numbers give every rectangle the cell that the formulas of the grid say, with exact quotients
(`Grid.cell_documented`). A product of up to 53 bits is not rounded at all. And a quotient that is rounded never gets to a
whole number or past one, for it is that of a number of 31 bits by one of at most 53 bits.
-/

namespace DialogGrid

/-- The value of a finite number. -/
def Binary64.value? : Binary64 → Option ℚ
  | .finite negative m e => some (if negative then -(m * 2 ^ e) else m * 2 ^ e)
  | _ => none

/-- The value, if it is not beyond every finite one. -/
def Magnitude.value? : Magnitude → Option ℚ
  | .finite m e => some (m * 2 ^ e)
  | .infinite => none

/-- A value that is a positive whole number of at most 53 bits. -/
structure Magnitude.Whole (x : Magnitude) (n : Nat) : Prop where
  value : x.value? = some (n : ℚ)
  pos : 0 < n
  precise : n ≤ 2 ^ 53

namespace Magnitude

private theorem value?_eq_some_iff {x : Magnitude} {q : ℚ} :
    x.value? = some q ↔ ∃ m e, x = .finite m e ∧ (m : ℚ) * 2 ^ e = q := by
  cases x with
  | infinite => simp [value?]
  | finite m e => simp [value?]

/-! ## Products -/

/-- At the exponent of a quotient that comes out even, the result is a multiple of the unit if it has at most 53 bits. -/
private theorem Scales.exists_multiple {n d k : Nat} {e : Int} (scales : Scales n d e) (denominator : 0 < d)
    (small : k ≤ 2 ^ 53) (even : n = k * d) : e ≤ 1 ∧ ∃ mantissa, k * 2 ^ (-e).toNat = mantissa * 2 ^ e.toNat := by
  have reaches : e = -1074 ∨ (2 : ℚ) ^ (e + 52) ≤ k := by
    refine scales.above.imp_right fun above => ?_
    have divisor : (0 : ℚ) < d := by exact_mod_cast denominator
    rw [even, Nat.cast_mul, mul_comm] at above
    exact (mul_le_mul_iff_left₀ divisor).mp above
  have unit : e ≤ 1 := by
    rcases reaches with least | above
    · omega
    · have small' : (k : ℚ) ≤ 2 ^ (53 : Int) := by exact_mod_cast small
      have exponents : e + 52 ≤ 53 := (zpow_le_zpow_iff_right₀ (by norm_num)).mp (above.trans small')
      omega
  refine ⟨unit, ?_⟩
  -- The unit is at most one, except for the number `2 ^ 53` itself, which is a multiple of two.
  rcases Int.lt_or_le 0 e with two | fraction
  · obtain rfl : e = 1 := by omega
    have large : 2 ^ 53 ≤ k := by exact_mod_cast reaches.resolve_left (by omega)
    obtain rfl : k = 2 ^ 53 := by omega
    exact ⟨2 ^ 52, rfl⟩
  · exact ⟨k * 2 ^ (-e).toNat, by rw [show e.toNat = 0 by omega, Nat.pow_zero, Nat.mul_one]⟩

/-- A quotient that comes out even as a number of up to 53 bits is not rounded. -/
theorem value?_nearest {n d k : Nat} (denominator : 0 < d) (positive : 0 < k) (small : k ≤ 2 ^ 53) (even : n = k * d) :
    (nearest n d).value? = some (k : ℚ) := by
  have numerator : 0 < n := by
    rw [even]
    exact Nat.mul_pos positive denominator
  obtain ⟨e, m, scales, rounded, nearest⟩ := exists_nearest numerator denominator
  obtain ⟨unit, mantissa, scaled⟩ := scales.exists_multiple denominator small even
  have exact : n * 2 ^ (-e).toNat = mantissa * (d * 2 ^ e.toNat) := by
    calc n * 2 ^ (-e).toNat = d * (k * 2 ^ (-e).toNat) := by rw [even]; ring
      _ = mantissa * (d * 2 ^ e.toNat) := by rw [scaled]; ring
  have pos : 0 < d * 2 ^ e.toNat := by positivity
  have unrounded : m = mantissa := by
    rw [← rounded]
    exact Nat.le_antisymm (roundQuotient_le pos (Nat.le_of_eq exact)) (le_roundQuotient pos (Nat.le_of_eq exact.symm))
  rw [nearest, if_neg (by omega), unrounded, value?, (scaled_eq_iff k mantissa e).mp scaled]

/-- A product of whole numbers is exact as long as it has at most 53 bits. -/
theorem value?_mul {x y : Magnitude} {a b : Nat} (left : x.value? = some (a : ℚ)) (right : y.value? = some (b : ℚ))
    (left_pos : 0 < a) (right_pos : 0 < b) (small : a * b ≤ 2 ^ 53) : (x.mul y).value? = some ((a * b : Nat) : ℚ) := by
  obtain ⟨m, e, rfl, isLeft⟩ := value?_eq_some_iff.mp left
  obtain ⟨n, f, rfl, isRight⟩ := value?_eq_some_iff.mp right
  have product : ((a * b : Nat) : ℚ) = (m * n : Nat) * 2 ^ (e + f) := by
    rw [zpow_add₀ (by norm_num)]
    push_cast
    rw [← isLeft, ← isRight]
    ring
  rw [mul]
  simp only [Nat.pow_eq]
  exact value?_nearest (by positivity) (Nat.mul_pos left_pos right_pos) small ((scaled_eq_iff _ _ _).mpr product).symm

/-! ## Quotients -/

/-- Dividing by a whole number rounds the quotient of the same multiple of both numbers. -/
private theorem Whole.exists_divide {x : Magnitude} {d : Nat} (whole : x.Whole d) (n : Nat) :
    ∃ p, 0 < p ∧ divide n x = nearest (n * p) (d * p) := by
  obtain ⟨m, e, rfl, value⟩ := value?_eq_some_iff.mp whole.value
  have scaled := (scaled_eq_iff d m e).mpr value.symm
  have unit : 0 < 2 ^ (-e).toNat := by positivity
  have nonzero : m ≠ 0 := by
    rintro rfl
    rw [Nat.zero_mul] at scaled
    exact absurd scaled (Nat.ne_of_gt (Nat.mul_pos whole.pos unit))
  refine ⟨2 ^ (-e).toNat, unit, ?_⟩
  rw [divide, if_neg nonzero, scaled]
  rfl

section
variable {n d : Nat} (positive : 0 < n) (small : n < 2 ^ 31) (divisor : 0 < d) (precise : d ≤ 2 ^ 53)
include positive small divisor precise

/-- The rounded quotient of a number of 31 bits by one of at most 53 bits never gets past a whole number. -/
theorem ceil_nearest_multiple_le_iff {p k : Nat} (unit : 0 < p) (inside : k < cellLimit) :
    (nearest (n * p) (d * p)).ceil cellLimit ≤ k ↔ n ≤ k * d := by
  have numerator : 0 < n * p := Nat.mul_pos positive unit
  have denominator : 0 < d * p := Nat.mul_pos divisor unit
  rcases Nat.eq_zero_or_pos k with rfl | up
  · have normal : d * p ≤ n * p * 2 ^ 53 := by
      calc d * p ≤ 2 ^ 53 * p := Nat.mul_le_mul_right p precise
        _ ≤ 2 ^ 53 * (n * p) := Nat.mul_le_mul_left _ (Nat.le_mul_of_pos_left p positive)
        _ = n * p * 2 ^ 53 := Nat.mul_comm _ _
    have above := ceil_nearest_pos numerator denominator normal inside
    omega
  · -- Below `2 ^ 31`, whole numbers are further apart than quotients are rounded.
    have apart : k * (d * p) < n * p → k * (d * p) * (2 ^ 53 + 1) < n * p * 2 ^ 53 := by
      intro less
      rw [← Nat.mul_assoc] at less ⊢
      have next : k * d < n := Nat.lt_of_mul_lt_mul_right less
      calc k * d * p * (2 ^ 53 + 1) = k * d * (2 ^ 53 + 1) * p := by ring
        _ < n * 2 ^ 53 * p := Nat.mul_lt_mul_of_pos_right (by omega) unit
        _ = n * p * 2 ^ 53 := by ring
    have limit : k < 2 ^ 53 := Nat.lt_trans inside (by decide)
    rw [ceil_nearest_le_iff numerator denominator up limit inside apart, ← Nat.mul_assoc, Nat.mul_le_mul_right_iff unit]

/-- So it comes to as much as the exact quotient once it is rounded up. -/
theorem ceil_nearest_multiple {p : Nat} (unit : 0 < p) :
    (nearest (n * p) (d * p)).ceil cellLimit = ⌈(n : ℚ) / d⌉₊ := by
  have exact : ∀ k, ⌈(n : ℚ) / d⌉₊ ≤ k ↔ n ≤ k * d := by
    intro k
    have pos : (0 : ℚ) < d := by exact_mod_cast divisor
    rw [Nat.ceil_le, div_le_iff₀ pos]
    exact_mod_cast Iff.rfl
  have few : ⌈(n : ℚ) / d⌉₊ ≤ n := (exact n).mpr (Nat.le_mul_of_pos_right n divisor)
  have limit : 2 ^ 31 < cellLimit := by decide
  have bounded := fun k => ceil_nearest_multiple_le_iff (k := k) positive small divisor precise unit
  have least : (nearest (n * p) (d * p)).ceil cellLimit ≤ ⌈(n : ℚ) / d⌉₊ :=
    (bounded _ (by omega)).mpr ((exact _).mp le_rfl)
  exact Nat.le_antisymm least ((exact _).mpr ((bounded _ (by omega)).mp le_rfl))

end

end Magnitude

/-! ## Coordinates -/

section
variable {ratio : Magnitude} {d : Nat} (whole : ratio.Whole d)
include whole

/-- How many cells a coordinate takes up, if the ratio is a whole number. -/
theorem cellsOf_eq_ceil (value : Int32) : cellsOf value ratio = ⌈(value.toInt : ℚ) / d⌉₊ := by
  rw [cellsOf]
  split
  · next low =>
    have outside : (value.toInt : ℚ) ≤ 0 := by exact_mod_cast low
    exact (Nat.ceil_eq_zero.mpr (div_nonpos_of_nonpos_of_nonneg outside d.cast_nonneg)).symm
  · next high =>
    obtain ⟨n, same⟩ := Int.eq_ofNat_of_zero_le (Int.le_of_lt (Int.not_le.mp high))
    have bound := value.toInt_lt
    rw [same] at high bound ⊢
    obtain ⟨p, unit, divided⟩ := whole.exists_divide n
    rw [Int.toNat_natCast, divided]
    exact Magnitude.ceil_nearest_multiple (by omega) (by omega) whole.pos whole.precise unit

private theorem natCast_cellsOf (value : Int32) : (cellsOf value ratio : ℤ) = max 0 ⌈(value.toInt : ℚ) / d⌉ := by
  rw [cellsOf_eq_ceil whole, ← Int.ceil_toNat, Int.ofNat_toNat, max_comm]

private theorem natCast_span (value : Int32) :
    ((max 1 (cellsOf value ratio) : Nat) : ℤ) = max 1 ⌈(value.toInt : ℚ) / d⌉ := by
  have cells := natCast_cellsOf whole value
  omega

theorem cellsOf_mono {value value' : Int32} (le : value.toInt ≤ value'.toInt) :
    cellsOf value ratio ≤ cellsOf value' ratio := by
  have grows : (value.toInt : ℚ) ≤ value'.toInt := by exact_mod_cast le
  rw [cellsOf_eq_ceil whole, cellsOf_eq_ceil whole]
  exact Nat.ceil_mono (div_le_div_of_nonneg_right grows d.cast_nonneg)

theorem cellsOf_lt (value : Int32) : cellsOf value ratio < cellLimit := by
  have pos : (1 : ℚ) ≤ d := by exact_mod_cast whole.pos
  have small : (value.toInt : ℚ) ≤ (2147483647 : Nat) := by
    have bound := value.toInt_lt
    have most : value.toInt ≤ (2147483647 : Nat) := by omega
    exact_mod_cast most
  have few : cellsOf value ratio ≤ 2147483647 := by
    rw [cellsOf_eq_ceil whole, Nat.ceil_le, div_le_iff₀ (by linarith)]
    exact small.trans (le_mul_of_one_le_right (Nat.cast_nonneg _) pos)
  exact Nat.lt_of_le_of_lt few (by decide)

end

/-! ## Cells -/

/-- Ratios that are positive whole numbers. The one for columns and the product of the other two have at most 53 bits. -/
structure Ratios.Whole (r : Ratios) (gx gy k : Nat) : Prop where
  column : (Binary64.ofFloat r.column).value? = some (gx : ℚ)
  row : (Binary64.ofFloat r.row).value? = some (gy : ℚ)
  compression : (Binary64.ofFloat r.compression).value? = some (k : ℚ)
  column_pos : 0 < gx
  row_pos : 0 < gy
  compression_pos : 0 < k
  column_le : gx ≤ 2 ^ 53
  height_le : gy * k ≤ 2 ^ 53

/-- The cell that the formulas give a rectangle. Quotients are exact and rounded up; the cell begins in the first column and
row or behind them, and it spans at least one of each. -/
structure Cell.Documented (c : Cell) (r : Rect) (gx gy k : Nat) : Prop where
  column : (c.column : ℤ) = max 0 ⌈(r.x.toInt : ℚ) / gx⌉
  row : (c.row : ℤ) = max 0 ⌈(r.y.toInt : ℚ) / gy⌉
  columnSpan : (c.columnSpan : ℤ) = max 1 ⌈(r.width.toInt : ℚ) / gx⌉
  rowSpan : (c.rowSpan : ℤ) = max 1 ⌈(r.height.toInt : ℚ) / (gy * k : Nat)⌉

/-- A cell whose numbers are all below the limit, so that none of them was cut off there. -/
structure Cell.Unlimited (c : Cell) : Prop where
  column : c.column < cellLimit
  row : c.row < cellLimit
  columnSpan : c.columnSpan < cellLimit
  rowSpan : c.rowSpan < cellLimit

/-- A cell that lies and reaches at least as far as another one, wherever its rectangle does. -/
structure Cell.Grows (c c' : Cell) (r r' : Rect) : Prop where
  column : r.x.toInt ≤ r'.x.toInt → c.column ≤ c'.column
  row : r.y.toInt ≤ r'.y.toInt → c.row ≤ c'.row
  columnSpan : r.width.toInt ≤ r'.width.toInt → c.columnSpan ≤ c'.columnSpan
  rowSpan : r.height.toInt ≤ r'.height.toInt → c.rowSpan ≤ c'.rowSpan

namespace Grid

private theorem exists_divisor (name : Text) {ratio : Float} {n : Nat}
    (whole : (Binary64.ofFloat ratio).value? = some (n : ℚ)) (positive : 0 < n) :
    ∃ x, divisor name ratio = .ok x ∧ x.value? = some (n : ℚ) := by
  have above : (0 : ℚ) < n := by exact_mod_cast positive
  rw [divisor]
  cases read : Binary64.ofFloat ratio with
  | nan | infinite =>
    rw [read] at whole
    cases whole
  | finite negative m e =>
    rw [read, Binary64.value?, Option.some_inj] at whole
    have size : (0 : ℚ) ≤ m * 2 ^ e := by positivity
    cases negative with
    | true =>
      rw [if_pos rfl] at whole
      linarith
    | false =>
      rw [if_neg Bool.false_ne_true] at whole
      have nonzero : m ≠ 0 := by
        rintro rfl
        rw [Nat.cast_zero, zero_mul] at whole
        exact absurd whole above.ne
      refine ⟨.finite m e, ?_, congrArg some whole⟩
      rw [Binary64.positive?, if_neg nonzero]

/-- The divisors of a grid are whole numbers. -/
structure Divides (g : Grid) (gx gy height : Nat) : Prop where
  column : g.column.Whole gx
  row : g.row.Whole gy
  height : g.height.Whole height

theorem exists_ofRatios {r : Ratios} {gx gy k : Nat} (whole : r.Whole gx gy k) :
    ∃ g, ofRatios r = .ok g ∧ g.Divides gx gy (gy * k) := by
  obtain ⟨x, isColumn, columns⟩ := exists_divisor (lit "column_ratio") whole.column whole.column_pos
  obtain ⟨y, isRow, rows⟩ := exists_divisor (lit "row_ratio") whole.row whole.row_pos
  obtain ⟨z, isCompression, factor⟩ := exists_divisor (lit "row_compression") whole.compression whole.compression_pos
  refine ⟨⟨x, y, y.mul z⟩, ?_, ?_⟩
  · rw [ofRatios, isColumn, isRow, isCompression]
    rfl
  · have product := Magnitude.value?_mul rows factor whole.row_pos whole.compression_pos whole.height_le
    exact {
      column := ⟨columns, whole.column_pos, whole.column_le⟩
      row := ⟨rows, whole.row_pos, (Nat.le_mul_of_pos_right gy whole.compression_pos).trans whole.height_le⟩
      height := ⟨product, Nat.mul_pos whole.row_pos whole.compression_pos, whole.height_le⟩ }

/-- Ratios that are whole numbers of at most 53 bits are accepted, and every rectangle has the cell that the formulas give
it, with exact quotients. So no number is cut off, and a rectangle further to the right or below, or of a larger size,
never has a smaller one. -/
theorem cell_documented {r : Ratios} {gx gy k : Nat} (whole : r.Whole gx gy k) :
    ∃ g, ofRatios r = .ok g ∧
      (∀ rect, (g.cell rect).Documented rect gx gy k ∧ (g.cell rect).Unlimited) ∧
      ∀ rect rect', (g.cell rect).Grows (g.cell rect') rect rect' := by
  obtain ⟨g, accepted, divides⟩ := exists_ofRatios whole
  refine ⟨g, accepted, fun rect => ⟨?_, ?_⟩, fun rect rect' => ?_⟩
  · exact {
      column := natCast_cellsOf divides.column rect.x
      row := natCast_cellsOf divides.row rect.y
      columnSpan := natCast_span divides.column rect.width
      rowSpan := natCast_span divides.height rect.height }
  · have one : 1 < cellLimit := by decide
    exact {
      column := cellsOf_lt divides.column rect.x
      row := cellsOf_lt divides.row rect.y
      columnSpan := max_lt one (cellsOf_lt divides.column rect.width)
      rowSpan := max_lt one (cellsOf_lt divides.height rect.height) }
  · exact {
      column := cellsOf_mono divides.column
      row := cellsOf_mono divides.row
      columnSpan := fun le => max_le_max_left 1 (cellsOf_mono divides.column le)
      rowSpan := fun le => max_le_max_left 1 (cellsOf_mono divides.height le) }

/-- A rectangle left of the origin, at the largest coordinate, one unit wider than two columns and ten units higher than a
row, under the default ratios. -/
theorem cell_documented_default :
    let rect : Rect := ⟨-9, 2147483647, 17, 330⟩
    Ratios.Whole {} 8 4 80 ∧ ∃ g, ofRatios {} = .ok g ∧
      ((g.cell rect).column, (g.cell rect).row, (g.cell rect).columnSpan, (g.cell rect).rowSpan) = (0, 536870912, 3, 2) := by
  intro rect
  have eight : Binary64.ofFloat 8 = .finite false 4503599627370496 (-49) := by decide +kernel
  have four : Binary64.ofFloat 4 = .finite false 4503599627370496 (-50) := by decide +kernel
  have eighty : Binary64.ofFloat 80 = .finite false 5629499534213120 (-46) := by decide +kernel
  have whole : Ratios.Whole {} 8 4 80 := {
    column := by rw [eight]; norm_num [Binary64.value?]
    row := by rw [four]; norm_num [Binary64.value?]
    compression := by rw [eighty]; norm_num [Binary64.value?]
    column_pos := by decide
    row_pos := by decide
    compression_pos := by decide
    column_le := by decide
    height_le := by decide }
  obtain ⟨g, accepted, cells, -⟩ := cell_documented whole
  obtain ⟨column, row, columnSpan, rowSpan⟩ := (cells rect).1
  have left : ⌈(rect.x.toInt : ℚ) / (8 : Nat)⌉ = -1 := by
    rw [show rect.x.toInt = -9 from rfl]
    norm_num [Int.ceil_eq_iff]
  have below : ⌈(rect.y.toInt : ℚ) / (4 : Nat)⌉ = 536870912 := by
    rw [show rect.y.toInt = 2147483647 from rfl]
    norm_num [Int.ceil_eq_iff]
  have wide : ⌈(rect.width.toInt : ℚ) / (8 : Nat)⌉ = 3 := by
    rw [show rect.width.toInt = 17 from rfl]
    norm_num [Int.ceil_eq_iff]
  have high : ⌈(rect.height.toInt : ℚ) / (4 * 80 : Nat)⌉ = 2 := by
    rw [show rect.height.toInt = 330 from rfl]
    norm_num [Int.ceil_eq_iff]
  rw [left] at column
  rw [below] at row
  rw [wide] at columnSpan
  rw [high] at rowSpan
  refine ⟨whole, g, accepted, ?_⟩
  simp only [Prod.mk.injEq]
  omega

end Grid

end DialogGrid

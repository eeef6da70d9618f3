import DialogGrid.Grid
import Mathlib.Algebra.Order.Field.Power
import Mathlib.Data.Rat.Cast.Order
import Mathlib.Tactic.Linarith
import Mathlib.Tactic.Ring

/-!
# Rounded quotients

A quotient of whole numbers is rounded to 53 significant bits before it is rounded up. A whole number below `2 ^ 53` is
not rounded at all, so a quotient that is at most such a number stays so, and one that exceeds it by more than half a unit
in the last place does too. Between them there is no quotient of a coordinate by a ratio (`Magnitude.ceil_nearest_le_iff`).
-/

namespace DialogGrid

/-! ## Quotients of whole numbers -/

section
variable {n d k : Nat}

theorem roundQuotient_le (pos : 0 < d) (bound : n ≤ k * d) : roundQuotient n d ≤ k := by
  have whole := Nat.div_add_mod n d
  have quotient : n / d ≤ k := Nat.div_le_of_le_mul (by rw [Nat.mul_comm]; exact bound)
  unfold roundQuotient
  dsimp only
  split
  · exact quotient
  · next up =>
    by_contra beyond
    have same : n / d = k := by omega
    rw [same, Nat.mul_comm] at whole
    exact up (.inl (by omega))

theorem le_roundQuotient (pos : 0 < d) (bound : k * d ≤ n) : k ≤ roundQuotient n d := by
  have quotient : k ≤ n / d := (Nat.le_div_iff_mul_le pos).mpr bound
  unfold roundQuotient
  dsimp only
  split
  · exact quotient
  · omega

private theorem lt_roundQuotient (pos : 0 < d) (bound : (2 * k + 1) * d < 2 * n) : k < roundQuotient n d := by
  have whole := Nat.div_add_mod n d
  have split_ : (2 * k + 1) * d = 2 * (k * d) + d := by ring
  have quotient : k < n / d + 1 := by
    by_contra beyond
    have rest := Nat.mod_lt n pos
    have below : d * (n / d) + d ≤ k * d := by
      calc d * (n / d) + d = (n / d + 1) * d := by ring
        _ ≤ k * d := Nat.mul_le_mul_right d (Nat.le_of_not_lt beyond)
    omega
  unfold roundQuotient
  dsimp only
  split
  · next down =>
    by_contra beyond
    have same : n / d = k := by omega
    rw [same, Nat.mul_comm] at whole
    omega
  · exact quotient

theorem ceilQuotient_le_iff (pos : 0 < d) : ceilQuotient n d ≤ k ↔ n ≤ k * d := by
  have next : (k + 1) * d = k * d + d := by ring
  rw [ceilQuotient, ← Nat.lt_add_one_iff, Nat.div_lt_iff_lt_mul pos, next]
  omega

end

/-! ## Powers of two -/

private theorem two_zpow_mul (e : Int) : (2 : ℚ) ^ e * 2 ^ (-e).toNat = 2 ^ e.toNat := by
  rcases Int.le_total 0 e with up | down
  · obtain ⟨p, rfl⟩ := Int.eq_ofNat_of_zero_le up
    simp
  · obtain ⟨p, same⟩ := Int.eq_ofNat_of_zero_le (Int.neg_nonneg_of_nonpos down)
    obtain rfl : e = -(p : Int) := by omega
    have nonzero : (2 : ℚ) ^ p ≠ 0 := by positivity
    simp [nonzero]

theorem scaled_le_iff (a b : Nat) (e : Int) : b * 2 ^ e.toNat ≤ a * 2 ^ (-e).toNat ↔ (b : ℚ) * 2 ^ e ≤ a := by
  have pos : (0 : ℚ) < 2 ^ (-e).toNat := by positivity
  rw [← mul_le_mul_iff_left₀ pos, mul_assoc, two_zpow_mul]
  exact_mod_cast Iff.rfl

theorem le_scaled_iff (a b : Nat) (e : Int) : a * 2 ^ (-e).toNat ≤ b * 2 ^ e.toNat ↔ (a : ℚ) ≤ b * 2 ^ e := by
  have pos : (0 : ℚ) < 2 ^ (-e).toNat := by positivity
  rw [← mul_le_mul_iff_left₀ pos, mul_assoc, two_zpow_mul]
  exact_mod_cast Iff.rfl

theorem scaled_lt_iff (a b : Nat) (e : Int) : a * 2 ^ (-e).toNat < b * 2 ^ e.toNat ↔ (a : ℚ) < b * 2 ^ e := by
  rw [← not_le, scaled_le_iff, not_le]

theorem scaled_eq_iff (a b : Nat) (e : Int) : a * 2 ^ (-e).toNat = b * 2 ^ e.toNat ↔ (a : ℚ) = b * 2 ^ e := by
  rw [Nat.eq_iff_le_and_ge, le_scaled_iff, scaled_le_iff, ← le_antisymm_iff]

namespace Magnitude

/-! ## Exponents -/

/-- An exponent at which a quotient has 53 significant bits, or the least one if it has fewer. -/
structure Scales (n d : Nat) (e : Int) : Prop where
  least : -1074 ≤ e
  below : (n : ℚ) < d * 2 ^ (e + 53)
  above : e = -1074 ∨ (d : ℚ) * 2 ^ (e + 52) ≤ n

private theorem length_bounds {n d : Nat} (numerator : 0 < n) (denominator : 0 < d) :
    let length : Int := (n.log2 : Int) - d.log2
    (d : ℚ) * 2 ^ (length - 1) ≤ n ∧ (n : ℚ) < d * 2 ^ (length + 1) := by
  intro length
  have isTwo : (2 : ℚ) ≠ 0 := by norm_num
  have low : (2 : ℚ) ^ (n.log2 : Int) ≤ n := by
    rw [zpow_natCast]
    exact_mod_cast Nat.log2_self_le (Nat.ne_of_gt numerator)
  have high : (n : ℚ) < 2 ^ ((n.log2 : Int) + 1) := by
    rw [← Nat.cast_succ, zpow_natCast]
    exact_mod_cast Nat.lt_log2_self
  have lowDenominator : (2 : ℚ) ^ (d.log2 : Int) ≤ d := by
    rw [zpow_natCast]
    exact_mod_cast Nat.log2_self_le (Nat.ne_of_gt denominator)
  have highDenominator : (d : ℚ) ≤ 2 ^ ((d.log2 : Int) + 1) := by
    rw [← Nat.cast_succ, zpow_natCast]
    exact_mod_cast Nat.le_of_lt Nat.lt_log2_self
  constructor
  · calc (d : ℚ) * 2 ^ (length - 1)
      _ ≤ 2 ^ ((d.log2 : Int) + 1) * 2 ^ (length - 1) := by gcongr
      _ = 2 ^ (n.log2 : Int) := by rw [← zpow_add₀ isTwo]; congr 1; omega
      _ ≤ n := low
  · calc (n : ℚ)
      _ < 2 ^ ((n.log2 : Int) + 1) := high
      _ = 2 ^ (d.log2 : Int) * 2 ^ (length + 1) := by rw [← zpow_add₀ isTwo]; congr 1; omega
      _ ≤ d * 2 ^ (length + 1) := by gcongr

theorem scales_exponentOf {n d : Nat} (numerator : 0 < n) (denominator : 0 < d) : Scales n d (exponentOf n d) := by
  obtain ⟨low, high⟩ := length_bounds numerator denominator
  unfold exponentOf
  dsimp only
  generalize (n.log2 : Int) - d.log2 = length at low high ⊢
  have decided : (if 0 ≤ length then decide (n < d * Nat.pow 2 length.toNat)
      else decide (n * Nat.pow 2 (-length).toNat < d)) = true ↔ (n : ℚ) < d * 2 ^ length := by
    rw [← scaled_lt_iff]
    split
    · next up =>
      rw [show (-length).toNat = 0 by omega]
      simp
    · next down =>
      rw [show length.toNat = 0 by omega]
      simp
  have grows : ∀ {e e' : Int}, e ≤ e' → (d : ℚ) * 2 ^ e ≤ d * 2 ^ e' := fun le => by
    gcongr
    norm_num
  by_cases short : (n : ℚ) < d * 2 ^ length
  · rw [if_pos (decided.mpr short)]
    refine ⟨by omega, short.trans_le (grows (by omega)), ?_⟩
    rcases Int.le_total (length - 53) (-1074) with least | normal
    · exact .inl (by omega)
    · exact .inr ((grows (by omega)).trans low)
  · rw [if_neg (mt decided.mp short)]
    refine ⟨by omega, high.trans_le (grows (by omega)), ?_⟩
    rcases Int.le_total (length - 52) (-1074) with least | normal
    · exact .inl (by omega)
    · exact .inr ((grows (by omega)).trans (le_of_not_gt short))

/-- The mantissa at such an exponent has 53 bits, or it is one more than the largest of them. -/
theorem Scales.mantissa {n d : Nat} {e : Int} (scales : Scales n d e) (denominator : 0 < d) :
    let mantissa := roundQuotient (n * 2 ^ (-e).toNat) (d * 2 ^ e.toNat)
    mantissa ≤ 2 ^ 53 ∧ (e = -1074 ∨ 2 ^ 52 ≤ mantissa) := by
  intro mantissa
  have isTwo : (2 : ℚ) ≠ 0 := by norm_num
  have pos : 0 < d * 2 ^ e.toNat := by positivity
  constructor
  · refine roundQuotient_le pos (Nat.le_of_lt ?_)
    have bound := (scaled_lt_iff n (2 ^ 53 * d) e).mpr (by
      calc (n : ℚ) < d * 2 ^ (e + 53) := scales.below
        _ = (2 ^ 53 * d : Nat) * 2 ^ e := by rw [zpow_add₀ isTwo]; push_cast; ring)
    rwa [Nat.mul_assoc] at bound
  · refine scales.above.imp_right fun above => le_roundQuotient pos ?_
    have bound := (scaled_le_iff n (2 ^ 52 * d) e).mpr (by
      calc ((2 ^ 52 * d : Nat) : ℚ) * 2 ^ e = d * 2 ^ (e + 52) := by rw [zpow_add₀ isTwo]; push_cast; ring
        _ ≤ n := above)
    rwa [Nat.mul_assoc] at bound

/-- A rounded quotient is its mantissa at such an exponent, or it is out of range. -/
theorem exists_nearest {n d : Nat} (numerator : 0 < n) (denominator : 0 < d) :
    ∃ e m, Scales n d e ∧ roundQuotient (n * 2 ^ (-e).toNat) (d * 2 ^ e.toNat) = m ∧
      nearest n d = if 971 < e ∨ (e = 971 ∧ 2 ^ 53 ≤ m) then .infinite else .finite m e :=
  ⟨exponentOf n d, _, scales_exponentOf numerator denominator, rfl, rfl⟩

/-! ## Rounding up -/

theorem ceil_le_iff {limit k m : Nat} {e : Int} (inside : k < limit) :
    ceil limit (.finite m e) ≤ k ↔ m * 2 ^ e.toNat ≤ k * 2 ^ (-e).toNat := by
  have pos : 0 < 2 ^ (-e).toNat := by positivity
  rw [ceil, Nat.pow_eq, Nat.pow_eq, min_le_iff, ceilQuotient_le_iff pos]
  omega

/-- A rounded quotient is at most a whole number exactly if the quotient is, unless the quotient is so close above the
number that it is rounded to it. -/
theorem ceil_nearest_le_iff {n d k limit : Nat} (numerator : 0 < n) (denominator : 0 < d) (positive : 0 < k)
    (small : k < 2 ^ 53) (inside : k < limit) (apart : k * d < n → k * d * (2 ^ 53 + 1) < n * 2 ^ 53) :
    (nearest n d).ceil limit ≤ k ↔ n ≤ k * d := by
  obtain ⟨e, m, scales, rounded, nearest⟩ := exists_nearest numerator denominator
  obtain ⟨-, precise⟩ := scales.mantissa denominator
  rw [rounded] at precise
  rw [nearest]
  rcases Int.lt_or_le 0 e with large | fraction
  · -- The quotient is at least `2 ^ 53`.
    have long : 2 ^ 52 ≤ m := precise.resolve_left (by omega)
    have beyond : ¬ n ≤ k * d := by
      have above := scales.above.resolve_left (by omega)
      have unit : (2 : ℚ) ^ (53 : Int) ≤ 2 ^ (e + 52) := zpow_le_zpow_right₀ (by norm_num) (by omega)
      have quotient : d * 2 ^ 53 ≤ n := by
        have bound : (d : ℚ) * 2 ^ (53 : Int) ≤ n := le_trans (by gcongr) above
        exact_mod_cast bound
      have less : k * d < 2 ^ 53 * d := Nat.mul_lt_mul_of_pos_right small denominator
      rw [Nat.mul_comm] at quotient
      omega
    refine iff_of_false ?_ beyond
    split
    · exact Nat.not_le_of_lt inside
    · rw [ceil_le_iff inside, show (-e).toNat = 0 by omega]
      have unit : 2 ^ 1 ≤ 2 ^ e.toNat := Nat.pow_le_pow_right (by omega) (by omega)
      have product := Nat.mul_le_mul long unit
      omega
  · -- The unit is at most one, so the number is a multiple of it.
    rw [if_neg (by omega), ceil_le_iff inside]
    rw [show e.toNat = 0 by omega, Nat.pow_zero, Nat.mul_one] at rounded ⊢
    constructor
    · intro bound
      by_contra beyond
      have above := apart (Nat.lt_of_not_le beyond)
      refine Nat.not_lt_of_le bound ?_
      rcases Nat.lt_or_ge (k * 2 ^ (-e).toNat) (2 ^ 52) with short | long
      · rcases precise with least | long
        · have unit : 2 ^ 52 < 2 ^ (-e).toNat := Nat.pow_lt_pow_right (by omega) (by omega)
          have multiple := Nat.le_mul_of_pos_left (2 ^ (-e).toNat) positive
          omega
        · exact Nat.lt_of_lt_of_le short long
      · rw [← rounded]
        refine lt_roundQuotient denominator (Nat.lt_of_mul_lt_mul_left (a := 2 ^ 52) ?_)
        have unit : 0 < 2 ^ (-e).toNat := by positivity
        calc 2 ^ 52 * ((2 * (k * 2 ^ (-e).toNat) + 1) * d)
          _ = 2 ^ 53 * (k * d) * 2 ^ (-e).toNat + 2 ^ 52 * d := by ring
          _ ≤ 2 ^ 53 * (k * d) * 2 ^ (-e).toNat + k * 2 ^ (-e).toNat * d :=
            Nat.add_le_add_left (Nat.mul_le_mul_right d long) _
          _ = k * d * (2 ^ 53 + 1) * 2 ^ (-e).toNat := by ring
          _ < n * 2 ^ 53 * 2 ^ (-e).toNat := Nat.mul_lt_mul_of_pos_right above unit
          _ = 2 ^ 52 * (2 * (n * 2 ^ (-e).toNat)) := by ring
    · intro bound
      rw [← rounded]
      refine roundQuotient_le denominator ?_
      calc n * 2 ^ (-e).toNat ≤ k * d * 2 ^ (-e).toNat := Nat.mul_le_mul_right _ bound
        _ = k * 2 ^ (-e).toNat * d := by ring

/-- A quotient that is not below every normal number is not rounded to zero. -/
theorem ceil_nearest_pos {n d limit : Nat} (numerator : 0 < n) (denominator : 0 < d) (normal : d ≤ n * 2 ^ 53)
    (inside : 0 < limit) : 0 < (nearest n d).ceil limit := by
  obtain ⟨e, m, scales, rounded, nearest⟩ := exists_nearest numerator denominator
  obtain ⟨-, precise⟩ := scales.mantissa denominator
  rw [rounded] at precise
  rw [nearest]
  have above : e ≠ -1074 := by
    rintro rfl
    have bound : (d : ℚ) ≤ n * 2 ^ (53 : Int) := by exact_mod_cast normal
    have below : (n : ℚ) < n := by
      calc (n : ℚ) < d * 2 ^ (-1074 + 53 : Int) := scales.below
        _ ≤ n * 2 ^ (53 : Int) * 2 ^ (-1074 + 53 : Int) := by gcongr
        _ = n * 2 ^ (-968 : Int) := by rw [mul_assoc, ← zpow_add₀ (by norm_num)]; norm_num
        _ ≤ n * 1 := by gcongr; exact zpow_le_one_of_nonpos₀ (by norm_num) (by norm_num)
        _ = n := mul_one _
    exact lt_irrefl _ below
  have long := precise.resolve_left above
  split
  · exact inside
  · refine Nat.lt_of_not_le fun none => ?_
    have positive : 0 < m * 2 ^ e.toNat := Nat.mul_pos (by omega) (by positivity)
    rw [ceil_le_iff inside, Nat.zero_mul] at none
    omega

theorem mantissa_le_of_nearest {n d m : Nat} {e : Int} (numerator : 0 < n) (denominator : 0 < d)
    (rounded : nearest n d = .finite m e) : m ≤ 2 ^ 53 := by
  obtain ⟨e', m', scales, mantissa, nearest⟩ := exists_nearest numerator denominator
  rw [nearest] at rounded
  split at rounded
  · cases rounded
  · cases rounded
    rw [← mantissa]
    exact (scales.mantissa denominator).1

end Magnitude

end DialogGrid

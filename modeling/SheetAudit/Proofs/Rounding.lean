import Mathlib.Algebra.Order.Field.Power
import Mathlib.Data.Rat.Floor
import Mathlib.Tactic.FieldSimp
import Mathlib.Tactic.Linarith
import Mathlib.Tactic.Positivity
import SheetAudit.Number.Binary64

/-!
# The error of rounding

The number of the binary format that stands for a rational is at most half a spacing away, and the
spacing is at most as large as the rational, but for small ones.  So the result of an operation is
finite as long as the exact result is not huge.

## Key results

- `twoPow_binade_le`: the binade of a rational lies below it
- `abs_nearest_sub_le_spacing`: the error of rounding
- `exists_ofRat_eq_finite`: what is not huge stays finite
- `within_ofRat` / `Within.mul`: the size of results
-/

namespace SheetAudit.Number

/-! ## Integers and powers of two -/

/-- Rounding to an integer is off by at most a half. -/
theorem abs_roundEven_sub_le (q : ℚ) : |(roundEven q : ℚ) - q| ≤ 1 / 2 := by
  have hlow := Int.floor_le q
  have hhigh := Int.lt_floor_add_one q
  have hfloor : q.floor = ⌊q⌋ := rfl
  rw [roundEven, hfloor]
  split_ifs <;> push_cast <;> rw [abs_le] <;> constructor <;> linarith

/-- The magnitude of a rational is its absolute value. -/
theorem magnitude_eq_abs (q : ℚ) : magnitude q = |q| := by
  rw [magnitude]
  split
  · next h => exact (abs_of_neg h).symm
  · next h => exact (abs_of_nonneg (not_lt.mp h)).symm

/-- The powers of two of the format are powers of two. -/
theorem twoPow_eq_zpow (e : ℤ) : twoPow e = 2 ^ e := by
  cases e with
  | ofNat n => simp [twoPow]
  | negSucc n => simp [twoPow, zpow_negSucc]

/-- The binade of a positive rational lies below it. -/
theorem twoPow_binade_le {q : ℚ} (hq : 0 < q) : twoPow (binade q) ≤ q := by
  rw [binade]
  split
  · next h => exact h
  · -- the numerator is at least its power of two, and the denominator less than twice its own
    have hnum : ((2 : ℚ) ^ q.num.natAbs.log2) ≤ q.num.natAbs := by
      exact_mod_cast Nat.log2_self_le (by simpa using hq.ne')
    have hden : (q.den : ℚ) < 2 ^ (q.den.log2 + 1) := by
      exact_mod_cast Nat.lt_log2_self
    have hden_pos : (0 : ℚ) < q.den := by exact_mod_cast q.den_pos
    have habs : (q.num.natAbs : ℚ) = q * q.den := by
      rw [Rat.mul_den_eq_num, ← Int.cast_natCast, Int.natAbs_of_nonneg (Rat.num_nonneg.mpr hq.le)]
    rw [twoPow_eq_zpow]
    have hsplit : (2 : ℚ) ^ ((q.num.natAbs.log2 : ℤ) - q.den.log2 - 1) =
        2 ^ q.num.natAbs.log2 / 2 ^ (q.den.log2 + 1) := by
      rw [sub_sub, zpow_sub₀ two_ne_zero]
      norm_cast
    rw [hsplit, div_le_iff₀ (by positivity)]
    calc (2 : ℚ) ^ q.num.natAbs.log2 ≤ q * q.den := habs ▸ hnum
      _ ≤ q * 2 ^ (q.den.log2 + 1) := by gcongr

namespace Binary64

/-! ## The nearest number -/

/-- The nearest number is at most half a spacing away. -/
theorem abs_nearest_sub_le_spacing (q : ℚ) : |nearest q - q| ≤ 2 ^ spacing q / 2 := by
  -- the error of rounding to an integer, brought to the scale of the spacing
  have hunit : (0 : ℚ) < 2 ^ spacing q := by positivity
  have herror := abs_roundEven_sub_le (q / 2 ^ spacing q)
  have hscale : (roundEven (q / 2 ^ spacing q) : ℚ) * 2 ^ spacing q - q =
      ((roundEven (q / 2 ^ spacing q) : ℚ) - q / 2 ^ spacing q) * 2 ^ spacing q := by
    field_simp
  rw [nearest, twoPow_eq_zpow, hscale, abs_mul, abs_of_pos hunit]
  calc _ ≤ 1 / 2 * (2 : ℚ) ^ spacing q := by gcongr
    _ = 2 ^ spacing q / 2 := by ring

/-- Neighbouring numbers are no farther apart than the numbers are large, but for small ones. -/
private theorem two_zpow_spacing_le {q : ℚ} (hq : q ≠ 0) : (2 : ℚ) ^ spacing q ≤ |q| + 1 := by
  have hpos : 0 < |q| := abs_pos.mpr hq
  rw [spacing, magnitude_eq_abs]
  -- the spacing is that of the binade, or the smallest there is
  rcases max_cases (binade |q| - 52) (-1074) with ⟨h, -⟩ | ⟨h, -⟩
  · rw [h]
    calc (2 : ℚ) ^ (binade |q| - 52) ≤ 2 ^ binade |q| :=
          zpow_le_zpow_right₀ one_le_two (by omega)
      _ ≤ |q| := twoPow_eq_zpow (binade |q|) ▸ twoPow_binade_le hpos
      _ ≤ |q| + 1 := by linarith
  · rw [h]
    calc (2 : ℚ) ^ (-1074 : ℤ) ≤ 1 := zpow_le_one_of_nonpos₀ one_le_two (by norm_num)
      _ ≤ |q| + 1 := by linarith

/-- Rounding at most doubles a rational and adds one. -/
theorem abs_nearest_le {q : ℚ} (hq : q ≠ 0) : |nearest q| ≤ 2 * |q| + 1 := by
  have hspacing := two_zpow_spacing_le hq
  have herror := abs_nearest_sub_le_spacing q
  have hsize : |nearest q| ≤ |q| + |nearest q - q| := by
    have := abs_add_le q (nearest q - q)
    rwa [add_sub_cancel] at this
  linarith [abs_nonneg q]

/-- What is not huge stays finite. -/
theorem exists_ofRat_eq_finite {q : ℚ} (hq : |q| ≤ 2 ^ 1022) :
    ∃ v, ofRat q = .finite v ∧ |v| ≤ 2 * |q| + 1 := by
  rw [ofRat]
  split
  · exact ⟨0, rfl, by rw [abs_zero]; positivity⟩
  · next h =>
    have hsize := abs_nearest_le h
    -- what at most doubles below 2^1022 stays below the limit of the format
    have hrange : |nearest q| < 2 ^ 1024 := by
      have hone : (1 : ℚ) ≤ 2 ^ 1022 := one_le_pow₀ one_le_two
      -- twice the number and one is less than four times the bound
      rw [pow_add 2 1022 2]
      generalize (2 : ℚ) ^ 1022 = large at hq hone ⊢
      linarith
    have hfinite : ¬twoPow 1024 ≤ magnitude (nearest q) := by
      rw [twoPow_eq_zpow, magnitude_eq_abs, not_le]
      exact hrange
    exact ⟨nearest q, if_neg hfinite, hsize⟩

/-! ## The size of results -/

/-- Whether a number is finite and its size at most `b`. -/
def Within (b : ℚ) (x : Binary64) : Prop :=
  ∃ v, x = .finite v ∧ |v| ≤ b

/-- Rounding may double a number and add one to it. -/
theorem within_ofRat {b q : ℚ} (hq : |q| ≤ b) (hb : b ≤ 2 ^ 100) :
    Within (2 * b + 1) (ofRat q) := by
  have hlarge : (2 : ℚ) ^ 100 ≤ 2 ^ 1022 := pow_le_pow_right₀ one_le_two (by norm_num)
  obtain ⟨v, hv, hsize⟩ := exists_ofRat_eq_finite (hq.trans (hb.trans hlarge))
  exact ⟨v, hv, by linarith⟩

/-- The size of a product is bounded by the sizes of its factors. -/
theorem Within.mul {a b : ℚ} {x y : Binary64} (hx : Within a x) (hy : Within b y)
    (h : a * b ≤ 2 ^ 100) : Within (2 * (a * b) + 1) (x * y) := by
  obtain ⟨v, rfl, hv⟩ := hx
  obtain ⟨w, rfl, hw⟩ := hy
  refine within_ofRat ?_ h
  rw [abs_mul]
  exact mul_le_mul hv hw (abs_nonneg w) ((abs_nonneg v).trans hv)

/-- A quotient of integers that is not huge. -/
theorem exists_quotient_eq_finite {n : ℤ} {d : ℕ} (hd : 0 < d) (h : |(n : ℚ)| ≤ 2 ^ 1022 * d) :
    ∃ v, quotient n d = .ok (.finite v) := by
  have hquotient : |mkRat n d| ≤ 2 ^ 1022 := by
    rw [Rat.mkRat_eq_div, abs_div, div_le_iff₀ (by positivity), Nat.abs_cast]
    exact h
  obtain ⟨v, hv, -⟩ := exists_ofRat_eq_finite hquotient
  exact ⟨v, by rw [quotient, hv]⟩

end Binary64

end SheetAudit.Number

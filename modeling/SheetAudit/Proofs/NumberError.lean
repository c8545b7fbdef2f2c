import SheetAudit.Proofs.NumberOrder

/-!
# How errors add up

An operation on numbers of bounded size adds a fixed error to those of its operands.  `Near ε q x`
says that a number stands for a rational up to an error, and each operation has a lemma that says
what error its result has.

## Key results

- `abs_nearest_sub_le` / `near_ofRat`: the error of rounding a number of bounded size
- `nearest_mul_two_zpow` / `quotient_two_pow`: what is rounded without an error
- `Near.add` / `Near.sub` / `Near.mul`: the errors of sums, differences and products
- `Near.foldl_add`: the error of a sum from left to right
- `Near.floor_eq`: the integer below a number that is far from the integers
-/

namespace SheetAudit.Number.Binary64

/-! ## One rounding -/

/-- The error of rounding is at most half of the last place of the largest operand. -/
theorem abs_nearest_sub_le {q : ℚ} {e : ℤ} (he : -1022 ≤ e) (h : |q| ≤ 2 ^ e) :
    |nearest q - q| ≤ 2 ^ (e - 53) := by
  by_cases hq : q = 0
  · rw [hq, nearest_zero, sub_zero, abs_zero]
    positivity
  -- the binade of the operand is at most the given exponent, and so the spacing is bounded
  · have hbinade : (2 : ℚ) ^ binade |q| ≤ 2 ^ e :=
      (twoPow_eq_zpow (binade |q|) ▸ twoPow_binade_le (abs_pos.mpr hq)).trans h
    have hexponent := (zpow_le_zpow_iff_right₀ one_lt_two).mp hbinade
    have hspacing : spacing q ≤ e - 53 + 1 := by
      rw [spacing, magnitude_eq_abs]
      omega
    calc |nearest q - q| ≤ 2 ^ spacing q / 2 := abs_nearest_sub_le_spacing q
      _ ≤ 2 ^ (e - 53 + 1) / 2 :=
        div_le_div_of_nonneg_right (zpow_le_zpow_right₀ one_le_two hspacing) zero_le_two
      _ = 2 ^ (e - 53) := by
        rw [zpow_add_one₀ two_ne_zero, mul_div_cancel_right₀ _ two_ne_zero]

/-- A rational that is not huge stands for the number nearest to it. -/
private theorem ofRat_of_abs_le {q : ℚ} (h : |q| ≤ 2 ^ 1022) : ofRat q = finite (nearest q) := by
  obtain ⟨v, hv, -⟩ := exists_ofRat_eq_finite h
  rw [ofRat_eq] at hv ⊢
  split at hv
  · cases hv
  · next hsmall => exact if_neg hsmall

/-! ## Exact results -/

/-- A multiple of a power of two by an integer of 53 bits is a number of the format. -/
theorem nearest_mul_two_zpow {n e : ℤ} (hn : |n| < 2 ^ 53) (he : -1074 ≤ e) :
    nearest (n * 2 ^ e) = n * 2 ^ e := by
  by_cases hzero : n = 0
  · rw [hzero, Int.cast_zero, zero_mul, nearest_zero]
  · have hpos : 0 < |(n : ℚ) * 2 ^ e| := abs_pos.mpr (by positivity)
    -- an integer of 53 bits bounds the binade of the product
    have hsize : |(n : ℚ) * 2 ^ e| < 2 ^ (53 + e) := by
      have hn' : |(n : ℚ)| < 2 ^ 53 := by exact_mod_cast hn
      rw [abs_mul, abs_of_pos (by positivity : (0 : ℚ) < 2 ^ e), zpow_add₀ two_ne_zero]
      exact mul_lt_mul_of_pos_right hn' (by positivity)
    have hbinade : (2 : ℚ) ^ binade |(n : ℚ) * 2 ^ e| < 2 ^ (53 + e) :=
      (twoPow_eq_zpow _ ▸ twoPow_binade_le hpos).trans_lt hsize
    have hexponent := (zpow_lt_zpow_iff_right₀ one_lt_two).mp hbinade
    have hspacing : spacing (n * 2 ^ e) ≤ e := by
      rw [spacing, magnitude_eq_abs]
      omega
    -- the spacing divides the power of two, so that nothing is left to round
    obtain ⟨j, hj⟩ := exists_two_zpow_eq_mul hspacing
    have hunit : (2 : ℚ) ^ spacing (n * 2 ^ e) ≠ 0 := by positivity
    have hmultiple : (n : ℚ) * 2 ^ e / 2 ^ spacing (n * 2 ^ e) = ((n * j : ℤ) : ℚ) := by
      rw [div_eq_iff hunit]
      push_cast
      rw [mul_assoc, ← hj]
    rw [nearest_eq, hmultiple, roundEven_intCast, ← hmultiple, div_mul_cancel₀ _ hunit]

/-- The quotient of an integer of 53 bits and a power of two is exact. -/
theorem quotient_two_pow {n : ℤ} {k : ℕ} (hn : |n| < 2 ^ 53) (hk : k ≤ 1022) :
    quotient n (2 ^ k) = .ok (finite (n / 2 ^ k)) := by
  have hvalue : mkRat n (2 ^ k) = n * 2 ^ (-(k : ℤ)) := by
    rw [Rat.mkRat_eq_div, zpow_neg, zpow_natCast, ← div_eq_mul_inv]
    push_cast
    rfl
  -- the quotient is in range, so that nothing but rounding to the grid can happen to it
  have hsize : |(n : ℚ) * 2 ^ (-(k : ℤ))| ≤ 2 ^ 1022 := by
    have hn' : |(n : ℚ)| ≤ 2 ^ 1022 := by
      have hlarge : (2 : ℚ) ^ 53 ≤ 2 ^ 1022 := pow_le_pow_right₀ one_le_two (by norm_num)
      have hlt : |(n : ℚ)| < 2 ^ 53 := by exact_mod_cast hn
      exact hlt.le.trans hlarge
    rw [abs_mul, abs_of_pos (by positivity : (0 : ℚ) < 2 ^ (-(k : ℤ)))]
    calc |(n : ℚ)| * 2 ^ (-(k : ℤ)) ≤ |(n : ℚ)| * 1 := by
          gcongr
          exact zpow_le_one_of_nonpos₀ one_le_two (by omega)
      _ ≤ 2 ^ 1022 := by rwa [mul_one]
  rw [quotient, hvalue, ofRat_of_abs_le hsize, nearest_mul_two_zpow hn (by omega), zpow_neg,
    zpow_natCast, ← div_eq_mul_inv]

/-! ## Operations -/

/-- The error of an operation with a result of size at most 2^10. -/
def roundingError : ℚ := 1 / 2 ^ 43

/-- The error of an operation is positive. -/
theorem roundingError_pos : 0 < roundingError := by
  rw [roundingError]
  positivity

/-- Whether a number is finite and differs from a rational by at most `ε`. -/
def Near (ε q : ℚ) (x : Binary64) : Prop :=
  ∃ v, x = finite v ∧ |v - q| ≤ ε

section Near

variable {ε δ q r : ℚ} {x y : Binary64}

/-- A finite number stands for its value without an error. -/
theorem near_finite (v : ℚ) : Near 0 v (finite v) :=
  ⟨v, rfl, by rw [sub_self, abs_zero]⟩

/-- Errors are not negative. -/
theorem Near.nonneg (h : Near ε q x) : 0 ≤ ε := by
  obtain ⟨v, -, hv⟩ := h
  exact (abs_nonneg _).trans hv

/-- A number that is near is also near with a larger error. -/
theorem Near.mono (h : Near ε q x) (hle : ε ≤ δ) : Near δ q x := by
  obtain ⟨v, rfl, hv⟩ := h
  exact ⟨v, rfl, hv.trans hle⟩

/-- Rounding adds its own error. -/
theorem near_ofRat {p : ℚ} (h : |p - q| ≤ ε) (hp : |p| ≤ 2 ^ 10) :
    Near (ε + roundingError) q (ofRat p) := by
  have hlarge : (2 : ℚ) ^ 10 ≤ 2 ^ 1022 := pow_le_pow_right₀ one_le_two (by norm_num)
  -- the error of one rounding at size 2^10
  have hround : |nearest p - p| ≤ roundingError := by
    have := abs_nearest_sub_le (e := 10) (by norm_num) hp
    rw [roundingError]
    norm_num at this ⊢
    exact this
  refine ⟨nearest p, ofRat_of_abs_le (hp.trans hlarge), ?_⟩
  have := abs_sub_le (nearest p) p q
  linarith

/-- A rational of bounded size is rounded with the error of one operation. -/
theorem near_ofRat_self (hq : |q| ≤ 2 ^ 10) : Near roundingError q (ofRat q) := by
  have hexact : |q - q| ≤ 0 := by rw [sub_self, abs_zero]
  have hnear := near_ofRat hexact hq
  rwa [zero_add] at hnear

/-- The error of a sum is the sum of the errors, and that of rounding. -/
theorem Near.add (hx : Near ε q x) (hy : Near δ r y) (hsize : |q + r| + ε + δ ≤ 2 ^ 10) :
    Near (ε + δ + roundingError) (q + r) (x + y) := by
  obtain ⟨v, rfl, hv⟩ := hx
  obtain ⟨w, rfl, hw⟩ := hy
  have herror : |v + w - (q + r)| ≤ ε + δ := by
    rw [add_sub_add_comm]
    exact (abs_add_le _ _).trans (add_le_add hv hw)
  rw [finite_add_finite]
  refine near_ofRat herror ?_
  have := abs_sub_abs_le_abs_sub (v + w) (q + r)
  linarith

/-- Negation adds no error. -/
theorem Near.neg (h : Near ε q x) : Near ε (-q) x.neg := by
  obtain ⟨v, rfl, hv⟩ := h
  refine ⟨-v, rfl, ?_⟩
  rwa [← neg_sub', abs_neg]

/-- The error of a difference is the sum of the errors, and that of rounding. -/
theorem Near.sub (hx : Near ε q x) (hy : Near δ r y) (hsize : |q - r| + ε + δ ≤ 2 ^ 10) :
    Near (ε + δ + roundingError) (q - r) (x - y) := by
  rw [sub_eq_add_neg] at hsize ⊢
  exact hx.add hy.neg hsize

/-- The error of a product: each operand's error in proportion to the other, and that of
rounding. -/
theorem Near.mul (hx : Near ε q x) (hy : Near δ r y) (hsize : (|q| + ε) * (|r| + δ) ≤ 2 ^ 10) :
    Near (ε * |r| + (|q| + ε) * δ + roundingError) (q * r) (x * y) := by
  obtain ⟨v, rfl, hv⟩ := hx
  obtain ⟨w, rfl, hw⟩ := hy
  have hv' : |v| ≤ |q| + ε := by
    have := abs_sub_abs_le_abs_sub v q
    linarith
  have hw' : |w| ≤ |r| + δ := by
    have := abs_sub_abs_le_abs_sub w r
    linarith
  have herror : |v * w - q * r| ≤ ε * |r| + (|q| + ε) * δ := by
    -- the second operand's error is scaled by the number, the first one's by the rational
    have hsplit : v * w - q * r = (v - q) * r + v * (w - r) := by ring
    calc |v * w - q * r| ≤ |v - q| * |r| + |v| * |w - r| := by
          rw [hsplit, ← abs_mul, ← abs_mul]
          exact abs_add_le _ _
      _ ≤ ε * |r| + (|q| + ε) * δ := by
          have := (abs_nonneg v).trans hv'
          gcongr
  rw [finite_mul_finite]
  refine near_ofRat herror ?_
  rw [abs_mul]
  exact (mul_le_mul hv' hw' (abs_nonneg w) ((abs_nonneg v).trans hv')).trans hsize

/-- The error of a sum from left to right, whose terms are of size at most 100. -/
theorem Near.foldl_add {xs : List Binary64} {qs : List ℚ}
    (h : List.Forall₂ (fun x q => Near ε q x ∧ |q| ≤ 100) xs qs) {p : ℚ} {acc : Binary64}
    (hacc : Near δ p acc) (hsize : |p| + δ + qs.length * (100 + ε + roundingError) ≤ 2 ^ 10) :
    Near (δ + qs.length * (ε + roundingError)) (p + qs.sum) (xs.foldl (· + ·) acc) := by
  -- by induction on the terms, with the error of what was added so far
  induction h generalizing δ p acc with
  | nil => simpa using hacc
  | @cons x q xs qs hx hxs ih =>
    obtain ⟨hx, hq⟩ := hx
    have hlength : (0 : ℚ) ≤ qs.length * (100 + ε + roundingError) := by
      have := hx.nonneg
      have := roundingError_pos
      positivity
    have hsum := abs_add_le p q
    rw [List.length_cons, Nat.cast_succ, add_one_mul] at hsize ⊢
    -- the sum so far is bounded, so that the next rounding has the fixed error
    have hnext := hacc.add hx (by linarith [roundingError_pos])
    have hrest := ih hnext (by linarith)
    rw [List.foldl_cons, List.sum_cons, ← add_assoc p q]
    refine hrest.mono (le_of_eq ?_)
    ring

/-- The integer below a number that is close to a rational far from all integers. -/
theorem Near.floor_eq (h : Near ε q x) (hfar : ∀ n : ℤ, ε < |q - n|) : x.floor = .ok ⌊q⌋ := by
  obtain ⟨v, rfl, hv⟩ := h
  rw [floor_eq_ok_iff]
  refine ⟨v, rfl, ?_⟩
  obtain ⟨hlow, hhigh⟩ := abs_le.mp hv
  -- the next integers below and above are farther away than the error
  have hbelow := hfar ⌊q⌋
  have habove := hfar (⌊q⌋ + 1)
  rw [abs_of_nonneg (sub_nonneg.mpr (Int.floor_le q))] at hbelow
  push_cast at habove
  rw [abs_of_nonpos (sub_nonpos.mpr (Int.lt_floor_add_one q).le)] at habove
  rw [Int.floor_eq_iff]
  constructor <;> linarith

end Near

end SheetAudit.Number.Binary64

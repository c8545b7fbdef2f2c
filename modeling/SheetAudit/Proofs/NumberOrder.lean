import SheetAudit.Proofs.Rounding

/-!
# The order of the numbers

Rounding keeps the order of rationals: between a smaller and a larger rational with different
spacings there is a power of two, which is a number of the format on both sides.  So every operation
on numbers keeps their order, whatever its error is, and a result can be enclosed by results for
larger and smaller operands.

## Key results

- `roundEven_mono` / `nearest_mono` / `ofRat_mono`: rounding keeps the order
- `le_of_rounded`: so does an operation that is rounded
- `add_mono` / `mul_mono` / `finite_sub_antitone`: sums, products and differences
- `foldl_add_mono`: sums from left to right
- `exists_floor_eq_ok`: the integer below a number that lies between two numbers
-/

namespace SheetAudit.Number

/-! ## Rounding to an integer -/

/-- Rounding to an integer by the gap to the integer below: less than a half goes down, more goes
up, and a half goes to the even side. -/
private theorem roundEven_eq (q : ℚ) :
    roundEven q =
      if q - ⌊q⌋ < 1 / 2 then ⌊q⌋
      else if 1 / 2 < q - ⌊q⌋ then ⌊q⌋ + 1
      else if ⌊q⌋ % 2 = 0 then ⌊q⌋ else ⌊q⌋ + 1 :=
  rfl

/-- A rounded rational is not below the integer below it. -/
private theorem floor_le_roundEven (q : ℚ) : ⌊q⌋ ≤ roundEven q := by
  rw [roundEven_eq]
  split_ifs <;> omega

/-- A rounded rational is at most the integer above it. -/
private theorem roundEven_le_floor_add_one (q : ℚ) : roundEven q ≤ ⌊q⌋ + 1 := by
  rw [roundEven_eq]
  split_ifs <;> omega

/-- Integers are rounded to themselves. -/
theorem roundEven_intCast (n : ℤ) : roundEven n = n := by
  rw [roundEven_eq, Int.floor_intCast, sub_self, if_pos (by norm_num)]

/-- Rounding to an integer keeps the order. -/
theorem roundEven_mono {p q : ℚ} (h : p ≤ q) : roundEven p ≤ roundEven q := by
  rcases (Int.floor_mono h).lt_or_eq with hlt | heq
  · -- an integer lies between the two
    calc roundEven p ≤ ⌊p⌋ + 1 := roundEven_le_floor_add_one p
      _ ≤ ⌊q⌋ := hlt
      _ ≤ roundEven q := floor_le_roundEven q
  -- with the same integer below, only the gaps are compared
  · rw [roundEven_eq, roundEven_eq, heq]
    split_ifs <;> linarith

/-- Halves go to the even integer on both sides of zero. -/
theorem roundEven_neg (q : ℚ) : roundEven (-q) = -roundEven q := by
  -- an integer has no gap, and for it the floor of the negation is another one
  by_cases hint : (⌊q⌋ : ℚ) = q
  · rw [← hint, ← Int.cast_neg, roundEven_intCast, roundEven_intCast]
  · have hlow : (⌊q⌋ : ℚ) < q := lt_of_le_of_ne (Int.floor_le q) hint
    have hhigh := Int.lt_floor_add_one q
    have hfloor : ⌊-q⌋ = -⌊q⌋ - 1 := by
      rw [Int.floor_eq_iff]
      push_cast
      constructor <;> linarith
    rw [roundEven_eq, roundEven_eq, hfloor]
    push_cast
    -- the two gaps add up to one
    rcases lt_trichotomy (q - ⌊q⌋) (1 / 2) with hgap | hgap | hgap
    · rw [if_neg (by linarith), if_pos (by linarith), if_pos hgap]
      omega
    · have hgap' : -q - (-(⌊q⌋ : ℚ) - 1) = 1 / 2 := by linarith
      rw [hgap, hgap']
      simp only [lt_irrefl, if_false]
      split_ifs <;> omega
    · rw [if_pos (by linarith), if_neg (by linarith), if_pos hgap]
      omega

/-! ## The spacing of the numbers -/

/-- A positive rational lies below the next binade. -/
private theorem lt_twoPow_binade_add_one {q : ℚ} (hq : 0 < q) : q < 2 ^ (binade q + 1) := by
  rw [binade]
  split
  · -- the numerator is less than twice its power of two, and the denominator at least its own
    have hnum : (q.num.natAbs : ℚ) < 2 ^ (q.num.natAbs.log2 + 1) := by
      exact_mod_cast Nat.lt_log2_self
    have hden : (2 : ℚ) ^ q.den.log2 ≤ q.den := by
      exact_mod_cast Nat.log2_self_le q.den_nz
    have habs : (q.num.natAbs : ℚ) = q * q.den := by
      rw [Rat.mul_den_eq_num, ← Int.cast_natCast, Int.natAbs_of_nonneg (Rat.num_nonneg.mpr hq.le)]
    have hsplit : (2 : ℚ) ^ ((q.num.natAbs.log2 : ℤ) - q.den.log2 + 1) =
        2 ^ (q.num.natAbs.log2 + 1) / 2 ^ q.den.log2 := by
      rw [sub_add_eq_add_sub, zpow_sub₀ two_ne_zero]
      norm_cast
    rw [hsplit, lt_div_iff₀ (by positivity)]
    calc q * 2 ^ q.den.log2 ≤ q * q.den := by gcongr
      _ < 2 ^ (q.num.natAbs.log2 + 1) := habs ▸ hnum
  -- here the estimate is the larger of the two candidates, by the test that failed
  · next h =>
    rw [sub_add_cancel, ← twoPow_eq_zpow]
    exact not_le.mp h

/-- A larger rational lies in the same binade or in a later one. -/
theorem binade_mono {p q : ℚ} (hp : 0 < p) (h : p ≤ q) : binade p ≤ binade q := by
  have hlow : (2 : ℚ) ^ binade p ≤ p := twoPow_eq_zpow (binade p) ▸ twoPow_binade_le hp
  have hhigh : q < 2 ^ (binade q + 1) := lt_twoPow_binade_add_one (hp.trans_le h)
  -- the smaller one's power of two lies below the next binade of the larger one
  have hlt : (2 : ℚ) ^ binade p < 2 ^ (binade q + 1) := hlow.trans_lt (h.trans_lt hhigh)
  have := (zpow_lt_zpow_iff_right₀ one_lt_two).mp hlt
  omega

/-- A power of two is a multiple of every smaller one. -/
theorem exists_two_zpow_eq_mul {s e : ℤ} (h : s ≤ e) : ∃ k : ℤ, (2 : ℚ) ^ e = k * 2 ^ s := by
  refine ⟨2 ^ (e - s).toNat, ?_⟩
  have hpow : ((2 : ℤ) ^ (e - s).toNat : ℤ) = (2 : ℚ) ^ (e - s) := by
    rw [← Int.toNat_of_nonneg (sub_nonneg.mpr h), zpow_natCast]
    push_cast
    rfl
  rw [hpow, ← zpow_add₀ two_ne_zero, sub_add_cancel]

namespace Binary64

/-! ## The nearest number -/

/-- The nearest number is the nearest multiple of the spacing. -/
theorem nearest_eq (q : ℚ) : nearest q = roundEven (q / 2 ^ spacing q) * 2 ^ spacing q := by
  rw [nearest, twoPow_eq_zpow]

/-- The spacing does not depend on the sign. -/
private theorem spacing_neg (q : ℚ) : spacing (-q) = spacing q := by
  rw [spacing, spacing, magnitude_eq_abs, magnitude_eq_abs, abs_neg]

/-- Rounding to the nearest number is symmetric about zero. -/
theorem nearest_neg (q : ℚ) : nearest (-q) = -nearest q := by
  rw [nearest_eq, nearest_eq, spacing_neg, neg_div, roundEven_neg]
  push_cast
  ring

/-- Zero is a number of the format. -/
theorem nearest_zero : nearest 0 = 0 := by
  rw [nearest_eq, zero_div, ← Int.cast_zero, roundEven_intCast, Int.cast_zero, zero_mul]

/-- Rounding does not cross a power of two that is a multiple of the spacing. -/
private theorem nearest_le_two_zpow {q : ℚ} {e : ℤ} (he : spacing q ≤ e) (h : q ≤ 2 ^ e) :
    nearest q ≤ 2 ^ e := by
  obtain ⟨k, hk⟩ := exists_two_zpow_eq_mul he
  have hunit : (0 : ℚ) < 2 ^ spacing q := by positivity
  -- in units of the spacing the power of two is an integer, and rounding keeps the order
  have hround : roundEven (q / 2 ^ spacing q) ≤ k := by
    rw [← roundEven_intCast k]
    exact roundEven_mono ((div_le_iff₀ hunit).mpr (hk ▸ h))
  rw [nearest_eq, hk]
  exact mul_le_mul_of_nonneg_right (Int.cast_le.mpr hround) hunit.le

/-- Rounding does not cross a power of two downwards either. -/
private theorem two_zpow_le_nearest {q : ℚ} {e : ℤ} (he : spacing q ≤ e) (h : 2 ^ e ≤ q) :
    2 ^ e ≤ nearest q := by
  obtain ⟨k, hk⟩ := exists_two_zpow_eq_mul he
  have hunit : (0 : ℚ) < 2 ^ spacing q := by positivity
  have hround : k ≤ roundEven (q / 2 ^ spacing q) := by
    rw [← roundEven_intCast k]
    exact roundEven_mono ((le_div_iff₀ hunit).mpr (hk ▸ h))
  rw [nearest_eq, hk]
  exact mul_le_mul_of_nonneg_right (Int.cast_le.mpr hround) hunit.le

/-- Among positive rationals, rounding to the nearest number keeps the order. -/
theorem nearest_mono_of_pos {p q : ℚ} (hp : 0 < p) (h : p ≤ q) : nearest p ≤ nearest q := by
  have hbinade := binade_mono hp h
  -- for positive rationals the spacing is given by the binade, and grows with it
  have hspacing : ∀ r : ℚ, 0 < r → spacing r = max (binade r - 52) (-1074) := by
    intro r hr
    rw [spacing, magnitude_eq_abs, abs_of_pos hr]
  have hsp := hspacing p hp
  have hsq := hspacing q (hp.trans_le h)
  -- with one spacing both are rounded on the same grid
  by_cases heq : spacing p = spacing q
  · have hunit : (0 : ℚ) < 2 ^ spacing q := by positivity
    rw [nearest_eq, nearest_eq, heq]
    refine mul_le_mul_of_nonneg_right (Int.cast_le.mpr (roundEven_mono ?_)) hunit.le
    exact div_le_div_of_nonneg_right h hunit.le
  · -- the binade of the larger one begins between the two
    have hlow : p ≤ 2 ^ binade q :=
      calc p ≤ 2 ^ (binade p + 1) := (lt_twoPow_binade_add_one hp).le
        _ ≤ 2 ^ binade q := zpow_le_zpow_right₀ one_le_two (by omega)
    have hhigh : 2 ^ binade q ≤ q :=
      twoPow_eq_zpow (binade q) ▸ twoPow_binade_le (hp.trans_le h)
    exact (nearest_le_two_zpow (by omega) hlow).trans (two_zpow_le_nearest (by omega) hhigh)

/-- Rounding does not make a rational negative. -/
theorem nearest_nonneg {q : ℚ} (h : 0 ≤ q) : 0 ≤ nearest q := by
  have hround : roundEven 0 ≤ roundEven (q / 2 ^ spacing q) := roundEven_mono (by positivity)
  have hzero : roundEven 0 = 0 := roundEven_intCast 0
  rw [hzero] at hround
  rw [nearest_eq]
  exact mul_nonneg (by exact_mod_cast hround) (by positivity)

/-- Rounding to the nearest number keeps the order. -/
theorem nearest_mono {p q : ℚ} (h : p ≤ q) : nearest p ≤ nearest q := by
  rcases lt_trichotomy p 0 with hp | rfl | hp
  · rcases lt_or_ge q 0 with hq | hq
    · -- two negative numbers, seen from the other side
      have := nearest_mono_of_pos (neg_pos.mpr hq) (neg_le_neg h)
      rw [nearest_neg, nearest_neg] at this
      exact neg_le_neg_iff.mp this
    -- zero lies between the two
    · have hneg := nearest_nonneg (neg_nonneg.mpr hp.le)
      rw [nearest_neg] at hneg
      exact (neg_nonneg.mp hneg).trans (nearest_nonneg hq)
  · rw [nearest_zero]
    exact nearest_nonneg h
  · exact nearest_mono_of_pos hp h

/-- A rational stands for the nearest number, or for an infinity if that one is out of range. -/
theorem ofRat_eq (q : ℚ) :
    ofRat q = if 2 ^ 1024 ≤ |nearest q| then .infinite (q < 0) else .finite (nearest q) := by
  have hlarge : twoPow 1024 = 2 ^ 1024 := twoPow_eq_zpow 1024
  rw [ofRat]
  split
  -- zero is set apart in the definition, and the general case gives the same
  · next h =>
    have hpos : (0 : ℚ) < 2 ^ 1024 := by positivity
    rw [h, nearest_zero, abs_zero, if_neg hpos.not_ge]
  · dsimp only
    rw [magnitude_eq_abs, hlarge]

/-! ## The range of the numbers -/

/-- Rounding and taking the absolute value can be exchanged. -/
private theorem abs_nearest (q : ℚ) : |nearest q| = nearest |q| := by
  rcases le_total 0 q with h | h
  · rw [abs_of_nonneg h, abs_of_nonneg (nearest_nonneg h)]
  · have hneg := nearest_nonneg (neg_nonneg.mpr h)
    rw [nearest_neg] at hneg
    rw [abs_of_nonpos h, nearest_neg, abs_of_nonpos (neg_nonneg.mp hneg)]

/-- The numbers below the range of the format are at most 2^971 apart. -/
theorem spacing_le {q : ℚ} (hq : 0 < q) (h : q < 2 ^ 1024) : spacing q ≤ 971 := by
  have hbinade : (2 : ℚ) ^ binade q < 2 ^ (1024 : ℤ) :=
    (twoPow_eq_zpow (binade q) ▸ twoPow_binade_le hq).trans_lt h
  have := (zpow_lt_zpow_iff_right₀ one_lt_two).mp hbinade
  rw [spacing, magnitude_eq_abs, abs_of_pos hq]
  omega

/-- The halfway point between the largest number and the first one that is out of range is rounded
    to the latter, since its significand is even. -/
private theorem nearest_limit : nearest (2 ^ 1024 - 2 ^ 970) = 2 ^ 1024 := by
  have h : nearest (twoPow 1024 - twoPow 970) = twoPow 1024 := by decide +kernel
  rw [twoPow_eq_zpow, twoPow_eq_zpow] at h
  exact h

/-- Below the halfway point, a rational is rounded to a number in range. -/
private theorem nearest_lt_of_lt {q : ℚ} (hq : 0 ≤ q) (h : q < 2 ^ 1024 - 2 ^ 970) :
    nearest q < 2 ^ 1024 := by
  rcases hq.eq_or_lt with rfl | hpos
  · rw [nearest_zero]
    positivity
  · have hspacing : spacing q ≤ 970 + 1 :=
      spacing_le hpos (h.trans (sub_lt_self _ (by positivity)))
    -- the error is at most half of the largest spacing
    have herror : |nearest q - q| ≤ 2 ^ 970 :=
      calc |nearest q - q| ≤ 2 ^ spacing q / 2 := abs_nearest_sub_le_spacing q
        _ ≤ 2 ^ (970 + 1 : ℤ) / 2 :=
          div_le_div_of_nonneg_right (zpow_le_zpow_right₀ one_le_two hspacing) zero_le_two
        _ = 2 ^ 970 := by
          rw [zpow_add_one₀ two_ne_zero, mul_div_cancel_right₀ _ two_ne_zero, zpow_ofNat]
    have hhigh := (abs_le.mp herror).2
    -- the powers are too large to be computed with
    generalize (2 : ℚ) ^ 1024 = limit, (2 : ℚ) ^ 970 = half at *
    linarith

/-- The rationals that are out of range. -/
private theorem two_pow_le_abs_nearest_iff (q : ℚ) :
    2 ^ 1024 ≤ |nearest q| ↔ 2 ^ 1024 - 2 ^ 970 ≤ |q| := by
  rw [abs_nearest]
  constructor
  · intro h
    by_contra hlt
    exact (nearest_lt_of_lt (abs_nonneg q) (not_le.mp hlt)).not_ge h
  · intro h
    -- the halfway point itself is already rounded out of range
    rw [← nearest_limit]
    exact nearest_mono h

/-! ## The order of the numbers -/

/-- The order of the numbers: an infinity lies beyond every finite number, and what is not a number
    is in no relation to anything. -/
def Le : Binary64 → Binary64 → Prop
  | .finite a, .finite b => a ≤ b
  | .finite _, .infinite negative => negative = false
  | .infinite negative, .finite _ => negative = true
  | .infinite negative, .infinite negative' => negative' = true → negative = true
  | .nan, _ | _, .nan => False

instance : LE Binary64 := ⟨Le⟩

/-- Finite numbers are ordered as rationals. -/
@[simp] theorem finite_le_finite {a b : ℚ} : finite a ≤ finite b ↔ a ≤ b := Iff.rfl

/-- A finite number lies below positive infinity only. -/
@[simp] theorem finite_le_infinite {a : ℚ} {negative : Bool} :
    finite a ≤ infinite negative ↔ negative = false := Iff.rfl

/-- Only negative infinity lies below a finite number. -/
@[simp] theorem infinite_le_finite {a : ℚ} {negative : Bool} :
    infinite negative ≤ finite a ↔ negative = true := Iff.rfl

/-- Positive infinity does not lie below negative infinity. -/
@[simp] theorem infinite_le_infinite {negative negative' : Bool} :
    infinite negative ≤ infinite negative' ↔ (negative' = true → negative = true) := Iff.rfl

/-- What is not a number lies below nothing. -/
@[simp] theorem not_nan_le (x : Binary64) : ¬nan ≤ x := by
  cases x <;> exact id

/-- Nothing lies below what is not a number. -/
@[simp] theorem not_le_nan (x : Binary64) : ¬x ≤ nan := by
  cases x <;> exact id

/-- The order of the numbers is transitive. -/
protected theorem le_trans {x y z : Binary64} (hxy : x ≤ y) (hyz : y ≤ z) : x ≤ z := by
  -- only three finite numbers need the order of the rationals
  cases x <;> cases y <;> cases z <;> simp_all
  exact Rat.le_trans hxy hyz

/-- What lies between finite numbers is finite. -/
theorem exists_eq_finite {a b : ℚ} {x : Binary64} (hlow : finite a ≤ x) (hhigh : x ≤ finite b) :
    ∃ v, x = finite v ∧ a ≤ v ∧ v ≤ b := by
  -- an infinity is ruled out by one of the two bounds
  cases x with
  | nan => simp at hlow
  | infinite negative => simp_all
  | finite v => exact ⟨v, rfl, hlow, hhigh⟩

/-- Rounding keeps the order, also where it leaves the range. -/
theorem ofRat_mono {p q : ℚ} (h : p ≤ q) : ofRat p ≤ ofRat q := by
  have hmono := nearest_mono h
  rw [ofRat_eq, ofRat_eq]
  -- each of the two may be in range or not; if both are, rounding keeps the order
  split_ifs with hp hq hq
  · simp only [infinite_le_infinite, decide_eq_true_eq]
    exact h.trans_lt
  · simp only [infinite_le_finite, decide_eq_true_eq]
    by_contra hneg
    have hnonneg := nearest_nonneg (not_lt.mp hneg)
    rw [abs_of_nonneg hnonneg] at hp
    rw [abs_of_nonneg (hnonneg.trans hmono)] at hq
    exact hq (hp.trans hmono)
  · simp only [finite_le_infinite, decide_eq_false_iff_not]
    intro hneg
    have hnonpos : nearest q ≤ 0 := nearest_zero ▸ nearest_mono hneg.le
    rw [abs_of_nonpos hnonpos] at hq
    rw [abs_of_nonpos (hmono.trans hnonpos)] at hp
    exact hp (hq.trans (neg_le_neg hmono))
  · exact hmono

/-- A rational always has a number, if only an infinite one. -/
theorem ofRat_le_infinite (q : ℚ) : ofRat q ≤ infinite false ∧ infinite true ≤ ofRat q := by
  rw [ofRat_eq]
  split <;> simp

/-! ## Sums and products -/

/-- The sum of finite numbers is their exact sum, rounded. -/
theorem finite_add_finite (a b : ℚ) : finite a + finite b = ofRat (a + b) := rfl

/-- The product of finite numbers is their exact product, rounded. -/
theorem finite_mul_finite (a b : ℚ) : finite a * finite b = ofRat (a * b) := rfl

/-- An infinity times a positive number is the same infinity. -/
private theorem infinite_mul_finite {c : ℚ} (hc : 0 < c) (negative : Bool) :
    infinite negative * finite c = infinite negative := by
  have hmul : infinite negative * finite c =
      if c = 0 then nan else infinite (negative != decide (c < 0)) := rfl
  rw [hmul, if_neg hc.ne']
  simp [hc.not_gt]

/-- A number that is not negative is a rational or positive infinity. -/
private theorem nonneg_cases {x : Binary64} (h : finite 0 ≤ x) :
    (∃ a, 0 ≤ a ∧ x = finite a) ∨ x = infinite false := by
  cases x with
  | nan => simp at h
  | infinite negative => exact .inr (congrArg infinite h)
  | finite a => exact .inl ⟨a, h, rfl⟩

/-- Positive infinity lies above every number that is not negative. -/
private theorem le_infinite_of_nonneg {x : Binary64} (h : finite 0 ≤ x) : x ≤ infinite false := by
  rcases nonneg_cases h with ⟨a, -, rfl⟩ | rfl <;> simp

/-- The sum of numbers that are not negative is infinite if one of them is. -/
private theorem add_eq_infinite {x y : Binary64} (hx : finite 0 ≤ x) (hy : finite 0 ≤ y)
    (h : x = infinite false ∨ y = infinite false) : x + y = infinite false := by
  rcases nonneg_cases hx with ⟨a, -, rfl⟩ | rfl
  · obtain rfl : y = infinite false := h.resolve_left (by simp)
    rfl
  · rcases nonneg_cases hy with ⟨b, -, rfl⟩ | rfl <;> rfl

/-- The sum of numbers that are not negative is not negative. -/
private theorem zero_le_add {x y : Binary64} (hx : finite 0 ≤ x) (hy : finite 0 ≤ y) :
    finite 0 ≤ x + y := by
  by_cases h : x = infinite false ∨ y = infinite false
  · rw [add_eq_infinite hx hy h]
    simp
  · obtain ⟨hx', hy'⟩ := not_or.mp h
    obtain ⟨a, ha, rfl⟩ := (nonneg_cases hx).resolve_right hx'
    obtain ⟨b, hb, rfl⟩ := (nonneg_cases hy).resolve_right hy'
    have hzero : ofRat 0 = finite 0 := if_pos rfl
    rw [finite_add_finite, ← hzero]
    exact ofRat_mono (add_nonneg ha hb)

/-- The sum of larger numbers is not smaller. -/
theorem add_mono {x y x' y' : Binary64} (hx : finite 0 ≤ x) (hxy : x ≤ y) (hx' : finite 0 ≤ x')
    (hxy' : x' ≤ y') : x + x' ≤ y + y' := by
  have hy := Binary64.le_trans hx hxy
  have hy' := Binary64.le_trans hx' hxy'
  by_cases h : y = infinite false ∨ y' = infinite false
  · rw [add_eq_infinite hy hy' h]
    exact le_infinite_of_nonneg (zero_le_add hx hx')
  · obtain ⟨hfinite, hfinite'⟩ := not_or.mp h
    obtain ⟨b, -, rfl⟩ := (nonneg_cases hy).resolve_right hfinite
    obtain ⟨b', -, rfl⟩ := (nonneg_cases hy').resolve_right hfinite'
    -- what lies below finite numbers is finite too
    obtain ⟨a, rfl, -, hab⟩ := exists_eq_finite hx hxy
    obtain ⟨a', rfl, -, hab'⟩ := exists_eq_finite hx' hxy'
    rw [finite_add_finite, finite_add_finite]
    exact ofRat_mono (add_le_add hab hab')

/-- An operation that keeps infinities and rounds a function of finite numbers keeps the order if
    the function does. -/
theorem le_of_rounded {f : Binary64 → Binary64} {g : ℚ → ℚ} (hg : Monotone g)
    (hfinite : ∀ a, f (finite a) = ofRat (g a))
    (hinfinite : ∀ negative, f (infinite negative) = infinite negative) {x y : Binary64}
    (h : x ≤ y) : f x ≤ f y := by
  -- what is not a number is in no relation; an infinite result bounds every rounded one
  cases x with
  | nan => simp at h
  | infinite negative =>
    cases y with
    | nan => simp at h
    | infinite negative' =>
      rw [hinfinite, hinfinite]
      exact h
    | finite b =>
      obtain rfl : negative = true := h
      rw [hinfinite, hfinite]
      exact (ofRat_le_infinite _).2
  | finite a =>
    cases y with
    | nan => simp at h
    | infinite negative =>
      obtain rfl : negative = false := h
      rw [hinfinite, hfinite]
      exact (ofRat_le_infinite _).1
    | finite b =>
      rw [hfinite, hfinite]
      exact ofRat_mono (hg h)

/-- The product of a larger number with a positive one is not smaller. -/
theorem mul_mono {x y : Binary64} (h : x ≤ y) {c : ℚ} (hc : 0 < c) :
    x * finite c ≤ y * finite c :=
  le_of_rounded (f := (· * finite c)) (fun _ _ hab => mul_le_mul_of_nonneg_right hab hc.le)
    (fun a => finite_mul_finite a c) (infinite_mul_finite hc) h

/-- Negation turns the order around. -/
theorem neg_antitone {x y : Binary64} (h : x ≤ y) : y.neg ≤ x.neg := by
  rcases x with _ | (_ | _) | a <;> rcases y with _ | (_ | _) | b <;> simp_all [neg]

/-- A difference is not larger if more is taken away. -/
theorem finite_sub_antitone (a : ℚ) {x y : Binary64} (h : x ≤ y) : finite a - y ≤ finite a - x :=
  le_of_rounded (f := (finite a + ·)) (fun _ _ hbc => by simpa using hbc)
    (finite_add_finite a) (fun _ => rfl) (neg_antitone h)

/-- A sum of larger numbers from left to right is not smaller. -/
theorem foldl_add_mono {xs ys : List Binary64}
    (h : List.Forall₂ (fun x y => finite 0 ≤ x ∧ x ≤ y) xs ys) {acc acc' : Binary64}
    (hacc : finite 0 ≤ acc) (hle : acc ≤ acc') :
    xs.foldl (· + ·) acc ≤ ys.foldl (· + ·) acc' := by
  -- by induction on the terms: the sum so far stays nonnegative and not larger
  induction h generalizing acc acc' with
  | nil => exact hle
  | cons hxy _ ih => exact ih (zero_le_add hacc hxy.1) (add_mono hacc hle hxy.1 hxy.2)

/-! ## Integers -/

/-- Exactly the finite numbers have an integer below them. -/
theorem floor_eq_ok_iff {x : Binary64} {n : ℤ} :
    x.floor = .ok n ↔ ∃ v, x = finite v ∧ ⌊v⌋ = n := by
  cases x with
  | nan => simp [floor, value, Except.map]
  | infinite negative => simp [floor, value, Except.map]
  | finite v =>
    have hfloor : (finite v).floor = .ok ⌊v⌋ := rfl
    simp [hfloor]

/-- The integer below a number lies between the integers below smaller and larger ones. -/
theorem exists_floor_eq_ok {low x high : Binary64} {m n : ℤ} (hlow : low ≤ x) (hhigh : x ≤ high)
    (hm : low.floor = .ok m) (hn : high.floor = .ok n) :
    ∃ k, x.floor = .ok k ∧ m ≤ k ∧ k ≤ n := by
  obtain ⟨a, rfl, rfl⟩ := floor_eq_ok_iff.mp hm
  obtain ⟨b, rfl, rfl⟩ := floor_eq_ok_iff.mp hn
  obtain ⟨v, rfl, hav, hvb⟩ := exists_eq_finite hlow hhigh
  exact ⟨⌊v⌋, floor_eq_ok_iff.mpr ⟨v, rfl, rfl⟩, Int.floor_mono hav, Int.floor_mono hvb⟩

/-! ## Quotients of integers -/

/-- Whether a quotient of integers is out of range: not below the largest number by half of its
    spacing. -/
def Overflows (n : ℤ) (d : ℕ) : Prop :=
  (2 ^ 1024 - 2 ^ 970) * d ≤ |(n : ℚ)|

/-- A quotient overflows exactly if the number nearest to it is out of range. -/
theorem overflows_iff {n : ℤ} {d : ℕ} (hd : 0 < d) :
    Overflows n d ↔ 2 ^ 1024 ≤ |nearest (mkRat n d)| := by
  have hpos : (0 : ℚ) < d := Nat.cast_pos.mpr hd
  have habs : |mkRat n d| = |(n : ℚ)| / d := by
    rw [Rat.mkRat_eq_div, abs_div, Nat.abs_cast]
  rw [two_pow_le_abs_nearest_iff, habs, le_div_iff₀ hpos, Overflows]

/-- A quotient that overflows is an error. -/
theorem quotient_of_overflows {n : ℤ} {d : ℕ} (hd : 0 < d) (h : Overflows n d) :
    quotient n d = .error .quotientTooLarge := by
  have hlarge := (overflows_iff hd).mp h
  rw [quotient, ofRat_eq, if_pos hlarge]

/-- A quotient that does not overflow is a finite number. -/
theorem exists_quotient_eq_ok {n : ℤ} {d : ℕ} (hd : 0 < d) (h : ¬Overflows n d) :
    ∃ v, quotient n d = .ok (finite v) := by
  have hsmall := (overflows_iff hd).not.mp h
  exact ⟨nearest (mkRat n d), by rw [quotient, ofRat_eq, if_neg hsmall]⟩

end Binary64

end SheetAudit.Number

import Mathlib.Algebra.Order.Group.MinMax
import SheetAudit.Proofs.NumberError
import SheetAudit.Issue.Detection
import SheetAudit.Proofs.ScoreOrder

/-!
# The accuracy of the scores

The scores are computed in binary floating point, and some of their steps are not exact.  A share of
faults between 0 and 1 goes through a few operations on small numbers, whose errors add up to much
less than 10^-9.  For any other share the score is 0 or 100 whatever the errors are, since the
operations keep the order.  So each score is that of exact arithmetic, rounded, unless the exact
value lies next to a tie.

## Key results

- `points_of_nonpos` / `points_of_one_le`: shares at which nothing or everything is lost
- `remaining_near` / `weightedSum_near`: the errors of the scores
- `roundHalfUp_of_near`: rounding away from ties
- `scores_eq_exact`: the scores in exact arithmetic
-/

namespace SheetAudit.Score

open Number Number.Binary64
open Stylesheet (Rule)

/-! ## Exact scores -/

/-- What is left of 100 points when `count` of `total` things are at fault, in exact arithmetic. -/
def exactPoints (count : Int) (total : Nat) (cost : ℚ) : ℚ :=
  max 0 (min 100 (100 - cost * count / total))

/-- Whether one half more than a rational is farther than 10^-9 from every integer. -/
def AwayFromTies (q : ℚ) : Prop :=
  ∀ n : ℤ, 1 / 10 ^ 9 < |q + 1 / 2 - n|

/-- Exact points lie between 0 and 100. -/
private theorem exactPoints_mem (count : Int) (total : Nat) (cost : ℚ) :
    0 ≤ exactPoints count total cost ∧ exactPoints count total cost ≤ 100 :=
  ⟨le_max_left _ _, max_le (by norm_num) (min_le_left _ _)⟩

/-- In exact arithmetic nothing is lost without a fault. -/
private theorem exactPoints_of_nonpos {count : Int} {total : Nat} {cost : ℚ} (hcost : 0 ≤ cost)
    (h : (count / total : ℚ) ≤ 0) : exactPoints count total cost = 100 := by
  have hlost : cost * (count / total) ≤ 0 := mul_nonpos_of_nonneg_of_nonpos hcost h
  rw [exactPoints, mul_div_assoc, min_eq_left (by linarith)]
  norm_num

/-- In exact arithmetic everything is lost if all things are at fault. -/
private theorem exactPoints_of_one_le {count : Int} {total : Nat} {cost : ℚ} (hcost : 100 ≤ cost)
    (h : (1 : ℚ) ≤ count / total) : exactPoints count total cost = 0 := by
  have hlost : 100 ≤ cost * (count / total) := by nlinarith
  rw [exactPoints, mul_div_assoc, max_eq_left]
  exact (min_le_right _ _).trans (by linarith)

/-! ## The error of one score -/

/-- Errors do not grow where a number is cut off. -/
private theorem near_clamp {ε q : ℚ} {x : Binary64} (h : Near ε q x) :
    Near ε (max 0 (min 100 q)) (clamp x) := by
  obtain ⟨v, rfl, hv⟩ := h
  refine ⟨_, clamp_finite v, ?_⟩
  calc |max 0 (min 100 v) - max 0 (min 100 q)|
      ≤ max |(0 : ℚ) - 0| |min 100 v - min 100 q| := abs_max_sub_max_le_max _ _ _ _
    _ = |min 100 v - min 100 q| := by simp
    _ ≤ max |(100 : ℚ) - 100| |v - q| := abs_min_sub_min_le_max _ _ _ _
    _ = |v - q| := by simp
    _ ≤ ε := hv

/-- Nothing is lost if there is no fault. -/
theorem points_of_nonpos {cost : ℚ} (hcost : 0 < cost) {share : Binary64} (h : share ≤ finite 0) :
    points cost share = finite 100 := by
  have hzero : points cost (finite 0) = finite 100 := by
    have hproduct : finite 0 * finite cost = finite 0 := by
      rw [finite_mul_finite, zero_mul]
      rfl
    rw [points, hproduct]
    decide +kernel
  -- a smaller share leaves no fewer points than none
  have hleast : finite 100 ≤ points cost share := hzero ▸ points_antitone hcost h
  obtain ⟨v, hv, hlow, hhigh⟩ := exists_eq_finite hleast (clamp_mem _).2
  rw [hv, le_antisymm hhigh hlow]

/-- Everything is lost if all things are at fault. -/
theorem points_of_one_le {cost : ℚ} (hcost : 100 ≤ cost) {share : Binary64} (h : finite 1 ≤ share) :
    points cost share = finite 0 := by
  have hround : ofRat 100 = finite 100 := by decide +kernel
  have hproduct : finite 100 ≤ finite 1 * finite cost := by
    rw [finite_mul_finite, one_mul, ← hround]
    exact ofRat_mono hcost
  have hlost : finite 100 ≤ share * finite cost :=
    Binary64.le_trans hproduct (mul_mono h (by linarith))
  have hzero : clamp (finite 100 - finite 100) = finite 0 := by decide +kernel
  -- a larger share leaves no more points than a whole one
  have hmost : points cost share ≤ finite 0 := hzero ▸ clamp_mono (finite_sub_antitone 100 hlost)
  obtain ⟨v, hv, hlow, hhigh⟩ := exists_eq_finite (clamp_mem _).1 hmost
  rw [points, hv, le_antisymm hhigh hlow]

/-- The error of the points for a share between 0 and 1: that of the share, which the cost may
    enlarge 500 times, and those of a product and a difference. -/
private theorem points_near {cost q : ℚ} (hcost : 0 ≤ cost ∧ cost ≤ 500) (hq : 0 ≤ q ∧ q ≤ 1)
    {share : Binary64} (h : Near roundingError q share) :
    Near (502 * roundingError) (max 0 (min 100 (100 - q * cost))) (points cost share) := by
  have hpos := roundingError_pos
  have hsmall : roundingError ≤ 1 / 10 ^ 12 := by norm_num [roundingError]
  have hscaled : roundingError * cost ≤ 500 * roundingError := by nlinarith
  have hlost : 0 ≤ q * cost ∧ q * cost ≤ 500 := ⟨mul_nonneg hq.1 hcost.1, by nlinarith⟩
  -- the error of the share, enlarged by the cost, and that of the product
  have hproduct : Near (501 * roundingError) (q * cost) (share * finite cost) := by
    refine (h.mul (near_finite cost) ?_).mono ?_
    · rw [abs_of_nonneg hq.1, abs_of_nonneg hcost.1]
      nlinarith
    · rw [abs_of_nonneg hcost.1]
      linarith
  refine near_clamp (((near_finite 100).sub hproduct ?_).mono ?_)
  · have : |100 - q * cost| ≤ 500 := abs_le.mpr ⟨by linarith, by linarith⟩
    linarith
  · linarith

/-- A number stands for a score between 0 and 100, up to the error of computing one. -/
structure NearScore (q : ℚ) (x : Binary64) : Prop where
  /-- The score is not below 0. -/
  nonneg : 0 ≤ q
  /-- It is not above 100. -/
  le_hundred : q ≤ 100
  /-- The number is near it. -/
  near : Near (502 * roundingError) q x

/-- The error of a score before it is rounded. -/
theorem remaining_near {count : Int} {total : Nat} {cost : ℚ} (hcost : 100 ≤ cost ∧ cost ≤ 500)
    {x : Binary64} (h : remaining count total cost = .ok x) :
    NearScore (exactPoints count total cost) x := by
  obtain ⟨share, hshare, rfl⟩ := remaining_eq_ok_iff.mp h
  obtain rfl := ofRat_of_quotient hshare
  have herror : 0 ≤ 502 * roundingError := mul_nonneg (by norm_num) roundingError_pos.le
  obtain ⟨hnonneg, hhundred⟩ := exactPoints_mem count total cost
  refine ⟨hnonneg, hhundred, ?_⟩
  -- a share that is not between 0 and 1 may be huge, and then only its order is known
  rcases le_total (count / total : ℚ) 0 with hlow | hlow
  · have hshare : ofRat (count / total) ≤ finite 0 := ofRat_mono hlow
    rw [points_of_nonpos (by linarith) hshare, exactPoints_of_nonpos (by linarith) hlow]
    exact (near_finite 100).mono herror
  rcases le_total (1 : ℚ) (count / total) with hhigh | hhigh
  · have hone : ofRat 1 = finite 1 := by decide +kernel
    have hshare : finite 1 ≤ ofRat (count / total) := hone ▸ ofRat_mono hhigh
    rw [points_of_one_le hcost.1 hshare, exactPoints_of_one_le hcost.1 hhigh]
    exact (near_finite 0).mono herror
  · -- the share itself is rounded too
    have hsize : |(count / total : ℚ)| ≤ 2 ^ 10 := by
      rw [abs_of_nonneg hlow]
      exact hhigh.trans (by norm_num)
    have hshare := near_ofRat_self hsize
    rw [exactPoints, mul_div_assoc, mul_comm cost]
    exact points_near ⟨by linarith, hcost.2⟩ ⟨hlow, hhigh⟩ hshare

/-- The score of a size is exact. -/
private theorem nearScore_ofSize (bytes : Int) :
    NearScore (ofSize bytes) (finite (ofSize bytes)) := by
  obtain ⟨hlow, hhigh⟩ := ofSize_mem bytes
  refine ⟨Int.cast_nonneg (by omega), by exact_mod_cast hhigh, (near_finite _).mono ?_⟩
  exact mul_nonneg (by norm_num) roundingError_pos.le

/-! ## The error of the weighted sum -/

/-- The error of a score times a weight: that of the score, that of the weight, which a score may
    enlarge 100 times, and that of the product. -/
private theorem weighted_near {q r : ℚ} {x : Binary64} (h : NearScore q x) (hr : 0 ≤ r ∧ r ≤ 1) :
    Near (604 * roundingError) (q * r) (x * ofRat r) ∧ |q * r| ≤ 100 := by
  obtain ⟨hq, hhundred, hx⟩ := h
  have hpos := roundingError_pos
  have hsmall : roundingError ≤ 1 / 10 ^ 12 := by norm_num [roundingError]
  -- the weight is rounded once
  have hweight : Near roundingError r (ofRat r) := by
    have hsize : |r| ≤ 2 ^ 10 := by
      rw [abs_of_nonneg hr.1]
      exact hr.2.trans (by norm_num)
    exact near_ofRat_self hsize
  constructor
  · refine (hx.mul hweight ?_).mono ?_
    · rw [abs_of_nonneg hq, abs_of_nonneg hr.1]
      nlinarith
    · rw [abs_of_nonneg hq, abs_of_nonneg hr.1]
      nlinarith
  · rw [abs_of_nonneg (mul_nonneg hq hr.1)]
    nlinarith

/-- The error of the weighted sum: those of its four terms, and of as many sums. -/
theorem weightedSum_near {a b c d : Binary64} {qa qb qc qd : ℚ} (ha : NearScore qa a)
    (hb : NearScore qb b) (hc : NearScore qc c) (hd : NearScore qd d) :
    Near (2420 * roundingError)
      (30 / 100 * qa + 25 / 100 * qb + 25 / 100 * qc + 20 / 100 * qd)
      (weightedSum [a, b, c, d]) := by
  -- each term has the error of its score and of its weight
  have hterms : List.Forall₂ (fun x q => Near (604 * roundingError) q x ∧ |q| ≤ 100)
      [a * ofRat (30 / 100), b * ofRat (25 / 100), c * ofRat (25 / 100), d * ofRat (20 / 100)]
      [qa * (30 / 100), qb * (25 / 100), qc * (25 / 100), qd * (20 / 100)] :=
    .cons (weighted_near ha (by norm_num)) (.cons (weighted_near hb (by norm_num))
      (.cons (weighted_near hc (by norm_num)) (.cons (weighted_near hd (by norm_num)) .nil)))
  have hsum := Near.foldl_add hterms (near_finite 0) (by norm_num [roundingError])
  have hexact : 30 / 100 * qa + 25 / 100 * qb + 25 / 100 * qc + 20 / 100 * qd =
      0 + [qa * (30 / 100), qb * (25 / 100), qc * (25 / 100), qd * (20 / 100)].sum := by
    simp only [List.sum_cons, List.sum_nil]
    ring
  rw [hexact]
  refine hsum.mono (le_of_eq ?_)
  rw [List.length_cons, List.length_cons, List.length_cons, List.length_singleton]
  push_cast
  ring

/-! ## Rounding -/

/-- A score that is close to a rational away from ties is rounded as the rational is. -/
theorem roundHalfUp_of_near {q : ℚ} (hq : 0 ≤ q ∧ q ≤ 100) {x : Binary64}
    (h : Near (2420 * roundingError) q x) (haway : AwayFromTies q) :
    roundHalfUp x = .ok ⌊q + 1 / 2⌋ := by
  -- the sum with a half is small enough for the error of one operation
  have hsize : |q + 1 / 2| + 2420 * roundingError + 0 ≤ 2 ^ 10 := by
    rw [abs_of_nonneg (by linarith)]
    norm_num [roundingError]
    linarith
  refine (h.add (near_finite (1 / 2)) hsize).floor_eq fun n => lt_trans ?_ (haway n)
  norm_num [roundingError]

/-- A score away from ties is rounded as the exact one is. -/
theorem NearScore.roundHalfUp_eq {q : ℚ} {x : Binary64} (h : NearScore q x)
    (haway : AwayFromTies q) : roundHalfUp x = .ok ⌊q + 1 / 2⌋ := by
  have hwiden : 502 * roundingError ≤ 2420 * roundingError :=
    mul_le_mul_of_nonneg_right (by norm_num) roundingError_pos.le
  exact roundHalfUp_of_near ⟨h.nonneg, h.le_hundred⟩ (h.near.mono hwiden) haway

/-- Integers are away from ties. -/
theorem awayFromTies_intCast (n : ℤ) : AwayFromTies n := by
  intro m
  -- twice the distance to an integer is an odd number
  have hone : (1 : ℚ) ≤ (|2 * (n - m) + 1| : ℤ) := by
    exact_mod_cast Int.one_le_abs (by omega)
  have htwice : (n : ℚ) + 1 / 2 - m = (2 * (n - m) + 1 : ℤ) / 2 := by
    push_cast
    ring
  rw [htwice, abs_div, abs_two, ← Int.cast_abs]
  linarith

/-- What lies well between two ties is away from all of them. -/
theorem awayFromTies_of_between {q : ℚ} {k : ℤ} (hlow : k + 1 / 10 ^ 9 < q + 1 / 2)
    (hhigh : q + 1 / 2 < k + 1 - 1 / 10 ^ 9) : AwayFromTies q := by
  intro n
  -- an integer is at most `k`, or at least the next one
  rcases le_or_gt n k with hn | hn
  · have hn' : (n : ℚ) ≤ k := Int.cast_le.mpr hn
    exact lt_abs.mpr (.inl (by linarith))
  · have hn' : (k : ℚ) + 1 ≤ n := by exact_mod_cast hn
    exact lt_abs.mpr (.inr (by linarith))

/-! ## The scores of a list of rules -/

/-- The scores of a list of rules are those of exact arithmetic, rounded with halves upward,
    wherever these are away from ties. -/
theorem scores_eq_exact (rules : List Rule) (issues : List Issue) (bytes : Int) (s : Scores)
    (h : scores rules issues bytes = .ok s) :
    let specificity := exactPoints (countOf .specificity issues) (max rules.length 1) 200
    let duplicates := exactPoints (repeats issues) (max (declarationCount rules) 1) 300
    let important := exactPoints (countOf .important issues) (max (declarationCount rules) 1) 500
    let overall := 30 / 100 * specificity + 25 / 100 * duplicates + 25 / 100 * important +
      20 / 100 * ofSize bytes
    (AwayFromTies overall → s.overall = ⌊overall + 1 / 2⌋) ∧
    (AwayFromTies specificity → s.specificity = ⌊specificity + 1 / 2⌋) ∧
    (AwayFromTies duplicates → s.duplicates = ⌊duplicates + 1 / 2⌋) ∧
    (AwayFromTies important → s.important = ⌊important + 1 / 2⌋) ∧
    s.fileSize = ofSize bytes := by
  intro specificity duplicates important overall
  obtain ⟨a, b, c, ha, hb, hc, hs⟩ := scores_eq_ok_iff.mp h
  have hspecificity : NearScore specificity a := remaining_near (by norm_num) ha
  have hduplicates : NearScore duplicates b := remaining_near (by norm_num) hb
  have himportant : NearScore important c := remaining_near (by norm_num) hc
  have hsize : NearScore (ofSize bytes) (finite (ofSize bytes)) := nearScore_ofSize bytes
  refine ⟨fun haway => ?_, fun haway => ?_, fun haway => ?_, fun haway => ?_, ?_⟩
  -- the exact sum is a mean of scores, so it lies in their range
  · have hrange : 0 ≤ overall ∧ overall ≤ 100 := by
      obtain ⟨hsl, hsh, -⟩ := hspecificity
      obtain ⟨hdl, hdh, -⟩ := hduplicates
      obtain ⟨hil, hih, -⟩ := himportant
      obtain ⟨hfl, hfh, -⟩ := hsize
      constructor <;> simp only [overall] <;> linarith
    have hsum := weightedSum_near hspecificity hduplicates himportant hsize
    exact Except.ok.inj (hs.overall_eq.symm.trans (roundHalfUp_of_near hrange hsum haway))
  · exact Except.ok.inj (hs.specificity_eq.symm.trans (hspecificity.roundHalfUp_eq haway))
  · exact Except.ok.inj (hs.duplicates_eq.symm.trans (hduplicates.roundHalfUp_eq haway))
  · exact Except.ok.inj (hs.important_eq.symm.trans (himportant.roundHalfUp_eq haway))
  · -- the score of a size is an integer already
    have hround := hs.fileSize_eq.symm.trans (hsize.roundHalfUp_eq (awayFromTies_intCast _))
    rw [Except.ok.inj hround, Int.floor_intCast_add]
    norm_num

/-- Three rules with seven declarations and an issue of each kind, whose scores have no finite
    binary form. -/
theorem scores_eq_exact_sevenths :
    let rules : List Rule := [⟨"#a #b", ["p:q", "p:q", "p:q"], 1, "a.css"⟩,
      ⟨"a", ["r:s !important", "t:u"], 2, "a.css"⟩, ⟨"b", ["v:w", "x:y"], 3, "a.css"⟩]
    scores rules (detectIssues rules) 12000 = .ok ⟨38, 33, 14, 29, 85⟩ ∧
      (AwayFromTies (264 / 7) ∧ (38 : ℤ) = ⌊(264 / 7 : ℚ) + 1 / 2⌋) ∧
      (AwayFromTies (100 / 3) ∧ (33 : ℤ) = ⌊(100 / 3 : ℚ) + 1 / 2⌋) := by
  intro rules
  have h : scores rules (detectIssues rules) 12000 = .ok ⟨38, 33, 14, 29, 85⟩ := by
    decide +kernel
  -- the exact parts are computed; that the scores are their roundings is the theorem
  have hspecificity : exactPoints (countOf .specificity (detectIssues rules))
      (max rules.length 1) 200 = 100 / 3 := by decide +kernel
  have hduplicates : exactPoints (repeats (detectIssues rules))
      (max (declarationCount rules) 1) 300 = 100 / 7 := by decide +kernel
  have himportant : exactPoints (countOf .important (detectIssues rules))
      (max (declarationCount rules) 1) 500 = 200 / 7 := by decide +kernel
  have hsize : ofSize 12000 = 85 := by decide
  have hoverall : AwayFromTies (264 / 7) :=
    awayFromTies_of_between (k := 38) (by norm_num) (by norm_num)
  have hthird : AwayFromTies (100 / 3) :=
    awayFromTies_of_between (k := 33) (by norm_num) (by norm_num)
  have hsum : 30 / 100 * (100 / 3) + 25 / 100 * (100 / 7) + 25 / 100 * (200 / 7) +
      20 / 100 * ((85 : ℤ) : ℚ) = 264 / 7 := by norm_num
  have hexact := scores_eq_exact rules (detectIssues rules) 12000 _ h
  simp only [hspecificity, hduplicates, himportant, hsize, hsum] at hexact
  exact ⟨h, ⟨hoverall, hexact.1 hoverall⟩, hthird, hexact.2.1 hthird⟩

end SheetAudit.Score

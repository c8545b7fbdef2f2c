import SheetAudit.Proofs.NumberOrder
import SheetAudit.Score

/-!
# The range of the scores

Counts of issues may be any integers, and two of the weights are not exact, so that the scores are
not those of the real numbers.  But every step of the computation keeps the order of its operands.
So the weighted sum lies between the sums for the smallest and the largest scores, which can be
computed.

## Key results

- `clamp_mem` / `ofSize_mem`: the range of the scores before they are rounded
- `weightedSum_mono`: better scores have no smaller sum
- `exists_scores_eq_ok_of_remaining`: what the scores are computed from, and their range
- `scores_inRange`: the scores are in their range, or a quotient is beyond the numbers
-/

namespace SheetAudit

open Number Number.Binary64 Score
open Stylesheet (Rule)

/-- Two steps succeed together if the first does, and the second with its result. -/
theorem bind_eq_ok_iff {ε α β : Type} {x : Except ε α} {f : α → Except ε β} {b : β} :
    (x >>= f) = .ok b ↔ ∃ a, x = .ok a ∧ f a = .ok b := by
  cases x <;> simp [bind, Except.bind]

/-- Whether every score is between 0 and 100, and the overall score at least 6. -/
structure Scores.InRange (s : Scores) : Prop where
  /-- The overall score is a percentage, and the size alone adds at least 6 to it. -/
  overall_mem : 6 ≤ s.overall ∧ s.overall ≤ 100
  /-- The score for specificity is a percentage. -/
  specificity_mem : 0 ≤ s.specificity ∧ s.specificity ≤ 100
  /-- The score for repeated declarations is a percentage. -/
  duplicates_mem : 0 ≤ s.duplicates ∧ s.duplicates ≤ 100
  /-- The score for forced declarations is a percentage. -/
  important_mem : 0 ≤ s.important ∧ s.important ≤ 100
  /-- The score for the size is a percentage. -/
  fileSize_mem : 0 ≤ s.fileSize ∧ s.fileSize ≤ 100

namespace Score

/-! ## Scores before they are rounded -/

/-- Whatever is clamped lies between 0 and 100, also what is not a number. -/
theorem clamp_mem (x : Binary64) : finite 0 ≤ clamp x ∧ clamp x ≤ finite 100 := by
  cases x with
  | nan => simp [clamp, lt]
  | infinite negative => cases negative <;> simp [clamp, lt]
  | finite v =>
    by_cases hv : v < 100
    · by_cases hpos : 0 < v
      · simp [clamp, lt, hv, hpos, hpos.le, hv.le]
      · simp [clamp, lt, hv, hpos]
    · simp [clamp, lt, hv]

/-- What is left of 100 points lies between 0 and 100. -/
theorem remaining_mem {count : Int} {total : Nat} {cost : Rat} {x : Binary64}
    (h : remaining count total cost = .ok x) : finite 0 ≤ x ∧ x ≤ finite 100 := by
  obtain ⟨share, -, hx⟩ := bind_eq_ok_iff.mp h
  cases hx
  exact clamp_mem _

/-- The score of a size lies between 30 and 100. -/
theorem ofSize_mem (bytes : Int) : 30 ≤ ofSize bytes ∧ ofSize bytes ≤ 100 := by
  unfold ofSize
  split
  · next limit score h =>
    -- the scores of the table are all in this range
    have hsteps : ∀ step ∈ sizeSteps, 30 ≤ step.2 ∧ step.2 ≤ 100 := by decide
    exact hsteps _ (List.mem_of_find?_eq_some h)
  · decide

/-! ## The weighted sum -/

/-- The weights are positive numbers. -/
theorem weights_pos : ∀ w ∈ weights, ∃ c, 0 < c ∧ w = finite c := by
  -- two of the weights are not exact, so all are evaluated
  have hweights : weights = [finite (5404319552844595 / 18014398509481984), finite (1 / 4),
      finite (1 / 4), finite (3602879701896397 / 18014398509481984)] := by
    decide +kernel
  rw [hweights]
  simp

/-- Numbers that are not negative, each next to one that is not smaller. -/
abbrev Dominated (xs ys : List Binary64) : Prop :=
  List.Forall₂ (fun x y => finite 0 ≤ x ∧ x ≤ y) xs ys

/-- Positive weights keep the order of the scores. -/
private theorem dominated_zipWith {xs ys ws : List Binary64} (h : Dominated xs ys)
    (hws : ∀ w ∈ ws, ∃ c, 0 < c ∧ w = finite c) :
    Dominated (List.zipWith (· * ·) xs ws) (List.zipWith (· * ·) ys ws) := by
  -- by induction on the scores, each with its weight
  induction h generalizing ws with
  | nil => exact .nil
  | cons hxy _ ih =>
    cases ws with
    | nil => exact .nil
    | cons w ws =>
      obtain ⟨⟨c, hc, rfl⟩, hrest⟩ := List.forall_mem_cons.mp hws
      have hzero : finite 0 * finite c = finite 0 := by
        rw [finite_mul_finite, zero_mul]
        rfl
      exact .cons ⟨hzero ▸ mul_mono hxy.1 hc, mul_mono hxy.2 hc⟩ (ih hrest)

/-- Better scores have no smaller sum, although each product and each sum is rounded. -/
theorem weightedSum_mono {xs ys : List Binary64} (h : Dominated xs ys) :
    weightedSum xs ≤ weightedSum ys :=
  foldl_add_mono (dominated_zipWith h weights_pos) (by simp) (by simp)

/-! ## Rounding -/

/-- A number between two numbers is rounded to an integer between theirs. -/
theorem exists_roundHalfUp_eq_ok {low x high : Binary64} {m n : Int} (hnonneg : finite 0 ≤ low)
    (hlow : low ≤ x) (hhigh : x ≤ high) (hm : roundHalfUp low = .ok m)
    (hn : roundHalfUp high = .ok n) : ∃ k, roundHalfUp x = .ok k ∧ m ≤ k ∧ k ≤ n := by
  have hhalf : finite 0 ≤ finite (1 / 2) := by simp
  have hsame : finite (1 / 2) ≤ finite (1 / 2) := le_refl (1 / 2 : ℚ)
  -- a half is added to all three, which keeps their order
  exact exists_floor_eq_ok (add_mono hnonneg hlow hhalf hsame)
    (add_mono (Binary64.le_trans hnonneg hlow) hhigh hhalf hsame) hm hn

/-- The bounds of the scores are rounded to themselves. -/
theorem roundHalfUp_bounds :
    roundHalfUp (finite 0) = .ok 0 ∧ roundHalfUp (finite 6) = .ok 6 ∧
      roundHalfUp (finite 100) = .ok 100 := by
  decide +kernel

/-- The weighted sums of the smallest and of the largest scores. -/
theorem weightedSum_bounds :
    weightedSum [finite 0, finite 0, finite 0, finite 30] = finite 6 ∧
      weightedSum [finite 100, finite 100, finite 100, finite 100] = finite 100 := by
  decide +kernel

/-- A score between 0 and 100 stays there when it is rounded. -/
private theorem exists_roundHalfUp_mem {x : Binary64} (h : finite 0 ≤ x ∧ x ≤ finite 100) :
    ∃ k, roundHalfUp x = .ok k ∧ 0 ≤ k ∧ k ≤ 100 :=
  exists_roundHalfUp_eq_ok (le_refl (0 : ℚ)) h.1 h.2 roundHalfUp_bounds.1 roundHalfUp_bounds.2.2

/-- The weighted sum of scores between 0 and 100, of which the last is at least 30. -/
private theorem exists_roundHalfUp_weightedSum {a b c : Binary64} {d : ℚ}
    (ha : finite 0 ≤ a ∧ a ≤ finite 100) (hb : finite 0 ≤ b ∧ b ≤ finite 100)
    (hc : finite 0 ≤ c ∧ c ≤ finite 100) (hd : 30 ≤ d ∧ d ≤ 100) :
    ∃ k, roundHalfUp (weightedSum [a, b, c, finite d]) = .ok k ∧ 6 ≤ k ∧ k ≤ 100 := by
  have hzero : finite 0 ≤ finite 0 := le_refl (0 : ℚ)
  have hthirty : finite 0 ≤ finite 30 := by simp
  have hd' : finite 0 ≤ finite d := Binary64.le_trans hthirty hd.1
  -- the scores lie between the smallest and the largest, so their sum lies between the two sums
  have hlow : Dominated [finite 0, finite 0, finite 0, finite 30] [a, b, c, finite d] :=
    .cons ⟨hzero, ha.1⟩ (.cons ⟨hzero, hb.1⟩ (.cons ⟨hzero, hc.1⟩ (.cons ⟨hthirty, hd.1⟩ .nil)))
  have hhigh : Dominated [a, b, c, finite d] [finite 100, finite 100, finite 100, finite 100] :=
    .cons ha (.cons hb (.cons hc (.cons ⟨hd', hd.2⟩ .nil)))
  have hsix : finite 0 ≤ finite 6 := by simp
  refine exists_roundHalfUp_eq_ok hsix ?_ ?_ roundHalfUp_bounds.2.1 roundHalfUp_bounds.2.2
  · rw [← weightedSum_bounds.1]
    exact weightedSum_mono hlow
  · rw [← weightedSum_bounds.2]
    exact weightedSum_mono hhigh

/-! ## The scores of a list of rules -/

/-- Rules have scores if the three shares of issues have scores, and these are in their range. -/
theorem exists_scores_eq_ok_of_remaining {rules : List Rule} {issues : List Issue} (bytes : Int)
    {a b c : Binary64}
    (ha : remaining (countOf .specificity issues) (max rules.length 1) 200 = .ok a)
    (hb : remaining (repeats issues) (max (declarationCount rules) 1) 300 = .ok b)
    (hc : remaining (countOf .important issues) (max (declarationCount rules) 1) 500 = .ok c) :
    ∃ s, scores rules issues bytes = .ok s ∧ s.InRange := by
  obtain ⟨hlow, hhigh⟩ := ofSize_mem bytes
  have hsize : (30 : ℚ) ≤ ofSize bytes ∧ (ofSize bytes : ℚ) ≤ 100 :=
    ⟨by exact_mod_cast hlow, by exact_mod_cast hhigh⟩
  have hsize' : finite 0 ≤ finite (ofSize bytes) ∧ finite (ofSize bytes) ≤ finite 100 :=
    ⟨le_trans (by norm_num) hsize.1, hsize.2⟩
  -- each of the five is rounded to an integer in its range
  obtain ⟨n₁, h₁, hn₁⟩ := exists_roundHalfUp_weightedSum (remaining_mem ha) (remaining_mem hb)
    (remaining_mem hc) hsize
  obtain ⟨n₂, h₂, hn₂⟩ := exists_roundHalfUp_mem (remaining_mem ha)
  obtain ⟨n₃, h₃, hn₃⟩ := exists_roundHalfUp_mem (remaining_mem hb)
  obtain ⟨n₄, h₄, hn₄⟩ := exists_roundHalfUp_mem (remaining_mem hc)
  obtain ⟨n₅, h₅, hn₅⟩ := exists_roundHalfUp_mem hsize'
  refine ⟨⟨n₁, n₂, n₃, n₄, n₅⟩, ?_, hn₁, hn₂, hn₃, hn₄, hn₅⟩
  rw [scores, ha, hb, hc]
  simp only [bind, Except.bind, h₁, h₂, h₃, h₄, h₅, pure, Except.pure]

/-- Scores are in their range. -/
theorem inRange_of_scores {rules : List Rule} {issues : List Issue} {bytes : Int} {s : Scores}
    (h : scores rules issues bytes = .ok s) : s.InRange := by
  have hparts := h
  simp only [scores, bind_eq_ok_iff] at hparts
  obtain ⟨a, ha, b, hb, c, hc, -⟩ := hparts
  obtain ⟨s', hs', hrange⟩ := exists_scores_eq_ok_of_remaining bytes ha hb hc
  rw [h] at hs'
  exact Except.ok.inj hs' ▸ hrange

/-- The counts of issues that the scores divide, each with what it is divided by. -/
def shares (rules : List Rule) (issues : List Issue) : List (Int × Nat) :=
  [(countOf .specificity issues, max rules.length 1),
    (repeats issues, max (declarationCount rules) 1),
    (countOf .important issues, max (declarationCount rules) 1)]

/-- A share that is in range has a score. -/
theorem exists_remaining_eq_ok {count : Int} {total : Nat} (cost : Rat) (htotal : 0 < total)
    (h : ¬Overflows count total) : ∃ x, remaining count total cost = .ok x := by
  obtain ⟨v, hv⟩ := exists_quotient_eq_ok htotal h
  exact ⟨_, by rw [remaining, hv]; rfl⟩

/-- A share that is out of range has no score. -/
theorem remaining_of_overflows {count : Int} {total : Nat} (cost : Rat) (htotal : 0 < total)
    (h : Overflows count total) : remaining count total cost = .error .quotientTooLarge := by
  rw [remaining, quotient_of_overflows htotal h]
  rfl

/-- Whatever the issues, their occurrences and the size in bytes are: rules have no scores exactly
    if a share of issues is out of the range of the numbers; otherwise all scores are between 0 and
    100, and the overall score is at least 6. -/
theorem scores_inRange (rules : List Rule) (issues : List Issue) (bytes : Int) :
    ((∀ share ∈ shares rules issues, ¬Overflows share.1 share.2) ∧
      ∃ s, scores rules issues bytes = .ok s ∧ s.InRange) ∨
    ((∃ share ∈ shares rules issues, Overflows share.1 share.2) ∧
      scores rules issues bytes = .error .quotientTooLarge) := by
  have hrules : 0 < max rules.length 1 := by omega
  have hdeclarations : 0 < max (declarationCount rules) 1 := by omega
  -- share by share: the first one out of range is the error
  by_cases ha : Overflows (countOf .specificity issues) (max rules.length 1)
  · refine .inr ⟨⟨_, List.mem_cons_self, ha⟩, ?_⟩
    rw [scores, remaining_of_overflows 200 hrules ha]
    rfl
  obtain ⟨a, ha'⟩ := exists_remaining_eq_ok 200 hrules ha
  by_cases hb : Overflows (repeats issues) (max (declarationCount rules) 1)
  · refine .inr ⟨⟨_, List.mem_cons_of_mem _ List.mem_cons_self, hb⟩, ?_⟩
    rw [scores, ha', remaining_of_overflows 300 hdeclarations hb]
    rfl
  obtain ⟨b, hb'⟩ := exists_remaining_eq_ok 300 hdeclarations hb
  by_cases hc : Overflows (countOf .important issues) (max (declarationCount rules) 1)
  · refine .inr ⟨⟨_, List.mem_cons_of_mem _ (List.mem_cons_of_mem _ List.mem_cons_self), hc⟩, ?_⟩
    rw [scores, ha', hb', remaining_of_overflows 500 hdeclarations hc]
    rfl
  obtain ⟨c, hc'⟩ := exists_remaining_eq_ok 500 hdeclarations hc
  refine .inl ⟨?_, exists_scores_eq_ok_of_remaining bytes ha' hb' hc'⟩
  simp only [shares, List.forall_mem_cons, List.not_mem_nil, false_implies, implies_true, and_true]
  exact ⟨ha, hb, hc⟩

-- The least overall score is reached, by faults of every kind in a large sheet.
example : (scores [] [⟨.specificity, .error, "", "", "", 1, none, 1⟩,
    ⟨.duplicate, .warning, "", "", "", 1, none, 2⟩,
    ⟨.important, .warning, "", "", "", 1, none, 1⟩] 100001).map (·.overall) = .ok 6 := by
  decide +kernel

end Score

end SheetAudit

import SheetAudit.Proofs.ScoreRange

/-!
# The order of the scores

A sheet with more issues, or with more bytes, is not scored better.  A list of issues that contains
another one has no smaller counts, if no issue with a repeated declaration stands for less than one
place; and each step from a count to a score keeps the order of its operand or turns it around, also
where it rounds, overflows or is cut off.

## Key results

- `countOf_le_of_sublist` / `repeats_le_of_sublist`: the counts of more issues
- `clamp_mono` / `points_antitone` / `ofSize_antitone`: the steps from a count or a size to a score
- `scores_eq_ok_iff`: what the scores are computed from
- `scores_antitone`: the scores for more issues and bytes, and what issues do not count
-/

namespace SheetAudit

open Number Number.Binary64 Score
open Stylesheet (Rule)

/-- The order of scores: each score of the first is at most that of the second. -/
structure Scores.Le (s t : Scores) : Prop where
  /-- The overall score. -/
  overall_le : s.overall ≤ t.overall
  /-- The score for specificity. -/
  specificity_le : s.specificity ≤ t.specificity
  /-- The score for repeated declarations. -/
  duplicates_le : s.duplicates ≤ t.duplicates
  /-- The score for forced declarations. -/
  important_le : s.important ≤ t.important
  /-- The score for the size. -/
  fileSize_le : s.fileSize ≤ t.fileSize

instance : LE Scores := ⟨Scores.Le⟩

namespace Score

/-! ## Counts -/

section Counts

variable {issues issues' : List Issue}

/-- More issues have no fewer of a kind. -/
theorem countOf_le_of_sublist (kind : IssueKind) (h : issues.Sublist issues') :
    countOf kind issues ≤ countOf kind issues' :=
  h.countP_le

/-- An issue with a repeated declaration adds its places but one. -/
theorem repeats_cons (i : Issue) (issues : List Issue) :
    repeats (i :: issues) =
      (if i.kind = .duplicate then i.occurrences - 1 else 0) + repeats issues := by
  by_cases h : i.kind = .duplicate <;> simp [repeats, h]

/-- Of the issues with repeated declarations, each stands for at least one place. -/
def EachOccurs (issues : List Issue) : Prop :=
  ∀ i ∈ issues, i.kind = .duplicate → 1 ≤ i.occurrences

/-- There is no negative number of repeats, as long as each issue occurs. -/
theorem repeats_nonneg (h : EachOccurs issues) : 0 ≤ repeats issues := by
  -- by induction on the issues, each of which adds nothing negative
  induction issues with
  | nil => exact le_refl 0
  | cons i issues ih =>
    obtain ⟨hi, hrest⟩ := List.forall_mem_cons.mp h
    have := ih hrest
    rw [repeats_cons]
    split
    · next hkind =>
      have := hi hkind
      omega
    · omega

/-- More issues have no fewer repeats, as long as each of them occurs. -/
theorem repeats_le_of_sublist (h : issues.Sublist issues') (hoccurs : EachOccurs issues') :
    repeats issues ≤ repeats issues' := by
  -- by induction on how the one list lies in the other
  induction h with
  | slnil => exact le_refl 0
  | cons i _ ih =>
    obtain ⟨hi, hrest⟩ := List.forall_mem_cons.mp hoccurs
    have := ih hrest
    rw [repeats_cons]
    split
    · next hkind =>
      have := hi hkind
      omega
    · omega
  | cons_cons i _ ih =>
    have := ih (List.forall_mem_cons.mp hoccurs).2
    rw [repeats_cons, repeats_cons]
    omega

/-- Issues that are left out do not change the counts of other kinds. -/
private theorem countOf_filter (kind : IssueKind) {p : Issue → Bool}
    (hp : ∀ i, i.kind = kind → p i = true) (issues : List Issue) :
    countOf kind (issues.filter p) = countOf kind issues := by
  rw [countOf, List.countP_filter]
  refine List.countP_congr fun i _ => ?_
  simpa using hp i

/-- Issues that are left out do not change the repeats, if none of them has a repeated
declaration. -/
private theorem repeats_filter {p : Issue → Bool} (hp : ∀ i, i.kind = .duplicate → p i = true)
    (issues : List Issue) : repeats (issues.filter p) = repeats issues := by
  rw [repeats, List.filter_filter, repeats]
  congr 2
  refine List.filter_congr fun i _ => ?_
  by_cases h : i.kind = .duplicate <;> simp [h, hp]

end Counts

/-! ## From a count to a score -/

/-- A finite number is cut off at 0 and at 100. -/
@[simp] theorem clamp_finite (v : ℚ) : clamp (finite v) = finite (max 0 (min 100 v)) := by
  by_cases hhigh : v < 100
  · by_cases hlow : 0 < v
    · simp [clamp, lt, hhigh, hlow, hhigh.le, hlow.le]
    · simp [clamp, lt, hhigh, hlow, hhigh.le, not_lt.mp hlow]
  · simp [clamp, lt, hhigh, not_lt.mp hhigh]

/-- An infinity is cut off at the end on its side. -/
@[simp] theorem clamp_infinite (negative : Bool) :
    clamp (infinite negative) = finite (if negative then 0 else 100) := by
  cases negative <;> simp [clamp, lt]

/-- Cutting off keeps the order. -/
theorem clamp_mono {x y : Binary64} (h : x ≤ y) : clamp x ≤ clamp y := by
  -- an infinity is already cut off where every other number ends up
  cases x with
  | nan => simp at h
  | infinite negative =>
    cases negative with
    | true =>
      rw [clamp_infinite]
      exact (clamp_mem y).1
    | false =>
      cases y <;> simp_all
  | finite a =>
    cases y with
    | nan => simp at h
    | infinite negative =>
      obtain rfl : negative = false := h
      rw [clamp_infinite]
      exact (clamp_mem _).2
    | finite b =>
      rw [clamp_finite, clamp_finite]
      exact max_le_max_left 0 (min_le_min_left 100 (show a ≤ b from h))

/-- What is left of 100 points for a share of things at fault. -/
def points (cost : ℚ) (share : Binary64) : Binary64 :=
  clamp (finite 100 - share * finite cost)

/-- A larger share of faults leaves no more points. -/
theorem points_antitone {cost : ℚ} (hcost : 0 < cost) {x y : Binary64} (h : x ≤ y) :
    points cost y ≤ points cost x :=
  clamp_mono (finite_sub_antitone 100 (mul_mono h hcost))

/-- What is left of 100 points is computed from the share of faults, if that is in range. -/
theorem remaining_eq_ok_iff {count : Int} {total : Nat} {cost : ℚ} {x : Binary64} :
    remaining count total cost = .ok x ↔
      ∃ share, quotient count total = .ok share ∧ points cost share = x := by
  simp only [remaining, bind_eq_ok_iff, points, pure, Except.pure, Except.ok.injEq]

/-- A quotient that is in range is the exact one, rounded. -/
theorem ofRat_of_quotient {n : Int} {d : Nat} {x : Binary64} (h : quotient n d = .ok x) :
    ofRat (n / d) = x := by
  rw [quotient, Rat.mkRat_eq_div] at h
  split at h
  · next v hv =>
    rw [hv]
    exact Except.ok.inj h
  · cases h

/-- A larger share of faults leaves no more points. -/
theorem remaining_antitone {count count' : Int} {total : Nat} {cost : ℚ} (hcost : 0 < cost)
    (h : count ≤ count') {x y : Binary64} (hx : remaining count total cost = .ok x)
    (hy : remaining count' total cost = .ok y) : y ≤ x := by
  obtain ⟨share, hshare, rfl⟩ := remaining_eq_ok_iff.mp hx
  obtain ⟨share', hshare', rfl⟩ := remaining_eq_ok_iff.mp hy
  obtain rfl := ofRat_of_quotient hshare
  obtain rfl := ofRat_of_quotient hshare'
  have hquotient : (count / total : ℚ) ≤ count' / total :=
    div_le_div_of_nonneg_right (Int.cast_le.mpr h) (Nat.cast_nonneg total)
  exact points_antitone hcost (ofRat_mono hquotient)

/-- If a share of faults is in the range of the numbers, so is a smaller one. -/
private theorem exists_remaining_of_le {count count' : Int} {total : Nat} {cost : ℚ}
    (hcost : 0 < cost) (htotal : 0 < total) (hcount : 0 ≤ count) (h : count ≤ count') {y : Binary64}
    (hy : remaining count' total cost = .ok y) :
    ∃ x, remaining count total cost = .ok x ∧ y ≤ x := by
  -- the larger share has a score, so it did not overflow
  have hrange : ¬Overflows count' total := by
    intro hover
    rw [remaining_of_overflows cost htotal hover] at hy
    cases hy
  have habs : |(count : ℚ)| ≤ |(count' : ℚ)| := by
    have hcount' : (0 : ℚ) ≤ count := Int.cast_nonneg hcount
    have hle : (count : ℚ) ≤ count' := Int.cast_le.mpr h
    rwa [abs_of_nonneg hcount', abs_of_nonneg (hcount'.trans hle)]
  obtain ⟨x, hx⟩ := exists_remaining_eq_ok cost htotal fun hover => hrange (hover.trans habs)
  exact ⟨x, hx, remaining_antitone hcost h hx hy⟩

/-! ## From a size to a score -/

/-- In a table of steps with growing scores, a larger size is not given a larger score. -/
private theorem score_of_step_antitone {steps : List (Int × Int)} {most : Int}
    (hsteps : steps.Pairwise fun a b => a.2 ≤ b.2) (hmost : ∀ step ∈ steps, step.2 ≤ most)
    {bytes bytes' : Int} (h : bytes ≤ bytes') :
    ((steps.find? fun step => step.1 < bytes').elim most (·.2)) ≤
      (steps.find? fun step => step.1 < bytes).elim most (·.2) := by
  -- by induction on the steps: the first one that applies decides
  induction steps with
  | nil => exact le_refl most
  | cons step steps ih =>
    obtain ⟨hfirst, hrest⟩ := List.pairwise_cons.mp hsteps
    obtain ⟨hstep, hmost'⟩ := List.forall_mem_cons.mp hmost
    by_cases hlimit : step.1 < bytes
    · have hlimit' : step.1 < bytes' := by omega
      simp [hlimit, hlimit']
    · by_cases hlimit' : step.1 < bytes'
      · -- the larger size is above this step, and the smaller one is found further on, if at all
        simp only [List.find?_cons, hlimit, hlimit', decide_true, decide_false, Option.elim_some]
        cases hfind : steps.find? fun step => step.1 < bytes with
        | none => exact hstep
        | some step' => exact hfirst step' (List.mem_of_find?_eq_some hfind)
      · simpa [List.find?_cons, hlimit, hlimit'] using ih hrest hmost'

/-- A larger size is not given a larger score. -/
theorem ofSize_antitone {bytes bytes' : Int} (h : bytes ≤ bytes') :
    ofSize bytes' ≤ ofSize bytes := by
  -- the score of a size is that of the first step below it
  have hofSize : ∀ bytes, ofSize bytes =
      (sizeSteps.find? fun step => step.1 < bytes).elim 100 (·.2) := by
    intro bytes
    unfold ofSize
    cases sizeSteps.find? fun step => step.1 < bytes <;> rfl
  rw [hofSize, hofSize]
  exact score_of_step_antitone (by decide) (by decide) h

/-! ## Sums and rounding -/

/-- The weighted sum of numbers that are not negative is not negative. -/
private theorem zero_le_weightedSum {a b c d : Binary64} (ha : finite 0 ≤ a) (hb : finite 0 ≤ b)
    (hc : finite 0 ≤ c) (hd : finite 0 ≤ d) : finite 0 ≤ weightedSum [a, b, c, d] := by
  have hzero : finite 0 ≤ finite 0 := le_refl (0 : ℚ)
  have hsum : weightedSum [finite 0, finite 0, finite 0, finite 0] = finite 0 := by
    decide +kernel
  rw [← hsum]
  exact weightedSum_mono
    (.cons ⟨hzero, ha⟩ (.cons ⟨hzero, hb⟩ (.cons ⟨hzero, hc⟩ (.cons ⟨hzero, hd⟩ .nil))))

/-- A larger number is not rounded to a smaller integer. -/
theorem roundHalfUp_mono {x y : Binary64} {m n : Int} (hx : finite 0 ≤ x) (h : x ≤ y)
    (hm : roundHalfUp x = .ok m) (hn : roundHalfUp y = .ok n) : m ≤ n := by
  have hsame : x ≤ x := by
    cases x <;> simp_all
  obtain ⟨k, -, hmk, hkn⟩ := exists_roundHalfUp_eq_ok hx hsame h hm hn
  exact hmk.trans hkn

/-! ## The scores of a list of rules -/

/-- The scores are the given ones, rounded, and their weighted sum. -/
structure RoundedFrom (specificity duplicates important size : Binary64) (s : Scores) : Prop where
  /-- The overall score is the weighted sum, rounded once and not from the rounded scores. -/
  overall_eq : roundHalfUp (weightedSum [specificity, duplicates, important, size]) = .ok s.overall
  /-- The score for specificity is rounded. -/
  specificity_eq : roundHalfUp specificity = .ok s.specificity
  /-- The score for repeated declarations is rounded. -/
  duplicates_eq : roundHalfUp duplicates = .ok s.duplicates
  /-- The score for forced declarations is rounded. -/
  important_eq : roundHalfUp important = .ok s.important
  /-- The score for the size is rounded. -/
  fileSize_eq : roundHalfUp size = .ok s.fileSize

/-- What the scores of a list of rules are computed from. -/
theorem scores_eq_ok_iff {rules : List Rule} {issues : List Issue} {bytes : Int} {s : Scores} :
    scores rules issues bytes = .ok s ↔
      ∃ a b c, remaining (countOf .specificity issues) (max rules.length 1) 200 = .ok a ∧
        remaining (repeats issues) (max (declarationCount rules) 1) 300 = .ok b ∧
        remaining (countOf .important issues) (max (declarationCount rules) 1) 500 = .ok c ∧
        RoundedFrom a b c (finite (ofSize bytes)) s := by
  simp only [scores, bind_eq_ok_iff, pure, Except.pure, Except.ok.injEq]
  constructor
  · rintro ⟨a, ha, b, hb, c, hc, n₁, h₁, n₂, h₂, n₃, h₃, n₄, h₄, n₅, h₅, rfl⟩
    exact ⟨a, b, c, ha, hb, hc, h₁, h₂, h₃, h₄, h₅⟩
  · rintro ⟨a, b, c, ha, hb, hc, h₁, h₂, h₃, h₄, h₅⟩
    exact ⟨a, ha, b, hb, c, hc, _, h₁, _, h₂, _, h₃, _, h₄, _, h₅, rfl⟩

/-- Scores that are rounded from smaller ones are not larger. -/
theorem RoundedFrom.le {a b c size a' b' c' size' : Binary64} {s s' : Scores}
    (h : RoundedFrom a b c size s) (h' : RoundedFrom a' b' c' size' s')
    (hle : Dominated [a', b', c', size'] [a, b, c, size]) : s' ≤ s := by
  have hsum : weightedSum [a', b', c', size'] ≤ weightedSum [a, b, c, size] :=
    weightedSum_mono hle
  simp only [Dominated, List.forall₂_cons, List.forall₂_nil_left_iff, and_true] at hle
  obtain ⟨ha, hb, hc, hsize⟩ := hle
  -- rounding keeps the order of numbers that are not negative
  have hsum_nonneg : finite 0 ≤ weightedSum [a', b', c', size'] :=
    zero_le_weightedSum ha.1 hb.1 hc.1 hsize.1
  exact ⟨roundHalfUp_mono hsum_nonneg hsum h'.overall_eq h.overall_eq,
    roundHalfUp_mono ha.1 ha.2 h'.specificity_eq h.specificity_eq,
    roundHalfUp_mono hb.1 hb.2 h'.duplicates_eq h.duplicates_eq,
    roundHalfUp_mono hc.1 hc.2 h'.important_eq h.important_eq,
    roundHalfUp_mono hsize.1 hsize.2 h'.fileSize_eq h.fileSize_eq⟩

/-- If a list of rules has scores with more issues and bytes, it has scores, and they are no
    smaller. -/
private theorem exists_scores_of_sublist {rules : List Rule} {issues issues' : List Issue}
    {bytes bytes' : Int} {s' : Scores} (hissues : issues.Sublist issues')
    (hoccurs : EachOccurs issues') (hbytes : bytes ≤ bytes')
    (h : scores rules issues' bytes' = .ok s') :
    ∃ s, scores rules issues bytes = .ok s ∧ s' ≤ s := by
  have hrules : 0 < max rules.length 1 := by omega
  have hdeclarations : 0 < max (declarationCount rules) 1 := by omega
  have hoccurs' : EachOccurs issues := fun i hi => hoccurs i (hissues.subset hi)
  obtain ⟨a', b', c', ha', hb', hc', hs'⟩ := scores_eq_ok_iff.mp h
  -- each of the three scores before they are rounded
  obtain ⟨a, ha, haa⟩ := exists_remaining_of_le (by norm_num) hrules (Int.natCast_nonneg _)
    (Int.ofNat_le.mpr (countOf_le_of_sublist _ hissues)) ha'
  obtain ⟨b, hb, hbb⟩ := exists_remaining_of_le (by norm_num) hdeclarations
    (repeats_nonneg hoccurs') (repeats_le_of_sublist hissues hoccurs) hb'
  obtain ⟨c, hc, hcc⟩ := exists_remaining_of_le (by norm_num) hdeclarations (Int.natCast_nonneg _)
    (Int.ofNat_le.mpr (countOf_le_of_sublist _ hissues)) hc'
  obtain ⟨s, hs, -⟩ := exists_scores_eq_ok_of_remaining bytes ha hb hc
  refine ⟨s, hs, ?_⟩
  obtain ⟨a₁, b₁, c₁, ha₁, hb₁, hc₁, hrounded⟩ := scores_eq_ok_iff.mp hs
  obtain rfl := Except.ok.inj (ha.symm.trans ha₁)
  obtain rfl := Except.ok.inj (hb.symm.trans hb₁)
  obtain rfl := Except.ok.inj (hc.symm.trans hc₁)
  have hsize : (ofSize bytes' : ℚ) ≤ ofSize bytes := Int.cast_le.mpr (ofSize_antitone hbytes)
  have hsize' : (0 : ℚ) ≤ ofSize bytes' := by
    have := (ofSize_mem bytes').1
    exact Int.cast_nonneg (by omega)
  exact hrounded.le hs' (.cons ⟨(remaining_mem ha').1, haa⟩ (.cons ⟨(remaining_mem hb').1, hbb⟩
    (.cons ⟨(remaining_mem hc').1, hcc⟩ (.cons ⟨hsize', hsize⟩ .nil))))

/-- More issues and more bytes give no better scores, and a pass with them is a pass without them,
    also against a smaller threshold.  Issues with element names fused with a class or an
    identifier, and with selectors of everything, do not count. -/
theorem scores_antitone (rules : List Rule) :
    (∀ (issues issues' : List Issue) (bytes bytes' : Int) (s' : Scores),
      issues.Sublist issues' → EachOccurs issues' → bytes ≤ bytes' →
      scores rules issues' bytes' = .ok s' →
      ∃ s, scores rules issues bytes = .ok s ∧ s' ≤ s ∧
        ∀ threshold threshold' : Int, threshold ≤ threshold' →
          (Verdict.mk s'.overall threshold').passed → (Verdict.mk s.overall threshold).passed) ∧
    ∀ (issues : List Issue) (bytes : Int),
      scores rules issues bytes =
        scores rules (issues.filter fun i => i.kind != .overqualified && i.kind != .universal)
          bytes := by
  constructor
  · intro issues issues' bytes bytes' s' hissues hoccurs hbytes h
    obtain ⟨s, hs, hle⟩ := exists_scores_of_sublist hissues hoccurs hbytes h
    -- a threshold that the lower score reaches is reached by the higher one
    refine ⟨s, hs, hle, fun threshold threshold' hthreshold hpass => ?_⟩
    have hpass' : threshold' ≤ s'.overall := of_decide_eq_true hpass
    exact decide_eq_true (hthreshold.trans (hpass'.trans hle.overall_le))
  · intro issues bytes
    -- no score looks at the issues that are left out
    let p : Issue → Bool := fun i => i.kind != .overqualified && i.kind != .universal
    have hspecificity : countOf .specificity (issues.filter p) = countOf .specificity issues :=
      countOf_filter .specificity (by simp_all [p]) issues
    have himportant : countOf .important (issues.filter p) = countOf .important issues :=
      countOf_filter .important (by simp_all [p]) issues
    have hrepeats : repeats (issues.filter p) = repeats issues :=
      repeats_filter (by simp_all [p]) issues
    rw [scores, scores, hspecificity, himportant, hrepeats]

/-- A sheet with faults of two kinds, and a smaller one with one of them. -/
theorem scores_antitone_two_faults :
    let rules : List Rule := List.replicate 4 ⟨"#a #b", ["p:q", "p:q", "r:s"], 1, "a.css"⟩
    let issues : List Issue := [⟨.duplicate, .warning, "", "", "a.css", 1, none, 3⟩]
    let issues' : List Issue := ⟨.specificity, .error, "", "", "a.css", 1, none, 1⟩ :: issues
    scores rules issues' 30000 = .ok ⟨67, 50, 50, 100, 70⟩ ∧
      ∃ s, scores rules issues 9999 = .ok s ∧ ⟨67, 50, 50, 100, 70⟩ ≤ s ∧
        (Verdict.mk s.overall 60).passed := by
  intro rules issues issues'
  have h : scores rules issues' 30000 = .ok ⟨67, 50, 50, 100, 70⟩ := by decide +kernel
  have hoccurs : EachOccurs issues' := by simp [EachOccurs, issues', issues]
  obtain ⟨s, hs, hle, hpass⟩ := (scores_antitone rules).1 issues issues' 9999 30000 _
    (List.sublist_cons_self _ _) hoccurs (by decide) h
  exact ⟨h, s, hs, hle, hpass 60 67 (by decide) (by decide)⟩

end Score

end SheetAudit

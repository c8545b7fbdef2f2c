import Mathlib.Algebra.BigOperators.Group.List.Lemmas
import SheetAudit.Proofs.Attribution
import SheetAudit.Proofs.ScoreOrder

/-!
# When an audit has scores

The scores are computed from three counts of issues, each divided by the number of things that the
issues are about.  There are never more issues with declarations than declarations, so that two of
the quotients are at most one.  The third one, of selectors with a high specificity, is out of the
range of the numbers only if there are more selectors than any machine can hold.

## Key results

- `countOf_specificity_le`, `countOf_important_le` and `repeatedUses_bounds`: the counts of issues
- `detectIssues_counts_le`: all counts together
- `exists_scores_eq_ok`: when a list of rules has scores
-/

namespace SheetAudit

open Number Number.Binary64 Stylesheet Score

/-! ## Counts of issues -/

/-- A detector finds no issues of the kinds of the others. -/
private theorem filter_eq_nil_of_stage {kind : IssueKind} {issues : List Issue} {stage : Nat}
    (h : ∀ i ∈ issues, i.kind.stage = stage) (hkind : kind.stage ≠ stage) :
    issues.filter (·.kind == kind) = [] := by
  rw [List.filter_eq_nil_iff]
  intro i hi hi'
  exact hkind (beq_iff_eq.mp hi' ▸ h i hi)

/-- The issues of a kind, by detectors. -/
private theorem filter_detectIssues (kind : IssueKind) (rules : List Rule) :
    (detectIssues rules).filter (·.kind == kind) =
      (match kind.stage with
        | 0 => selectorIssues rules
        | 1 => importantIssues rules
        | _ => duplicateIssues rules).filter (·.kind == kind) := by
  have hselectors : ∀ i ∈ selectorIssues rules, i.kind.stage = 0 :=
    fun i hi => (standsAt_of_mem_selectorIssues hi).1
  have himportant : ∀ i ∈ importantIssues rules, i.kind.stage = 1 :=
    fun i hi => (standsAt_of_mem_importantIssues hi).1
  have hduplicates : ∀ i ∈ duplicateIssues rules, i.kind.stage = 2 :=
    fun i hi => (standsAt_of_mem_duplicateIssues hi).1
  rw [detectIssues, List.filter_append, List.filter_append]
  -- the kinds of one stage are found by one detector, and the other two drop out
  cases kind with
  | specificity | overqualified | universal =>
    rw [filter_eq_nil_of_stage himportant (by decide),
      filter_eq_nil_of_stage hduplicates (by decide), List.append_nil, List.append_nil]
    rfl
  | important =>
    rw [filter_eq_nil_of_stage hselectors (by decide),
      filter_eq_nil_of_stage hduplicates (by decide), List.append_nil, List.nil_append]
    rfl
  | duplicate =>
    rw [filter_eq_nil_of_stage hselectors (by decide),
      filter_eq_nil_of_stage himportant (by decide), List.append_nil, List.nil_append]
    rfl

/-- The number of issues of a kind, by the list of these issues. -/
private theorem countOf_eq_length (kind : IssueKind) (issues : List Issue) :
    countOf kind issues = (issues.filter (·.kind == kind)).length :=
  List.countP_eq_length_filter

/-- The issues of an alternative are those of its four checks, one behind the other. -/
theorem alternativeIssues_eq_append (r : Rule) (selector : String) :
    alternativeIssues r selector =
      (specificityIssue? r selector).toList ++ (overqualifiedIssue? r selector).toList ++
        (universalIssue? r selector).toList ++ (nestingIssue? r selector).toList := by
  simp [alternativeIssues, List.filterMap_eq_flatMap_toList]

/-- An alternative of a selector has at most one issue with its specificity and one with its
    nesting. -/
theorem countOf_specificity_alternativeIssues_le (r : Rule) (selector : String) :
    countOf .specificity (alternativeIssues r selector) ≤ 2 := by
  have hoverqualified : countOf .specificity (overqualifiedIssue? r selector).toList = 0 := by
    unfold overqualifiedIssue?
    split <;> rfl
  have huniversal : countOf .specificity (universalIssue? r selector).toList = 0 := by
    unfold universalIssue?
    split <;> rfl
  -- the other two checks find at most one issue each
  have hone : ∀ issue? : Option Issue, countOf .specificity issue?.toList ≤ 1 := by
    intro issue?
    refine List.countP_le_length.trans ?_
    cases issue? <;> simp
  have hspecificity := hone (specificityIssue? r selector)
  have hnesting := hone (nestingIssue? r selector)
  rw [alternativeIssues_eq_append]
  simp only [countOf, List.countP_append] at *
  omega

/-- The selector checks find at most two issues with specificity for each selector. -/
theorem countOf_specificity_selectorIssues_le (rules : List Rule) :
    countOf .specificity (selectorIssues rules) ≤ 2 * selectorCount rules := by
  have hrule : ∀ (r : Rule) (selectors : List String),
      countOf .specificity (selectors.flatMap (alternativeIssues r)) ≤ 2 * selectors.length := by
    intro r selectors
    induction selectors with
    | nil => simp [countOf]
    | cons selector selectors ih =>
      have hone := countOf_specificity_alternativeIssues_le r selector
      simp only [countOf, List.flatMap_cons, List.countP_append, List.length_cons] at hone ih ⊢
      omega
  -- first over the alternatives of one rule, then over the rules
  induction rules with
  | nil => simp [countOf, selectorIssues]
  | cons r rules ih =>
    have hone := hrule r r.selectors
    rw [Rule.length_selectors] at hone
    simp only [countOf, selectorIssues, selectorCount, List.flatMap_cons, List.countP_append,
      List.map_cons, List.foldr_cons] at hone ih ⊢
    omega

/-- There are at most two issues with specificity for each selector. -/
theorem countOf_specificity_le (rules : List Rule) :
    countOf .specificity (detectIssues rules) ≤ 2 * selectorCount rules := by
  rw [countOf_eq_length, filter_detectIssues, ← countOf_eq_length]
  exact countOf_specificity_selectorIssues_le rules

/-- There are at most as many issues with forced declarations as there are declarations. -/
theorem length_importantIssues_le (rules : List Rule) :
    (importantIssues rules).length ≤ declarationCount rules := by
  induction rules with
  | nil => simp [importantIssues]
  | cons r rules ih =>
    have hone := List.length_filterMap_le (importantIssue? r) r.declarations
    simp only [importantIssues, declarationCount, List.flatMap_cons, List.length_append,
      List.map_cons, List.foldr_cons] at ih ⊢
    omega

/-- There is at most one issue with each forced declaration. -/
theorem countOf_important_le (rules : List Rule) :
    countOf .important (detectIssues rules) ≤ declarationCount rules := by
  rw [countOf_eq_length, filter_detectIssues]
  exact (List.length_filter_le _ _).trans (length_importantIssues_le rules)

/-! ## Repeated declarations -/

/-- There are at most as many uses of keys as there are declarations. -/
theorem length_keyedRules_le (rules : List Rule) :
    (keyedRules rules).length ≤ declarationCount rules := by
  induction rules with
  | nil => simp [keyedRules]
  | cons r rules ih =>
    have hone := List.length_filterMap_le declarationKey? r.declarations
    simp only [keyedRules, declarationCount, List.flatMap_cons, List.length_append,
      List.length_map, List.map_cons, List.foldr_cons] at ih ⊢
    omega

/-- The groups of declarations together have as many owners as there are uses of keys. -/
theorem sum_length_owners (rules : List Rule) :
    ((declarationGroups rules).map (·.owners.length)).sum = (keyedRules rules).length := by
  let keys := (keyedRules rules).map (·.1)
  -- which of several equal keys is kept does not matter for the sum
  have hperm : keys.eraseDups.Perm keys.dedup := by
    refine (List.perm_ext_iff_of_nodup (nodup_eraseDups keys) keys.nodup_dedup).mpr fun k => ?_
    rw [List.mem_eraseDups, List.mem_dedup]
  rw [declarationGroups_eq, List.map_map]
  calc (keys.eraseDups.map fun k => (ownersOf k rules).length).sum
      = (keys.dedup.map fun k => keys.count k).sum := by
        simp only [length_ownersOf]
        exact (hperm.map _).sum_eq
    _ = keys.length := List.sum_map_count_dedup_eq_length keys
    _ = (keyedRules rules).length := List.length_map _

/-- A group has no issue, or it has one with its number of uses, and then it has at least three of
them. -/
private theorem duplicateIssue?_cases (g : DeclarationGroup) :
    duplicateIssue? g = none ∨
    ∃ i, duplicateIssue? g = some i ∧ i.kind = .duplicate ∧ i.occurrences = g.owners.length ∧
      3 ≤ g.owners.length := by
  unfold duplicateIssue?
  split
  · exact .inl rfl
  · dsimp only
    split
    · exact .inl rfl
    · next hmany => exact .inr ⟨_, rfl, rfl, rfl, not_lt.mp hmany⟩

/-- The number of places that the issues with repeated declarations stand for. -/
def repeatedUses (issues : List Issue) : Int :=
  ((issues.filter (·.kind == .duplicate)).map (·.occurrences)).foldr (· + ·) 0

/-- Of the places that an issue stands for, one is not a repeat. -/
theorem repeats_eq_sub (issues : List Issue) :
    repeats issues = repeatedUses issues - countOf .duplicate issues := by
  induction issues with
  | nil => rfl
  | cons i issues ih =>
    rw [repeats_cons, ih]
    -- only issues of this kind stand for repeated uses
    by_cases h : i.kind = .duplicate
    · simp [repeatedUses, countOf, h]
      omega
    · simp [repeatedUses, countOf, h]

/-- The issues with groups stand for uses in these groups, each for at least three. -/
private theorem repeatedUses_filterMap_bounds (groups : List DeclarationGroup) :
    3 * (countOf .duplicate (groups.filterMap duplicateIssue?) : Int) ≤
        repeatedUses (groups.filterMap duplicateIssue?) ∧
      repeatedUses (groups.filterMap duplicateIssue?) ≤ (groups.map (·.owners.length)).sum := by
  induction groups with
  | nil => simp [repeatedUses, countOf]
  | cons g groups ih =>
    rw [List.map_cons, List.sum_cons]
    -- a group without an issue adds owners only
    rcases duplicateIssue?_cases g with h | ⟨i, h, hkind, hoccurrences, hmany⟩
    · rw [List.filterMap_cons_none h]
      omega
    · rw [List.filterMap_cons_some h]
      simp only [repeatedUses, countOf, List.filter_cons, List.countP_cons, hkind, BEq.rfl, if_true,
        List.map_cons, List.foldr_cons, hoccurrences] at ih ⊢
      omega

/-- No declaration belongs to two issues: the places that issues stand for are at most as many as
    there are declarations. -/
theorem repeatedUses_bounds (rules : List Rule) :
    3 * (countOf .duplicate (detectIssues rules) : Int) ≤ repeatedUses (detectIssues rules) ∧
      repeatedUses (detectIssues rules) ≤ declarationCount rules := by
  -- only the issues with repeated declarations are looked at
  have hfilter : (detectIssues rules).filter (·.kind == .duplicate) =
      (duplicateIssues rules).filter (·.kind == .duplicate) := filter_detectIssues .duplicate rules
  have hcount : countOf .duplicate (detectIssues rules) =
      countOf .duplicate (duplicateIssues rules) := by
    rw [countOf_eq_length, hfilter, countOf_eq_length]
  have huses : repeatedUses (detectIssues rules) = repeatedUses (duplicateIssues rules) := by
    rw [repeatedUses, hfilter, repeatedUses]
  have hbounds := repeatedUses_filterMap_bounds (declarationGroups rules)
  have hlength := length_keyedRules_le rules
  rw [sum_length_owners, ← duplicateIssues] at hbounds
  rw [hcount, huses]
  omega

/-- The declarations that repeat an earlier one are among the declarations. -/
theorem repeats_bounds (rules : List Rule) :
    0 ≤ repeats (detectIssues rules) ∧ repeats (detectIssues rules) ≤ declarationCount rules := by
  have hbounds := repeatedUses_bounds rules
  rw [repeats_eq_sub]
  omega

/-- The counts of the issues of a list of rules, in terms of its declarations and selectors. -/
theorem detectIssues_counts_le (rules : List Rule) :
    countOf .important (detectIssues rules) ≤ declarationCount rules ∧
    repeatedUses (detectIssues rules) ≤ declarationCount rules ∧
    repeats (detectIssues rules) ≤
      declarationCount rules - countOf .duplicate (detectIssues rules) ∧
    3 * countOf .duplicate (detectIssues rules) ≤ declarationCount rules ∧
    countOf .specificity (detectIssues rules) ≤ 2 * selectorCount rules := by
  have hbounds := repeatedUses_bounds rules
  refine ⟨countOf_important_le rules, hbounds.2, ?_, by omega, countOf_specificity_le rules⟩
  rw [repeats_eq_sub]
  omega

/-! ## Scores -/

/-- A share that is not huge has a score. -/
private theorem exists_remaining_eq_ok_of_abs_le {count : Int} {total : Nat} (cost : Rat)
    (htotal : 0 < total) (h : |(count : Rat)| ≤ 2 ^ 1022 * total) :
    ∃ x, remaining count total cost = .ok x := by
  obtain ⟨v, hv⟩ := exists_quotient_eq_finite htotal h
  exact ⟨_, by rw [remaining, hv]; rfl⟩

/-- A score for which each of `total` things has at most one fault. -/
private theorem exists_remaining_eq_ok_of_le {count : Int} {total : Nat} (cost : Rat)
    (h : 0 ≤ count ∧ count ≤ total) :
    ∃ x, remaining count (max total 1) cost = .ok x := by
  refine exists_remaining_eq_ok_of_abs_le cost (by omega) ?_
  have hcount : (0 : Rat) ≤ count := by exact_mod_cast h.1
  calc |(count : Rat)| = count := abs_of_nonneg hcount
    _ ≤ total := by exact_mod_cast h.2
    _ ≤ (max total 1 : Nat) := by exact_mod_cast le_max_left total 1
    _ ≤ 2 ^ 1022 * (max total 1 : Nat) :=
      le_mul_of_one_le_left (Nat.cast_nonneg _) (one_le_pow₀ one_le_two)

/-- The score for specificity, when there are fewer than 2^1000 selectors. -/
private theorem exists_remaining_specificity_eq_ok {rules : List Rule}
    (h : selectorCount rules < 2 ^ 1000) :
    ∃ x, remaining (countOf .specificity (detectIssues rules)) (max rules.length 1) 200 =
      .ok x := by
  refine exists_remaining_eq_ok_of_abs_le 200 (by omega) ?_
  -- no alternative has more than two of these issues
  have hcount : countOf .specificity (detectIssues rules) ≤ 2 ^ (1000 + 1) :=
    calc countOf .specificity (detectIssues rules) ≤ 2 * selectorCount rules :=
          countOf_specificity_le rules
      _ ≤ 2 * 2 ^ 1000 := Nat.mul_le_mul_left 2 h.le
      _ = 2 ^ (1000 + 1) := (pow_succ' 2 1000).symm
  calc |((countOf .specificity (detectIssues rules) : Int) : Rat)|
      = (countOf .specificity (detectIssues rules) : Nat) := by
        rw [Int.cast_natCast, Nat.abs_cast]
    _ ≤ (2 ^ (1000 + 1) : Nat) := Nat.cast_le.mpr hcount
    _ ≤ 2 ^ 1022 := by
        rw [Nat.cast_pow]
        exact pow_le_pow_right₀ one_le_two (by norm_num)
    _ ≤ 2 ^ 1022 * (max rules.length 1 : Nat) := by
        refine le_mul_of_one_le_right (by positivity) ?_
        exact_mod_cast le_max_right rules.length 1

/-- Rules with fewer than 2^1000 selectors have scores. -/
theorem exists_scores_eq_ok {rules : List Rule} (h : selectorCount rules < 2 ^ 1000)
    (bytes : Int) : ∃ s, scores rules (detectIssues rules) bytes = .ok s := by
  have hforced : 0 ≤ (countOf .important (detectIssues rules) : Int) ∧
      (countOf .important (detectIssues rules) : Int) ≤ declarationCount rules := by
    have := countOf_important_le rules
    omega
  obtain ⟨specificity, hspecificity⟩ := exists_remaining_specificity_eq_ok h
  obtain ⟨duplicates, hduplicates⟩ := exists_remaining_eq_ok_of_le 300 (repeats_bounds rules)
  obtain ⟨important, himportant⟩ := exists_remaining_eq_ok_of_le 500 hforced
  obtain ⟨s, hs, -⟩ :=
    exists_scores_eq_ok_of_remaining bytes hspecificity hduplicates himportant
  exact ⟨s, hs⟩

end SheetAudit

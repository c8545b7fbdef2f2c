import SheetAudit.Proofs.Groups
import SheetAudit.Proofs.Lines
import SheetAudit.Report

/-!
# Where issues come from

Every issue of a report stands at a rule of one of its sheets: the sheet and the line are those of
the rule, and what the issue says is said about that rule.  An issue about a repeated declaration is
about several rules, which may come from different sheets, and stands at the first of them.

## Key results

- `source_of_mem_rules` / `line_of_mem_rules`: sheet and line of a rule
- `standsAt_of_mem_selectorIssues`, `standsAt_of_mem_importantIssues` and
  `standsAt_of_mem_duplicateIssues`: the rule at which an issue stands, for each detector
- `issues_attributable`: the issues of a report
-/

namespace SheetAudit

open Stylesheet

/-! ## Sheet and line of a rule -/

namespace Stylesheet

/-- The rule of a selector and a block carries the name of its sheet. -/
theorem source_of_mem_styleRules {source : String} {line : Nat} {sel body : List Char} {r : Rule}
    (h : r ∈ styleRules source line sel body) : r.source = source := by
  unfold styleRules at h
  split at h
  · simp at h
  · rw [List.mem_singleton.mp h]

/-- The rules of a layout carry the name of its sheet. -/
private theorem source_of_mem_rulesFrom {source : String} {line : Nat} {items : List Item}
    {t : Tail} {r : Rule} (h : r ∈ rulesFrom source line items t) : r.source = source := by
  -- by induction on the items: only style rules have rules
  induction items generalizing line with
  | nil =>
    cases t with
    | block sel body => exact source_of_mem_styleRules h
    | nothing | atHead | atBlock | selector => simp [rulesFrom, Tail.rules] at h
  | cons i items ih =>
    rcases List.mem_append.mp h with h | h
    · cases i with
      | style sel body => exact source_of_mem_styleRules h
      | blank | atRule => simp [Item.rules] at h
    · exact ih h

/-- A rule carries the name of its sheet. -/
theorem source_of_mem_rules {text source : String} {r : Rule} (h : r ∈ rules text source) :
    r.source = source := by
  obtain ⟨l, hl⟩ := exists_layout (stripComments text.toList)
  rw [rules_eq_of_layout hl.valid hl.source_eq] at h
  exact source_of_mem_rulesFrom h

/-- A rule stands on one of the lines of its sheet. -/
theorem line_of_mem_rules {text source : String} {r : Rule} (h : r ∈ rules text source) :
    1 ≤ r.line ∧ r.line ≤ 1 + text.toList.count '\n' := by
  obtain ⟨l, hl⟩ := exists_layout (stripComments text.toList)
  -- the line is given by the line breaks before the rule
  obtain ⟨qs, -, -, hat⟩ := exists_offsets_rulesFrom source hl.valid.1 hl.valid.2 []
  rw [rules_eq_of_layout hl.valid hl.source_eq] at h
  have hline := line_le_of_startsAt hat h
  rwa [List.nil_append, ← Layout.source, hl.source_eq, count_newline_stripComments] at hline

end Stylesheet

/-! ## What an issue says about a rule -/

/-- The place of the detector of a kind of issue among the detectors. -/
def IssueKind.stage : IssueKind → Nat
  | .specificity | .overqualified | .universal => 0
  | .important => 1
  | .duplicate => 2

/-- What an issue says about the rule `r`, which is one of `rules`. -/
def Issue.Concerns (rules : List Rule) (r : Rule) (i : Issue) : Prop :=
  match i.kind with
  | .specificity | .overqualified | .universal => i.selector ∈ r.selectors ∧ i.occurrences = 1
  | .important =>
    i.selector = r.selector ∧ i.occurrences = 1 ∧
      ∃ d ∈ r.declarations, "!important".toList <:+: d.toList ∧
        i.message = "!important used: " ++ String.ofList (d.toList.take 60)
  | .duplicate =>
    ∃ key, i.selector = ", ".intercalate ((ownersOf key rules).map (·.selector)) ∧
      (ownersOf key rules).head? = some r ∧
      i.occurrences = (ownersOf key rules).length ∧ 3 ≤ (ownersOf key rules).length

/-- The issue has sheet and line of the rule `r`, and is about it. -/
structure Issue.StandsAt (rules : List Rule) (i : Issue) (r : Rule) : Prop where
  /-- It names the sheet of the rule. -/
  source_eq : i.source = r.source
  /-- It names the line of the rule. -/
  line_eq : i.line = r.line
  /-- It is about the rule. -/
  concerns : i.Concerns rules r

/-! ## Issues with selectors -/

/-- The issues with one alternative of a selector. -/
theorem eq_ofSelector_of_mem {r : Rule} {selector : String} {i : Issue}
    (h : i ∈ alternativeIssues r selector) :
    ∃ kind severity message hint, kind.stage = 0 ∧
      i = .ofSelector r selector kind severity message hint := by
  simp only [alternativeIssues, List.mem_filterMap, id_eq, exists_eq_right, List.mem_cons,
    List.not_mem_nil, or_false] at h
  -- each of the four checks makes an issue of this form
  rcases h with h | h | h | h
  · simp only [specificityIssue?] at h
    split at h
    · exact ⟨_, _, _, _, rfl, Option.some.inj h⟩
    · split at h
      · exact ⟨_, _, _, _, rfl, Option.some.inj h⟩
      · cases h
  · simp only [overqualifiedIssue?] at h
    split at h
    · exact ⟨_, _, _, _, rfl, Option.some.inj h⟩
    · cases h
  · simp only [universalIssue?] at h
    split at h
    · exact ⟨_, _, _, _, rfl, Option.some.inj h⟩
    · cases h
  · simp only [nestingIssue?] at h
    split at h
    · exact ⟨_, _, _, _, rfl, Option.some.inj h⟩
    · cases h

/-- An issue with a selector stands at the rule with the selector. -/
theorem standsAt_of_mem_selectorIssues {rules : List Rule} {i : Issue}
    (h : i ∈ selectorIssues rules) : i.kind.stage = 0 ∧ ∃ r ∈ rules, i.StandsAt rules r := by
  obtain ⟨r, hr, h⟩ := List.mem_flatMap.mp h
  obtain ⟨selector, hsel, h⟩ := List.mem_flatMap.mp h
  obtain ⟨kind, severity, message, hint, hstage, rfl⟩ := eq_ofSelector_of_mem h
  refine ⟨hstage, r, hr, rfl, rfl, ?_⟩
  cases kind with
  | specificity | overqualified | universal => exact ⟨hsel, rfl⟩
  | important | duplicate => simp [IssueKind.stage] at hstage

/-! ## Issues with forced declarations -/

/-- An issue with a forced declaration stands at the rule with the declaration. -/
theorem standsAt_of_mem_importantIssues {rules : List Rule} {i : Issue}
    (h : i ∈ importantIssues rules) : i.kind.stage = 1 ∧ ∃ r ∈ rules, i.StandsAt rules r := by
  obtain ⟨r, hr, h⟩ := List.mem_flatMap.mp h
  obtain ⟨d, hd, h⟩ := List.mem_filterMap.mp h
  simp only [importantIssue?] at h
  split at h
  · next hforced =>
    have hinfix : "!important".toList <:+: d.toList :=
      (Text.occurs_iff_isInfix (by decide)).mp hforced
    obtain rfl := Option.some.inj h
    exact ⟨rfl, r, hr, rfl, rfl, rfl, rfl, d, hd, hinfix, rfl⟩
  · cases h

/-! ## Issues with repeated declarations -/

/-- The rules that use a key are among the rules. -/
private theorem mem_of_mem_ownersOf {key : String} {rules : List Rule} {r : Rule}
    (h : r ∈ ownersOf key rules) : r ∈ rules := by
  obtain ⟨r', hr', h⟩ := List.mem_flatMap.mp h
  obtain ⟨d, -, rfl⟩ := List.mem_map.mp h
  exact hr'

/-- An issue with a repeated declaration stands at the first rule that uses it. -/
theorem standsAt_of_mem_duplicateIssues {rules : List Rule} {i : Issue}
    (h : i ∈ duplicateIssues rules) : i.kind.stage = 2 ∧ ∃ r ∈ rules, i.StandsAt rules r := by
  obtain ⟨g, hg, h⟩ := List.mem_filterMap.mp h
  have howners := owners_of_mem_declarationGroups hg
  simp only [duplicateIssue?] at h
  split at h
  · cases h
  · next first others hfirst =>
    split at h
    · cases h
    · next huses =>
      -- the first owner in the group is the first one in the rules
      have hmem : first ∈ ownersOf g.key rules := by
        rw [← howners, hfirst]
        exact List.mem_cons_self
      obtain rfl := Option.some.inj h
      refine ⟨rfl, first, mem_of_mem_ownersOf hmem, rfl, rfl, g.key, ?_⟩
      rw [← howners]
      exact ⟨rfl, by rw [hfirst]; rfl, rfl, Nat.le_of_not_lt huses⟩

/-! ## The issues of a report -/

/-- The issues of a report are those of the rules of its sheets, put together. -/
theorem issues_of_audit {sources : List Source} {threshold : Int} {report : Report}
    (h : audit sources threshold = .ok report) :
    report.issues = detectIssues (sources.flatMap Source.rules) := by
  simp only [audit] at h
  split at h
  · cases h
  · split at h
    · cases h
    · obtain rfl := Except.ok.inj h
      simp only [List.flatMap_map]

/-- Every issue stands at a rule. -/
private theorem standsAt_of_mem_detectIssues {rules : List Rule} {i : Issue}
    (h : i ∈ detectIssues rules) :
    ∃ r ∈ rules, i.StandsAt rules r := by
  rcases List.mem_append.mp h with h | h
  · rcases List.mem_append.mp h with h | h
    · exact (standsAt_of_mem_selectorIssues h).2
    · exact (standsAt_of_mem_importantIssues h).2
  · exact (standsAt_of_mem_duplicateIssues h).2

/-- Issues of one stage are in order. -/
private theorem pairwise_stage_of_forall {n : Nat} {issues : List Issue}
    (h : ∀ i ∈ issues, i.kind.stage = n) :
    issues.Pairwise fun i j => i.kind.stage ≤ j.kind.stage :=
  List.pairwise_of_forall_mem_list fun i hi j hj => by rw [h i hi, h j hj]

/-- Issues come in the order of their detectors. -/
theorem pairwise_stage_detectIssues (rules : List Rule) :
    (detectIssues rules).Pairwise fun i j => i.kind.stage ≤ j.kind.stage := by
  -- the detectors run one after the other, and each has one stage
  have h₀ : ∀ i ∈ selectorIssues rules, i.kind.stage = 0 := fun i hi =>
    (standsAt_of_mem_selectorIssues hi).1
  have h₁ : ∀ i ∈ importantIssues rules, i.kind.stage = 1 := fun i hi =>
    (standsAt_of_mem_importantIssues hi).1
  have h₂ : ∀ i ∈ duplicateIssues rules, i.kind.stage = 2 := fun i hi =>
    (standsAt_of_mem_duplicateIssues hi).1
  rw [detectIssues, List.pairwise_append, List.pairwise_append]
  refine ⟨⟨pairwise_stage_of_forall h₀, pairwise_stage_of_forall h₁, fun i hi j hj => ?_⟩,
    pairwise_stage_of_forall h₂, fun i hi j hj => ?_⟩
  · rw [h₀ i hi]
    exact Nat.zero_le _
  · rw [h₂ j hj]
    rcases List.mem_append.mp hi with hi | hi
    · rw [h₀ i hi]
      exact Nat.zero_le _
    · rw [h₁ i hi]
      exact Nat.le_succ 1

/-- Every issue of a report stands at a rule of one of its sheets and on one of the lines of that
    sheet, and says what it says about that rule; the issues with selectors come before those with
    forced declarations, and these before those with repeated declarations. -/
theorem issues_attributable (sources : List Source) (threshold : Int) (report : Report)
    (h : audit sources threshold = .ok report) :
    (∀ i ∈ report.issues, ∃ s ∈ sources, ∃ r ∈ s.rules, s.name = i.source ∧ r.line = i.line ∧
      1 ≤ i.line ∧ i.line ≤ 1 + s.content.toList.count '\n' ∧
      i.Concerns (sources.flatMap Source.rules) r) ∧
    report.issues.Pairwise fun i j => i.kind.stage ≤ j.kind.stage := by
  rw [issues_of_audit h]
  refine ⟨fun i hi => ?_, pairwise_stage_detectIssues _⟩
  obtain ⟨r, hr, hat⟩ := standsAt_of_mem_detectIssues hi
  obtain ⟨s, hs, hr⟩ := List.mem_flatMap.mp hr
  have hline := line_of_mem_rules hr
  rw [← hat.line_eq] at hline
  refine ⟨s, hs, r, hr, ?_, hat.line_eq.symm, hline.1, hline.2, hat.concerns⟩
  rw [hat.source_eq]
  exact (source_of_mem_rules hr).symm

/-- Two sheets of one name, with issues of all detectors and a declaration that is repeated in one
    rule and across the sheets. -/
theorem issues_attributable_same_name :
    ∃ report, audit [⟨"a.css", "#p #q\x7bm:0 !important\x7d\n*\x7bm:0\x7d"⟩,
        ⟨"a.css", "\n\ndiv.c\x7bm:0;m: 0\x7d"⟩] 60 = .ok report ∧
      report.issues.map (fun i => (i.kind, i.line, i.selector, i.occurrences)) =
        [(.specificity, 1, "#p #q", 1), (.universal, 2, "*", 1), (.overqualified, 3, "div.c", 1),
          (.important, 1, "#p #q", 1), (.duplicate, 2, "*, div.c, div.c", 3)] ∧
      (∀ i ∈ report.issues, i.source = "a.css") ∧
      report.issues.Pairwise fun i j => i.kind.stage ≤ j.kind.stage := by
  -- the issues are computed; where they stand follows from the theorem
  have hval : (match audit [⟨"a.css", "#p #q\x7bm:0 !important\x7d\n*\x7bm:0\x7d"⟩,
        ⟨"a.css", "\n\ndiv.c\x7bm:0;m: 0\x7d"⟩] 60 with
      | .ok report => report.issues.map fun i => (i.kind, i.line, i.selector, i.occurrences)
      | .error _ => []) =
        [(.specificity, 1, "#p #q", 1), (.universal, 2, "*", 1), (.overqualified, 3, "div.c", 1),
          (.important, 1, "#p #q", 1), (.duplicate, 2, "*, div.c, div.c", 3)] := by
    decide +kernel
  split at hval
  · next report h =>
    obtain ⟨hall, horder⟩ := issues_attributable _ _ report h
    refine ⟨report, h, hval, fun i hi => ?_, horder⟩
    obtain ⟨s, hs, -, -, hname, -⟩ := hall i hi
    rcases List.mem_pair.mp hs with rfl | rfl
    · exact hname.symm
    · exact hname.symm
  · cases hval

end SheetAudit

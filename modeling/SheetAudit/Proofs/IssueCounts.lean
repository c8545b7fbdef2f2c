import Mathlib.Data.Finset.Card
import SheetAudit.Proofs.SheetOrder

/-!
# The number of issues

How many issues of each severity a report has can be read off the rules: every check fires once for
each selector, declaration or key that it is about, and for no other.  Nothing is counted twice
where a rule lists several alternatives, where one alternative has several faults, or where
declarations are repeated in different sheets.

## Key results

- `countP_selectorIssues_error`, `countP_selectorIssues_warning` and
  `countP_selectorIssues_info`: the issues with selectors
- `countP_importantIssues` / `countP_duplicateIssues`: the issues with declarations
- `audit_counts`: the counts of a report
-/

namespace SheetAudit

open Number
open Selector
open Stylesheet

/-! ## What is counted -/

namespace Stylesheet

/-- The alternatives of the selectors of a list of rules, each with its rule. -/
def alternatives (rules : List Rule) : List (Rule × String) :=
  rules.flatMap fun r => r.selectors.map (r, ·)

/-- The declarations of a list of rules. -/
def allDeclarations (rules : List Rule) : List String :=
  rules.flatMap (·.declarations)

/-- The keys of the declarations of a list of rules. -/
def declarationKeys (rules : List Rule) : List String :=
  (allDeclarations rules).filterMap declarationKey?

/-- The keys that at least three declarations have. -/
def repeatedKeys (rules : List Rule) : Finset String :=
  (declarationKeys rules).toFinset.filter fun k => 3 ≤ (declarationKeys rules).count k

/-- The selectors of rules are counted without being taken apart into alternatives, and are as
many. -/
theorem length_alternatives (rules : List Rule) :
    (alternatives rules).length = selectorCount rules := by
  -- by induction on the rules: each has as many alternatives as its selector has pieces
  induction rules with
  | nil => rfl
  | cons r rules ih =>
    rw [alternatives, List.flatMap_cons, List.length_append, List.length_map, ← alternatives, ih,
      Rule.length_selectors]
    rfl

/-- The alternatives of two lists of rules are put together. -/
theorem alternatives_append (rules others : List Rule) :
    alternatives (rules ++ others) = alternatives rules ++ alternatives others :=
  List.flatMap_append

/-- The keys of declarations are those of the keyed rules. -/
private theorem declarationKeys_eq_map (rules : List Rule) :
    declarationKeys rules = (keyedRules rules).map (·.1) := by
  rw [declarationKeys, allDeclarations, keyedRules, List.filterMap_flatMap, List.map_flatMap]
  simp [Function.comp_def]

end Stylesheet

/-- The issues with selectors are those of the alternatives, one after the other. -/
theorem selectorIssues_eq_flatMap_alternatives (rules : List Rule) :
    selectorIssues rules = (alternatives rules).flatMap fun a => alternativeIssues a.1 a.2 := by
  rw [selectorIssues, alternatives, List.flatMap_assoc]
  simp only [List.flatMap_map]

/-- Counting in what is made of items is counting items twice, if each makes up to two things that
    count. -/
private theorem countP_flatMap_add {ι α : Type} {make : ι → List α} {f : α → Bool} {p q : ι → Bool}
    (h : ∀ i, (make i).countP f = (p i).toNat + (q i).toNat) (items : List ι) :
    (items.flatMap make).countP f = items.countP p + items.countP q := by
  -- by induction on the items, counting both kinds at once
  induction items with
  | nil => rfl
  | cons i items ih =>
    rw [List.flatMap_cons, List.countP_append, h, ih, List.countP_cons, List.countP_cons]
    cases p i <;> cases q i <;> simp <;> omega

/-! ## The issues with one alternative -/

section Alternative

variable (severity : Severity) (r : Rule) (s : String)

/-- The check of the specificity has an error for several identifiers, and a warning for one with
several classes. -/
private theorem countP_specificityIssue? :
    (specificityIssue? r s).toList.countP (·.severity == severity) =
      match severity with
      | .error => (decide (2 ≤ (specificity s.toList).ids)).toNat
      | .warning =>
        (decide ((specificity s.toList).ids = 1 ∧ 2 ≤ (specificity s.toList).classes)).toNat
      | .info => 0 := by
  unfold specificityIssue?
  dsimp only
  split
  -- several identifiers are not one, so the warning is out of question
  · next hhigh =>
    have hone : (specificity s.toList).ids ≠ 1 := by omega
    cases severity <;> simp [Issue.ofSelector, hhigh, hone]
  · next hlow =>
    split
    · next hmoderate =>
      have hone : (specificity s.toList).ids = 1 := by omega
      cases severity <;> simp [Issue.ofSelector, hone, hmoderate.2]
    · next hfine =>
      have hnone : ¬((specificity s.toList).ids = 1 ∧ 2 ≤ (specificity s.toList).classes) :=
        fun h => hfine ⟨h.1.ge, h.2⟩
      cases severity <;> simp [hlow, hnone]

/-- The check for overqualified selectors has a notice exactly for these. -/
private theorem countP_overqualifiedIssue? :
    (overqualifiedIssue? r s).toList.countP (·.severity == severity) =
      match severity with
      | .info => (isOverqualified s.toList).toNat
      | _ => 0 := by
  unfold overqualifiedIssue?
  split <;> cases severity <;> simp_all [Issue.ofSelector]

/-- The check for selectors of everything has a notice exactly for these. -/
private theorem countP_universalIssue? :
    (universalIssue? r s).toList.countP (·.severity == severity) =
      match severity with
      | .info => (isUniversal s.toList).toNat
      | _ => 0 := by
  unfold universalIssue?
  split <;> cases severity <;> simp_all [Issue.ofSelector]

/-- The check of the depth has a warning exactly for a depth above four. -/
private theorem countP_nestingIssue? :
    (nestingIssue? r s).toList.countP (·.severity == severity) =
      match severity with
      | .warning => (decide (4 < nestingDepth s.toList)).toNat
      | _ => 0 := by
  unfold nestingIssue?
  by_cases hdeep : 4 < nestingDepth s.toList
  · cases severity <;> simp [maxNesting, hdeep, Issue.ofSelector]
  · cases severity <;> simp [maxNesting, hdeep]

end Alternative

/-- The issues with one alternative, check by check. -/
private theorem countP_alternativeIssues (severity : Severity) (r : Rule) (s : String) :
    (alternativeIssues r s).countP (·.severity == severity) =
      (specificityIssue? r s).toList.countP (·.severity == severity) +
      (overqualifiedIssue? r s).toList.countP (·.severity == severity) +
      (universalIssue? r s).toList.countP (·.severity == severity) +
      (nestingIssue? r s).toList.countP (·.severity == severity) := by
  simp only [alternativeIssues_eq_append, List.countP_append]

/-! ## The issues with selectors -/

/-- The errors among the issues with selectors: alternatives with several identifiers. -/
theorem countP_selectorIssues_error (rules : List Rule) :
    (selectorIssues rules).countP (·.severity == .error) =
      (alternatives rules).countP fun (_, s) => decide (2 ≤ (specificity s.toList).ids) := by
  rw [selectorIssues_eq_flatMap_alternatives,
    countP_flatMap_add (p := fun a => decide (2 ≤ (specificity a.2.toList).ids))
      (q := fun _ => false)]
  · simp
  · intro a
    rw [countP_alternativeIssues, countP_specificityIssue?, countP_overqualifiedIssue?,
      countP_universalIssue?, countP_nestingIssue?]
    rfl

/-- The warnings among the issues with selectors: alternatives with one identifier and several
classes, and deeply nested ones. -/
theorem countP_selectorIssues_warning (rules : List Rule) :
    (selectorIssues rules).countP (·.severity == .warning) =
      ((alternatives rules).countP fun (_, s) =>
        decide ((specificity s.toList).ids = 1 ∧ 2 ≤ (specificity s.toList).classes)) +
      (alternatives rules).countP fun (_, s) => decide (4 < nestingDepth s.toList) := by
  rw [selectorIssues_eq_flatMap_alternatives, countP_flatMap_add]
  -- for one alternative each of the two checks counts by itself
  intro a
  rw [countP_alternativeIssues, countP_specificityIssue?, countP_overqualifiedIssue?,
    countP_universalIssue?, countP_nestingIssue?]
  rfl

/-- The notices among the issues with selectors: overqualified alternatives, and those that select
everything. -/
theorem countP_selectorIssues_info (rules : List Rule) :
    (selectorIssues rules).countP (·.severity == .info) =
      ((alternatives rules).countP fun (_, s) => isOverqualified s.toList) +
      (alternatives rules).countP fun (_, s) => isUniversal s.toList := by
  rw [selectorIssues_eq_flatMap_alternatives, countP_flatMap_add]
  intro a
  rw [countP_alternativeIssues, countP_specificityIssue?, countP_overqualifiedIssue?,
    countP_universalIssue?, countP_nestingIssue?]
  simp only [Nat.zero_add, Nat.add_zero]

/-! ## The issues with declarations -/

/-- Issues that are all warnings count as such, and not otherwise. -/
private theorem countP_severity_of_forall {severity : Severity} {issues : List Issue}
    (h : ∀ i ∈ issues, i.severity = .warning) :
    issues.countP (·.severity == severity) = if severity = .warning then issues.length else 0 := by
  split
  · next hseverity =>
    rw [List.countP_eq_length]
    intro i hi
    simp [h i hi, hseverity]
  · next hseverity =>
    rw [List.countP_eq_zero]
    intro i hi
    simpa [h i hi] using Ne.symm hseverity

/-- A declaration has an issue exactly if it is forced. -/
private theorem isSome_importantIssue? (r : Rule) (d : String) :
    (importantIssue? r d).isSome = decide ("!important".toList <:+: d.toList) := by
  -- the check looks for the mark anywhere in the declaration
  have hforced : isForced d = decide ("!important".toList <:+: d.toList) := by
    rw [isForced, Bool.eq_iff_iff, Text.occurs_iff_isInfix (by decide), decide_eq_true_iff]
  rw [importantIssue?, ← hforced]
  cases isForced d <;> rfl

/-- Each forced declaration has its warning. -/
theorem countP_importantIssues (severity : Severity) (rules : List Rule) :
    (importantIssues rules).countP (·.severity == severity) =
      if severity = .warning then
        (allDeclarations rules).countP fun d => decide ("!important".toList <:+: d.toList)
      else 0 := by
  -- all of these issues are warnings, so counting them is counting declarations
  have hwarning : ∀ i ∈ importantIssues rules, i.severity = .warning := by
    intro i hi
    simp only [importantIssues, List.mem_flatMap, List.mem_filterMap, importantIssue?] at hi
    obtain ⟨r, -, d, -, hd⟩ := hi
    split at hd
    · rw [← Option.some.inj hd]
    · cases hd
  rw [countP_severity_of_forall hwarning, importantIssues, List.length_flatMap]
  simp only [List.length_filterMap_eq_countP, isSome_importantIssue?, allDeclarations,
    List.countP_flatMap, Function.comp_def]

/-- A group has an issue exactly if its key is used at least three times. -/
theorem isSome_duplicateIssue? (g : DeclarationGroup) :
    (duplicateIssue? g).isSome = decide (3 ≤ g.owners.length) := by
  unfold duplicateIssue?
  split
  · next hnil => simp [hnil]
  · next howners =>
    by_cases hfew : g.owners.length < 3
    · simp [minRepeats, hfew]
    · simp [minRepeats, hfew, not_lt.mp hfew]

/-- Each key that is used at least three times has its warning. -/
theorem countP_duplicateIssues (severity : Severity) (rules : List Rule) :
    (duplicateIssues rules).countP (·.severity == severity) =
      if severity = .warning then (repeatedKeys rules).card else 0 := by
  -- here too all issues are warnings
  have hwarning : ∀ i ∈ duplicateIssues rules, i.severity = .warning := by
    intro i hi
    obtain ⟨g, -, hg⟩ := List.mem_filterMap.mp hi
    unfold duplicateIssue? at hg
    split at hg
    · cases hg
    · dsimp only at hg
      split at hg
      · cases hg
      · rw [← Option.some.inj hg]
  -- the groups are those of the different keys, with as many owners as the key has uses
  let kept := (declarationKeys rules).eraseDups.filter fun k =>
    decide (3 ≤ (declarationKeys rules).count k)
  have hlength : (duplicateIssues rules).length = kept.length := by
    rw [duplicateIssues, List.length_filterMap_eq_countP, declarationGroups_eq, List.countP_map,
      ← List.countP_eq_length_filter]
    simp only [isSome_duplicateIssue?, Function.comp_def, length_ownersOf, declarationKeys_eq_map]
  have hkept : kept.toFinset = repeatedKeys rules := by
    ext k
    simp [kept, repeatedKeys, List.mem_eraseDups]
  rw [countP_severity_of_forall hwarning, hlength, ← hkept,
    List.toFinset_card_of_nodup ((nodup_eraseDups _).filter _)]

/-! ## The counts of a report -/

/-- What the counts of a report are, in terms of the rules of its sheets. -/
structure Report.CountsOf (report : Report) (rules : List Rule) : Prop where
  /-- An error for each alternative with several identifiers. -/
  error_eq : report.countBySeverity .error =
    (alternatives rules).countP fun (_, s) => decide (2 ≤ (specificity s.toList).ids)
  /-- A warning for each alternative with one identifier and several classes, for each that is
      deeply nested, for each forced declaration and for each key that is used at least three times.
      -/
  warning_eq : report.countBySeverity .warning =
    ((alternatives rules).countP fun (_, s) =>
      decide ((specificity s.toList).ids = 1 ∧ 2 ≤ (specificity s.toList).classes)) +
    ((alternatives rules).countP fun (_, s) => decide (4 < nestingDepth s.toList)) +
    ((allDeclarations rules).countP fun d => decide ("!important".toList <:+: d.toList)) +
    (repeatedKeys rules).card
  /-- A notice for each alternative that is overqualified and for each that selects everything. -/
  info_eq : report.countBySeverity .info =
    ((alternatives rules).countP fun (_, s) => isOverqualified s.toList) +
    ((alternatives rules).countP fun (_, s) => isUniversal s.toList)
  /-- Each issue is counted once. -/
  issues_eq : report.countBySeverity .error + report.countBySeverity .warning +
    report.countBySeverity .info = report.issues.length
  /-- The number of selectors is that of the alternatives. -/
  selectors_eq : report.totals.selectors = (alternatives rules).length
  /-- The number of rules. -/
  rules_eq : report.totals.rules = rules.length

/-- The issues of a severity, stage by stage. -/
theorem countP_detectIssues (severity : Severity) (rules : List Rule) :
    (detectIssues rules).countP (·.severity == severity) =
      (selectorIssues rules).countP (·.severity == severity) +
      (importantIssues rules).countP (·.severity == severity) +
      (duplicateIssues rules).countP (·.severity == severity) := by
  rw [detectIssues, List.countP_append, List.countP_append]

/-- Every severity is one of three. -/
theorem Report.sum_countBySeverity (report : Report) :
    report.countBySeverity .error + report.countBySeverity .warning +
      report.countBySeverity .info = report.issues.length := by
  simp only [countBySeverity]
  -- by induction on the issues: each adds one to one of the three counts
  induction report.issues with
  | nil => rfl
  | cons i issues ih =>
    simp only [List.countP_cons, List.length_cons, ← ih]
    cases i.severity <;> simp <;> omega

/-- The counts of the sheets add up to those of all rules together. -/
theorem totals_ofFiles (sources : List Source) :
    (Totals.ofFiles (sources.map fun s => FileStats.of s s.rules)).rules =
      (sources.flatMap Source.rules).length ∧
    (Totals.ofFiles (sources.map fun s => FileStats.of s s.rules)).selectors =
      (alternatives (sources.flatMap Source.rules)).length := by
  -- by induction on the sheets, as the totals are sums over them
  induction sources with
  | nil => exact ⟨rfl, rfl⟩
  | cons s sources ih =>
    obtain ⟨hrules, hselectors⟩ := ih
    simp only [Totals.ofFiles, List.map_cons, List.foldr_cons] at hrules hselectors ⊢
    rw [hrules, hselectors, List.flatMap_cons, alternatives_append, List.length_append,
      List.length_append, length_alternatives s.rules, Nat.cast_add, Nat.cast_add]
    exact ⟨rfl, rfl⟩

/-- The report of an audit counts what the rules of its sheets hold.  Only sheets with at least
    2^1000 selectors may have no report, since their scores are beyond the range of the numbers. -/
theorem audit_counts (sources : List Source) (threshold : Int) (hne : sources ≠ []) :
    (∃ report, audit sources threshold = .ok report ∧
      report.CountsOf (sources.flatMap Source.rules)) ∨
    2 ^ 1000 ≤ (alternatives (sources.flatMap Source.rules)).length ∧
      ∃ e, audit sources threshold = .error (.number e) := by
  rw [length_alternatives]
  -- a report has the counts of its issues; without one there are too many selectors
  rcases audit_cases hne threshold with ⟨scores, h⟩ | hlarge
  · refine .inl ⟨_, h, ?_⟩
    obtain ⟨hrules, hselectors⟩ := totals_ofFiles sources
    refine ⟨?_, ?_, ?_, Report.sum_countBySeverity _, hselectors, hrules⟩
    · rw [Report.countBySeverity, countP_detectIssues, countP_selectorIssues_error,
        countP_importantIssues, countP_duplicateIssues]
      rfl
    · rw [Report.countBySeverity, countP_detectIssues, countP_selectorIssues_warning,
        countP_importantIssues, countP_duplicateIssues]
      rfl
    · rw [Report.countBySeverity, countP_detectIssues, countP_selectorIssues_info,
        countP_importantIssues, countP_duplicateIssues]
      rfl
  · exact .inr hlarge

/-- Two sheets that share a declaration, with alternatives of which one is empty. -/
theorem audit_counts_two_sheets :
    ∃ report,
      audit [⟨"a.css", "#p#q, div.x,\x7bm:0;m: 0\x7d"⟩,
        ⟨"b.css", "#i.a.b,*\x7bm :0;c:1!important\x7d"⟩] 60 = .ok report ∧
      (report.countBySeverity .error, report.countBySeverity .warning,
        report.countBySeverity .info) = (1, 3, 2) ∧
      report.CountsOf
        [⟨"#p#q, div.x,", ["m:0", "m: 0"], 1, "a.css"⟩,
          ⟨"#i.a.b,*", ["m :0", "c:1!important"], 1, "b.css"⟩] := by
  have hrules : List.flatMap Source.rules
      [⟨"a.css", "#p#q, div.x,\x7bm:0;m: 0\x7d"⟩,
        ⟨"b.css", "#i.a.b,*\x7bm :0;c:1!important\x7d"⟩] =
        [⟨"#p#q, div.x,", ["m:0", "m: 0"], 1, "a.css"⟩,
          ⟨"#i.a.b,*", ["m :0", "c:1!important"], 1, "b.css"⟩] := by
    decide +kernel
  have hcounts : (audit [⟨"a.css", "#p#q, div.x,\x7bm:0;m: 0\x7d"⟩,
      ⟨"b.css", "#i.a.b,*\x7bm :0;c:1!important\x7d"⟩] 60).map (fun report =>
        (report.countBySeverity .error, report.countBySeverity .warning,
          report.countBySeverity .info)) = .ok (1, 3, 2) := by
    decide +kernel
  -- the counts are computed for both sheets together, and the report has them by the theorem
  rcases audit_counts [⟨"a.css", "#p#q, div.x,\x7bm:0;m: 0\x7d"⟩,
    ⟨"b.css", "#i.a.b,*\x7bm :0;c:1!important\x7d"⟩] 60 (by simp)
    with ⟨report, h, hreport⟩ | ⟨-, e, h⟩
  · rw [h] at hcounts
    rw [hrules] at hreport
    exact ⟨report, h, Except.ok.inj hcounts, hreport⟩
  · rw [h] at hcounts
    cases hcounts

end SheetAudit

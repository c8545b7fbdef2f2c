import Mathlib.Data.List.Perm.Basic
import SheetAudit.Proofs.Scoring

/-!
# The order of the sheets

The sheets of an audit come in some order, and groups of equal declarations are filed in that order
across all of them.  So the place of an issue about a repeated declaration, and the selectors that
it lists, may change when the sheets change places.  Nothing else does.

## Key results

- `eraseDups_perm`: the same keys appear, perhaps in another order
- `unordered_duplicateIssues_perm` / `unordered_detectIssues_perm`: the same issues are found, but
  for the places of those with repeated declarations
- `scores_congr`: what the scores depend on
- `audit_perm`: the two reports
-/

namespace SheetAudit

open Stylesheet

/-! ## Issues apart from the order of the sheets -/

/-- What an issue says whatever the order of the sheets: all of it, but for an issue with a repeated
    declaration neither the place nor the selectors. -/
def Issue.unordered (i : Issue) : Issue :=
  if i.kind = .duplicate then { i with selector := "", source := "", line := 0 } else i

namespace Issue

/-- The kind of an issue does not depend on the order. -/
@[simp] theorem kind_unordered (i : Issue) : i.unordered.kind = i.kind := by
  unfold unordered; split <;> rfl

/-- The severity of an issue does not depend on the order. -/
@[simp] theorem severity_unordered (i : Issue) : i.unordered.severity = i.severity := by
  unfold unordered; split <;> rfl

/-- The message of an issue does not depend on the order. -/
@[simp] theorem message_unordered (i : Issue) : i.unordered.message = i.message := by
  unfold unordered; split <;> rfl

/-- The number of places of an issue does not depend on the order. -/
@[simp] theorem occurrences_unordered (i : Issue) : i.unordered.occurrences = i.occurrences := by
  unfold unordered; split <;> rfl

/-- An issue without a repeated declaration does not depend on the order at all. -/
private theorem unordered_of_ne {i : Issue} (h : i.kind ≠ .duplicate) : i.unordered = i :=
  if_neg h

end Issue

/-! ## Groups of declarations -/

namespace Stylesheet

/-- Rules in another order use the same keys. -/
theorem keyedRules_perm {rules rules' : List Rule} (h : rules.Perm rules') :
    (keyedRules rules).Perm (keyedRules rules') :=
  h.flatMap_right _

/-- Rules in another order use a key as often. -/
theorem ownersOf_perm (key : String) {rules rules' : List Rule} (h : rules.Perm rules') :
    (ownersOf key rules).Perm (ownersOf key rules') :=
  h.flatMap_right _

/-- Keys that come in another order are the same keys. -/
theorem eraseDups_perm {keys keys' : List String} (h : keys.Perm keys') :
    keys.eraseDups.Perm keys'.eraseDups := by
  -- both lists have each key once, so they are compared by their members
  refine (List.perm_ext_iff_of_nodup (nodup_eraseDups keys) (nodup_eraseDups keys')).mpr fun k => ?_
  rw [List.mem_eraseDups, List.mem_eraseDups, h.mem_iff]

end Stylesheet

/-! ## Issues of rules in another order -/

/-- Apart from the order of the sheets, the issue with a group says its key and its size. -/
private theorem unordered_duplicateIssue? (key : String) {owners owners' : List Rule}
    (h : owners.length = owners'.length) :
    (duplicateIssue? ⟨key, owners⟩).map Issue.unordered =
      (duplicateIssue? ⟨key, owners'⟩).map Issue.unordered := by
  -- both groups are empty or both have a first owner
  match owners, owners' with
  | [], [] => rfl
  | first :: others, first' :: others' =>
    simp only [duplicateIssue?, h]
    split
    · rfl
    · simp [Issue.unordered]

/-- Apart from the order, the issues with repeated declarations are given by their keys and
sizes. -/
theorem unordered_duplicateIssues (rules : List Rule) :
    (duplicateIssues rules).map Issue.unordered =
      ((keyedRules rules).map (·.1)).eraseDups.filterMap fun k =>
        (duplicateIssue? ⟨k, ownersOf k rules⟩).map Issue.unordered := by
  rw [duplicateIssues, declarationGroups_eq, List.map_filterMap, List.filterMap_map]
  rfl

/-- Rules in another order have the same issues with repeated declarations, but for their places. -/
theorem unordered_duplicateIssues_perm {rules rules' : List Rule} (h : rules.Perm rules') :
    ((duplicateIssues rules).map Issue.unordered).Perm
      ((duplicateIssues rules').map Issue.unordered) := by
  -- a group may have another first owner, but it has as many owners
  have hsize : ∀ k, (ownersOf k rules).length = (ownersOf k rules').length := fun k =>
    (ownersOf_perm k h).length_eq
  rw [unordered_duplicateIssues, unordered_duplicateIssues,
    funext fun k => unordered_duplicateIssue? k (hsize k)]
  exact (eraseDups_perm ((keyedRules_perm h).map _)).filterMap _

/-- Rules in another order have the same issues, but for the places of those with repeated
    declarations. -/
theorem unordered_detectIssues_perm {rules rules' : List Rule} (h : rules.Perm rules') :
    ((detectIssues rules).map Issue.unordered).Perm
      ((detectIssues rules').map Issue.unordered) := by
  -- the first two stages go from rule to rule
  have hselectors : (selectorIssues rules).Perm (selectorIssues rules') := h.flatMap_right _
  have himportant : (importantIssues rules).Perm (importantIssues rules') := h.flatMap_right _
  simp only [detectIssues, List.map_append]
  exact ((hselectors.map _).append (himportant.map _)).append (unordered_duplicateIssues_perm h)

/-! ## What is counted in issues -/

section Counts

variable {issues issues' : List Issue}

/-- A count that looks at nothing that depends on the order is the same for both. -/
private theorem countP_eq_of_unordered_perm
    (h : (issues.map Issue.unordered).Perm (issues'.map Issue.unordered)) {p : Issue → Bool}
    (hp : ∀ i, p i.unordered = p i) : issues.countP p = issues'.countP p := by
  have hcount := h.countP_eq p
  simpa only [List.countP_map, Function.comp_def, hp] using hcount

/-- The issues with repeated declarations, as far as they do not depend on the order. -/
private theorem map_filter_duplicate {α : Type} {f : Issue → α} (hf : ∀ i, f i.unordered = f i)
    (issues : List Issue) :
    ((issues.map Issue.unordered).filter (·.kind == .duplicate)).map f =
      (issues.filter (·.kind == .duplicate)).map f := by
  rw [List.filter_map, List.map_map]
  simp only [Function.comp_def, Issue.kind_unordered, hf]

/-- All other issues do not depend on the order at all. -/
private theorem filter_not_duplicate (issues : List Issue) :
    (issues.map Issue.unordered).filter (·.kind != .duplicate) =
      issues.filter (·.kind != .duplicate) := by
  rw [List.filter_map]
  simp only [Function.comp_def, Issue.kind_unordered]
  rw [List.map_congr_left (g := id), List.map_id]
  -- an issue of another kind is left as it is
  intro i hi
  have hkind : i.kind ≠ .duplicate := bne_iff_ne.mp (List.mem_filter.mp hi).2
  exact Issue.unordered_of_ne hkind

variable (h : (issues.map Issue.unordered).Perm (issues'.map Issue.unordered))
include h

/-- The counts of a kind do not depend on the order. -/
private theorem countOf_eq_of_unordered_perm (kind : IssueKind) :
    Score.countOf kind issues = Score.countOf kind issues' :=
  countP_eq_of_unordered_perm h fun i => by rw [Issue.kind_unordered]

/-- The repeats do not depend on the order. -/
private theorem repeats_eq_of_unordered_perm : Score.repeats issues = Score.repeats issues' := by
  have hf : ∀ i : Issue, i.unordered.occurrences - 1 = i.occurrences - 1 := fun i => by
    rw [Issue.occurrences_unordered]
  rw [Score.repeats, Score.repeats, ← map_filter_duplicate hf issues,
    ← map_filter_duplicate hf issues']
  exact ((h.filter _).map _).foldr_eq 0

end Counts

/-! ## Scores and totals -/

/-- The scores depend on the rules and their issues only through five counts. -/
theorem scores_congr {rules rules' : List Rule} {issues issues' : List Issue} (bytes : Int)
    (hrules : rules.length = rules'.length)
    (hdeclarations : Score.declarationCount rules = Score.declarationCount rules')
    (hspecificity : Score.countOf .specificity issues = Score.countOf .specificity issues')
    (himportant : Score.countOf .important issues = Score.countOf .important issues')
    (hrepeats : Score.repeats issues = Score.repeats issues') :
    Score.scores rules issues bytes = Score.scores rules' issues' bytes := by
  simp only [Score.scores, hrules, hdeclarations, hspecificity, himportant, hrepeats]

/-- Rules in another order have the same scores. -/
theorem scores_detectIssues_perm {rules rules' : List Rule} (h : rules.Perm rules') (bytes : Int) :
    Score.scores rules (detectIssues rules) bytes =
      Score.scores rules' (detectIssues rules') bytes := by
  have hissues := unordered_detectIssues_perm h
  have hdeclarations : Score.declarationCount rules = Score.declarationCount rules' :=
    (h.map _).foldr_eq 0
  exact scores_congr bytes h.length_eq hdeclarations (countOf_eq_of_unordered_perm hissues _)
    (countOf_eq_of_unordered_perm hissues _) (repeats_eq_of_unordered_perm hissues)

/-- Sheets in another order have the same sums. -/
theorem totals_perm {files files' : List FileStats} (h : files.Perm files') :
    Totals.ofFiles files = Totals.ofFiles files' := by
  simp only [Totals.ofFiles, Totals.mk.injEq]
  exact ⟨(h.map _).foldr_eq 0, (h.map _).foldr_eq 0, (h.map _).foldr_eq 0⟩

/-! ## Reports -/

/-- Two reports say the same, but for the order of sheets and issues and the places of issues with
    repeated declarations. -/
structure Report.SameUpToOrder (r r' : Report) : Prop where
  /-- The sums are the same. -/
  totals_eq : r.totals = r'.totals
  /-- The five scores are the same. -/
  scores_eq : r.scores = r'.scores
  /-- Both pass or neither does. -/
  passed_eq : r.passed = r'.passed
  /-- The threshold is the same. -/
  threshold_eq : r.verdict.threshold = r'.verdict.threshold
  /-- The summary is the same. -/
  summary_eq : r.summary = r'.summary
  /-- Each severity has the same number of issues. -/
  countBySeverity_eq : ∀ severity, r.countBySeverity severity = r'.countBySeverity severity
  /-- The sheets are the same. -/
  files_perm : r.files.Perm r'.files
  /-- The issues with selectors and with forced declarations are the same. -/
  placed_perm : (r.issues.filter (·.kind != .duplicate)).Perm
    (r'.issues.filter (·.kind != .duplicate))
  /-- The issues with repeated declarations have the same messages and numbers of places. -/
  repeated_perm :
    ((r.issues.filter (·.kind == .duplicate)).map fun i => (i.message, i.occurrences)).Perm
      ((r'.issues.filter (·.kind == .duplicate)).map fun i => (i.message, i.occurrences))

/-- The audit of some sheets, step by step. -/
theorem audit_eq {sources : List Source} (hne : sources ≠ []) (threshold : Int) :
    audit sources threshold =
      match Score.scores (sources.flatMap Source.rules)
          (detectIssues (sources.flatMap Source.rules))
          (Totals.ofFiles (sources.map fun s => FileStats.of s s.rules)).size with
      | .error e => .error (.number e)
      | .ok scores =>
        .ok { files := sources.map fun s => FileStats.of s s.rules,
              totals := Totals.ofFiles (sources.map fun s => FileStats.of s s.rules),
              scores, verdict := ⟨scores.overall, threshold⟩,
              issues := detectIssues (sources.flatMap Source.rules) } := by
  simp only [audit, List.isEmpty_iff, hne, if_false, List.map_map, List.flatMap_map]
  rfl

/-- The audit of some sheets has a report, unless they have so many selectors that no score can be
    computed. -/
theorem audit_cases {sources : List Source} (hne : sources ≠ []) (threshold : Int) :
    (∃ scores, audit sources threshold =
      .ok { files := sources.map fun s => FileStats.of s s.rules,
            totals := Totals.ofFiles (sources.map fun s => FileStats.of s s.rules),
            scores, verdict := ⟨scores.overall, threshold⟩,
            issues := detectIssues (sources.flatMap Source.rules) }) ∨
    2 ^ 1000 ≤ selectorCount (sources.flatMap Source.rules) ∧
      ∃ e, audit sources threshold = .error (.number e) := by
  rw [audit_eq hne]
  split
  · next e herror =>
    refine .inr ⟨?_, e, rfl⟩
    -- with fewer selectors there would be scores
    by_contra hfew
    obtain ⟨s, hs⟩ := exists_scores_eq_ok (not_le.mp hfew) _
    rw [hs] at herror
    cases herror
  · next scores _ => exact .inl ⟨scores, rfl⟩

/-- The audit of the same sheets in another order: both have a report, and the reports say the same
    but for the order.  Only sheets with at least 2^1000 selectors may have none, and then the other
    order has none for the same reason. -/
theorem audit_perm (sources sources' : List Source) (threshold : Int) (hne : sources ≠ [])
    (h : sources.Perm sources') :
    (∃ report report', audit sources threshold = .ok report ∧
      audit sources' threshold = .ok report' ∧ report.SameUpToOrder report') ∨
    2 ^ 1000 ≤ selectorCount (sources.flatMap Source.rules) ∧
      ∃ e, audit sources threshold = .error (.number e) ∧
        audit sources' threshold = .error (.number e) := by
  have hne' : sources' ≠ [] := fun hnil => hne (List.perm_nil.mp (hnil ▸ h))
  have hfiles := h.map fun s => FileStats.of s s.rules
  have hrules : (sources.flatMap Source.rules).Perm (sources'.flatMap Source.rules) :=
    h.flatMap_right _
  -- all that differs is in the issues with repeated declarations
  have hissues := unordered_detectIssues_perm hrules
  have hselectors : selectorCount (sources.flatMap Source.rules) =
      selectorCount (sources'.flatMap Source.rules) := (hrules.map _).foldr_eq 0
  rw [audit_eq hne, audit_eq hne', scores_detectIssues_perm hrules, totals_perm hfiles, hselectors]
  split
  · next e herror =>
    refine .inr ⟨?_, e, rfl, rfl⟩
    -- with fewer selectors there are scores, in either order
    by_contra hfew
    obtain ⟨s, hs⟩ := exists_scores_eq_ok (not_le.mp hfew) _
    rw [hs] at herror
    cases herror
  · next scores _ =>
    refine .inl ⟨_, _, rfl, rfl, ?_⟩
    refine ⟨rfl, rfl, rfl, rfl, rfl, fun severity => ?_, hfiles, ?_, ?_⟩
    · exact countP_eq_of_unordered_perm hissues fun i => by rw [Issue.severity_unordered]
    · -- issues of other kinds are compared as they are, those with repeats by what is left of them
      rw [← filter_not_duplicate, ← filter_not_duplicate (detectIssues (sources'.flatMap _))]
      exact hissues.filter _
    · have hf : ∀ i : Issue, (i.unordered.message, i.unordered.occurrences) =
          (i.message, i.occurrences) := fun i => by simp
      rw [← map_filter_duplicate hf, ← map_filter_duplicate hf (detectIssues (sources'.flatMap _))]
      exact (hissues.filter _).map _

/-- Two sheets that share a declaration: when they change places, the issue with it moves from the
    one to the other. -/
theorem audit_perm_swap :
    ∃ report report',
      audit [⟨"a.css", "#p #q\x7bm:0;m: 0\x7d"⟩, ⟨"b.css", "*\x7bm:0\x7d"⟩] 60 = .ok report ∧
      audit [⟨"b.css", "*\x7bm:0\x7d"⟩, ⟨"a.css", "#p #q\x7bm:0;m: 0\x7d"⟩] 60 = .ok report' ∧
      report.issues.map (fun i => (i.kind, i.source, i.selector)) =
        [(.specificity, "a.css", "#p #q"), (.universal, "b.css", "*"),
          (.duplicate, "a.css", "#p #q, #p #q, *")] ∧
      report'.issues.map (fun i => (i.kind, i.source, i.selector)) =
        [(.universal, "b.css", "*"), (.specificity, "a.css", "#p #q"),
          (.duplicate, "b.css", "*, #p #q, #p #q")] ∧
      report.SameUpToOrder report' := by
  -- both audits are computed, and the general theorem says that they agree
  have hval : (match audit [⟨"a.css", "#p #q\x7bm:0;m: 0\x7d"⟩, ⟨"b.css", "*\x7bm:0\x7d"⟩] 60,
        audit [⟨"b.css", "*\x7bm:0\x7d"⟩, ⟨"a.css", "#p #q\x7bm:0;m: 0\x7d"⟩] 60 with
      | .ok report, .ok report' =>
        (report.issues.map fun i => (i.kind, i.source, i.selector),
          report'.issues.map fun i => (i.kind, i.source, i.selector))
      | _, _ => ([], [])) =
        ([(.specificity, "a.css", "#p #q"), (.universal, "b.css", "*"),
          (.duplicate, "a.css", "#p #q, #p #q, *")],
        [(.universal, "b.css", "*"), (.specificity, "a.css", "#p #q"),
          (.duplicate, "b.css", "*, #p #q, #p #q")]) := by
    decide +kernel
  rcases audit_perm [⟨"a.css", "#p #q\x7bm:0;m: 0\x7d"⟩, ⟨"b.css", "*\x7bm:0\x7d"⟩] _ 60 (by simp)
    (List.Perm.swap _ _ _) with ⟨report, report', h, h', hsame⟩ | ⟨-, e, h, -⟩
  · rw [h, h'] at hval
    obtain ⟨hissues, hissues'⟩ := Prod.mk.inj hval
    exact ⟨report, report', h, h', hissues, hissues', hsame⟩
  · rw [h] at hval
    cases hval

end SheetAudit

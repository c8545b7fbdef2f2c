import SheetAudit.Proofs.Numerals
import SheetAudit.Report

/-!
# Reports as JSON values

The JSON form of a report keeps everything.  Most fields are there as they are, and the names of
categories and severities are all different.  Only the overall score of the verdict has no field of
its own: it is in the sentence about the verdict, where the text of a number ends before the slash,
so that it is read back whatever it is.

## Key results

- `Verdict.ofSummary?_summary`: a verdict is read back from its sentence
- `FileStats.toJson_injective` / `Issue.toJson_injective` / `Scores.toJson_injective`: the records
  of a report
- `Report.toJson_faithful`: a report is determined by its JSON form
-/

namespace SheetAudit

/-! ## The sentence about a verdict -/

namespace Verdict

open Text

/-- The verdict that a sentence is about: its two numbers are behind the opening words and behind
    the words in brackets. -/
def ofSummary? (sentence : String) : Option Verdict := do
  let (overall, rest) ← readBefore? '/' (sentence.toList.drop "PASS: Overall score ".length)
  let (threshold, _) ← readBefore? ')' (rest.drop "100 (threshold: ".length)
  return ⟨overall, threshold⟩

/-- The sentence about a verdict: the word for it, its score before a slash, and its threshold
before a bracket. -/
theorem toList_summary (v : Verdict) :
    v.summary.toList =
      (v.status ++ ": Overall score ").toList ++ ((toString v.overall).toList ++
        '/' :: ("100 (threshold: ".toList ++ ((toString v.threshold).toList ++ [')']))) := by
  simp [summary, toString]

/-- Both words for a verdict have four letters. -/
private theorem length_opening (v : Verdict) :
    (v.status ++ ": Overall score ").toList.length = "PASS: Overall score ".length := by
  unfold status
  split <;> decide

/-- A verdict is read back from its sentence. -/
theorem ofSummary?_summary (v : Verdict) : ofSummary? v.summary = some v := by
  -- the first number ends at the slash, and what follows it is known up to the second
  have hwords : ("100 (threshold: ".toList ++ ((toString v.threshold).toList ++ [')'])).drop
      "100 (threshold: ".length = (toString v.threshold).toList ++ [')'] := List.drop_left' rfl
  rw [ofSummary?, toList_summary, List.drop_left' (length_opening v),
    readBefore?_append (by decide) (by decide)]
  simp only [Option.bind_eq_bind, Option.bind_some, hwords]
  rw [readBefore?_append (by decide) (by decide)]
  rfl

end Verdict

/-! ## The records of a report -/

/-- A severity is read back from its name. -/
theorem Severity.ofName?_name (severity : Severity) :
    Severity.ofName? severity.name = some severity := by
  cases severity <;> rfl

/-- A category is read back from its name. -/
theorem IssueKind.ofName?_name (kind : IssueKind) : IssueKind.ofName? kind.name = some kind := by
  cases kind <;> rfl

/-- Severities have different names. -/
theorem Severity.name_injective : Function.Injective Severity.name := by
  intro a b h
  exact Option.some.inj (a.ofName?_name ▸ h ▸ b.ofName?_name)

/-- Categories have different names. -/
theorem IssueKind.name_injective : Function.Injective IssueKind.name := by
  intro a b h
  exact Option.some.inj (a.ofName?_name ▸ h ▸ b.ofName?_name)

/-- A sheet is determined by its JSON form. -/
theorem FileStats.toJson_injective : Function.Injective FileStats.toJson := by
  rintro ⟨name, size, rules, selectors⟩ ⟨name', size', rules', selectors'⟩ h
  simpa [FileStats.toJson] using h

/-- Scores are determined by their JSON form. -/
theorem Scores.toJson_injective : Function.Injective Scores.toJson := by
  rintro ⟨overall, specificity, duplicates, important, fileSize⟩
    ⟨overall', specificity', duplicates', important', fileSize'⟩ h
  simpa [Scores.toJson] using h

/-- A hint is a text, and that there is none is not one. -/
theorem hint_injective : Function.Injective fun hint : Option String =>
    (hint.map Json.str).getD .null := by
  intro a b h
  -- a text is not the value for no hint
  cases a <;> cases b <;> simp_all

/-- An issue is determined by its JSON form. -/
theorem Issue.toJson_injective : Function.Injective Issue.toJson := by
  rintro ⟨kind, severity, message, selector, source, line, hint, occurrences⟩
    ⟨kind', severity', message', selector', source', line', hint', occurrences'⟩ h
  simpa [Issue.toJson, IssueKind.name_injective.eq_iff, Severity.name_injective.eq_iff,
    hint_injective.eq_iff, Int.natCast_inj] using h

/-! ## Reports -/

namespace Json

/-- A field of an object. -/
def field? (key : String) : Json → Option Json
  | .obj fields => fields.lookup key
  | _ => none

/-- The verdict that the summary of a report is about. -/
def verdict? (report : Json) : Option Verdict :=
  match report.field? "summary" with
  | some (.str sentence) => Verdict.ofSummary? sentence
  | _ => none

end Json

/-- The verdict of a report is read back from its JSON form. -/
theorem Report.verdict?_toJson (r : Report) : r.toJson.verdict? = some r.verdict :=
  r.verdict.ofSummary?_summary

/-- A report is determined by its JSON form. -/
theorem Report.toJson_injective : Function.Injective Report.toJson := by
  intro r r' h
  -- the verdict has no field of its own, so it is read back first
  have hverdict : r.verdict = r'.verdict :=
    Option.some.inj (r.verdict?_toJson ▸ h ▸ r'.verdict?_toJson)
  rcases r with ⟨files, ⟨size, rules, selectors⟩, scores, verdict, issues⟩
  rcases r' with ⟨files', ⟨size', rules', selectors'⟩, scores', verdict', issues'⟩
  obtain rfl : verdict = verdict' := hverdict
  -- the other fields are compared one by one
  simp only [Report.toJson, Json.obj.injEq, List.cons.injEq, Prod.mk.injEq, Json.arr.injEq,
    Json.int.injEq, true_and, and_true,
    (List.map_injective_iff.mpr FileStats.toJson_injective).eq_iff,
    (List.map_injective_iff.mpr Issue.toJson_injective).eq_iff, Scores.toJson_injective.eq_iff] at h
  obtain ⟨rfl, rfl, rfl, rfl, rfl, rfl, -⟩ := h
  rfl

/-- The JSON form of a report determines the report; and the verdict, whose overall score has no
    field of its own and need not be the one among the scores, is read back from the summary. -/
theorem Report.toJson_faithful (r r' : Report) :
    (r.toJson = r'.toJson ↔ r = r') ∧ r.toJson.verdict? = some r.verdict :=
  ⟨Report.toJson_injective.eq_iff, r.verdict?_toJson⟩

end SheetAudit

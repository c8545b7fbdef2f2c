import SheetAudit.Issue.Detection
import SheetAudit.Json
import SheetAudit.Score
import SheetAudit.Stylesheet.Scanner

/-!
# Audit reports

An audit extracts the rules of all sheets, detects the issues of the rules together and scores them.
`Report.toJson` is the whole of a report as a JSON value.
-/

namespace SheetAudit

open Number
open Stylesheet (Source Rule selectorCount)

/-- What was counted in one sheet. -/
structure FileStats where
  /-- The name of the sheet. -/
  name : String
  /-- Its size in bytes. -/
  size : Int
  /-- The number of its rules. -/
  rules : Int
  /-- The number of its selectors. -/
  selectors : Int
  deriving DecidableEq, Repr

/-- What was counted in all sheets together. -/
structure Totals where
  /-- The size in bytes. -/
  size : Int
  /-- The number of rules. -/
  rules : Int
  /-- The number of selectors. -/
  selectors : Int
  deriving DecidableEq, Repr

/-- The result of an audit. -/
structure Report where
  /-- The sheets, in order. -/
  files : List FileStats
  /-- The sums over the sheets. -/
  totals : Totals
  /-- The scores. -/
  scores : Scores
  /-- The overall score against the threshold. -/
  verdict : Verdict
  /-- The issues, in order of detection. -/
  issues : List Issue
  deriving DecidableEq, Repr

/-- Why an audit has no report. -/
inductive AuditError where
  /-- There is no sheet to look at. -/
  | noSheets
  /-- A count is beyond what the scores can be computed with. -/
  | number (e : NumberError)
  deriving DecidableEq, Repr

/-- What an error says. -/
def AuditError.message : AuditError → String
  | .noSheets => "No CSS files found"
  | .number e => e.message

/-- What is counted in a sheet with the given rules. -/
def FileStats.of (s : Source) (rules : List Rule) : FileStats :=
  { name := s.name, size := s.content.utf8ByteSize, rules := rules.length,
    selectors := selectorCount rules }

/-- The sums over a list of sheets. -/
def Totals.ofFiles (files : List FileStats) : Totals :=
  { size := (files.map (·.size)).foldr (· + ·) 0, rules := (files.map (·.rules)).foldr (· + ·) 0,
    selectors := (files.map (·.selectors)).foldr (· + ·) 0 }

/-- The audit of named sheets against a threshold. -/
def audit (sources : List Source) (threshold : Int) : Except AuditError Report :=
  if sources.isEmpty then .error .noSheets
  else
    let sheets := sources.map fun s => (s, s.rules)
    let files := sheets.map fun (s, rules) => FileStats.of s rules
    let totals := Totals.ofFiles files
    let rules := sheets.flatMap (·.2)
    let issues := detectIssues rules
    match Score.scores rules issues totals.size with
    | .error e => .error (.number e)
    | .ok scores => .ok { files, totals, scores, verdict := ⟨scores.overall, threshold⟩, issues }

namespace Report

/-- Whether the audit passes. -/
def passed (r : Report) : Bool :=
  r.verdict.passed

/-- The verdict in one sentence. -/
def summary (r : Report) : String :=
  r.verdict.summary

/-- The number of issues of a severity. -/
def countBySeverity (r : Report) (severity : Severity) : Nat :=
  r.issues.countP (·.severity == severity)

end Report

/-- The statistics of a sheet as a JSON value. -/
def FileStats.toJson (f : FileStats) : Json :=
  .obj [("name", .str f.name), ("size", .int f.size), ("rules", .int f.rules),
    ("selectors", .int f.selectors)]

/-- An issue as a JSON value. -/
def Issue.toJson (i : Issue) : Json :=
  .obj [("type", .str i.kind.name), ("severity", .str i.severity.name), ("message", .str i.message),
    ("selector", .str i.selector), ("file", .str i.source), ("line", .int i.line),
    ("hint", (i.hint.map Json.str).getD .null), ("occurrences", .int i.occurrences)]

/-- Scores as a JSON value. -/
def Scores.toJson (s : Scores) : Json :=
  .obj [("overall", .int s.overall), ("specificity", .int s.specificity),
    ("duplicates", .int s.duplicates), ("important", .int s.important),
    ("fileSize", .int s.fileSize)]

/-- A report as a JSON value. -/
def Report.toJson (r : Report) : Json :=
  .obj [("files", .arr (r.files.map FileStats.toJson)), ("totalSize", .int r.totals.size),
    ("totalRules", .int r.totals.rules), ("totalSelectors", .int r.totals.selectors),
    ("issues", .arr (r.issues.map Issue.toJson)), ("scores", r.scores.toJson),
    ("passed", .bool r.passed), ("threshold", .int r.verdict.threshold),
    ("summary", .str r.summary)]

end SheetAudit

import SheetAudit.Console.Amount
import SheetAudit.Console.Bar
import SheetAudit.Console.Writing
import SheetAudit.Report

/-!
# The report for readers

The text of a report on a console: the sheets, the totals, a table of scores, the issues and the
verdict.  Without `verbose` only the first issues are shown, and no hints.  The name of a sheet is
read as markup; messages and selectors are shown as they are.
-/

namespace SheetAudit.Console

open SheetAudit.Text
open Number

/-- The number of issues shown without `verbose`. -/
def topIssues : Nat := 15

/-- The number of characters of a selector that are shown. -/
def selectorExcerpt : Nat := 60

/-- The text of a size. -/
def shownSize (size : Int) : Except ConsoleError String :=
  match sizeText size with
  | .ok text => .ok text
  | .error e => .error (.number e)

/-- The rows of the score table. -/
def scoreRows (s : Scores) : List (String × Int) :=
  [("Overall", s.overall), ("Specificity", s.specificity), ("Duplicates", s.duplicates),
    ("!important", s.important), ("File Size", s.fileSize)]

namespace Screen

variable (screen : Screen)

/-- The line about one sheet. -/
def fileLine (f : FileStats) : Piece := do
  let size ← shownSize f.size
  screen.displayMarkup
    s!"  [cyan]{f.name}[/cyan] [dim]({size}, {f.rules} rules, {f.selectors} selectors)[/dim]".toList

/-- The lines about the totals. -/
def totalsLines (t : Totals) : Piece := do
  let size ← shownSize t.size
  return screen.display s!"\nTotal: {size} | {t.rules} rules | {t.selectors} selectors\n".toList

/-- The table of scores. -/
def scoreTable (s : Scores) : Piece := do
  let rows ← (scoreRows s).mapM fun (label, score) =>
    match scoreBar score barWidth with
    | .ok bar => .ok (label.toList, Styled.plain bar)
    | .error e => .error (.number e)
  let labelWidth := (rows.map (·.1.length)).foldl max 0
  let barColumn := (rows.map (·.2.length)).foldl max 0
  let width := labelWidth + barColumn + 7
  let row (label bar : List Char) : List Char :=
    "  ".toList ++ padRight labelWidth label ++ "   ".toList ++ bar
  let lines := ["Health Scores".toList, []] ++ rows.map (fun (label, bar) => row label bar) ++ [[]]
  return (screen.fitTable (lines.map (padRight width))).flatMap (· ++ ['\n'])

/-- The line with the number of issues of a severity, if there are any. -/
def severityLine (r : Report) (severity : Severity) (label : String) : List Char :=
  let count := r.countBySeverity severity
  if count = 0 then []
  else screen.display s!"  {severityIcon severity} {count} {label}".toList

/-- The lines about an issue. -/
def issueLines (verbose : Bool) (i : Issue) : List Char :=
  let selector := String.ofList (i.selector.toList.take selectorExcerpt)
  screen.display s!"  {severityIcon i.severity} {i.message}".toList ++
  screen.display s!"    {i.source}:{i.line} | {selector}".toList ++
  match i.hint with
  | some hint => if verbose then screen.display s!"    → {hint}".toList else []
  | none => []

/-- The lines about all issues. -/
def issuesSection (verbose : Bool) (r : Report) : List Char :=
  if r.issues.isEmpty then screen.display "\nNo issues found! Your CSS looks clean.".toList
  else
    let shown := if verbose then r.issues else r.issues.take topIssues
    let hidden := r.issues.length - shown.length
    screen.display s!"Issues Found: {r.issues.length}".toList ++
    screen.severityLine r .error "errors" ++ screen.severityLine r .warning "warnings" ++
    screen.severityLine r .info "info" ++ screen.display [] ++
    shown.flatMap (screen.issueLines verbose) ++
    if hidden = 0 then []
    else screen.display
      (s!"\n  ... and {hidden} more issues. " ++
        "Use --verbose or --json for the full report.").toList

/-- The pieces of a report, in the order in which they are written. -/
def summaryPieces (r : Report) (verbose : Bool) : List Piece :=
  .ok (screen.display "Files Analyzed:".toList) :: r.files.map screen.fileLine ++
    [screen.totalsLines r.totals, screen.scoreTable r.scores, .ok (screen.issuesSection verbose r),
      .ok (screen.display s!"\n{r.summary}\n".toList)]

/-- The text of a report. -/
def summary (r : Report) (verbose : Bool) : Piece :=
  match write (screen.summaryPieces r verbose) with
  | ⟨text, none⟩ => .ok text
  | ⟨_, some e⟩ => .error e

end Screen

/-- The text of a report on the console of the program. -/
def summary (r : Report) (verbose : Bool) : Piece :=
  Screen.wide.summary r verbose

end SheetAudit.Console

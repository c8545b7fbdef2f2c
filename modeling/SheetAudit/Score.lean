import SheetAudit.Issue.Basic
import SheetAudit.Number.Binary64
import SheetAudit.Stylesheet.Rule

/-!
# Health scores

Four scores from 0 to 100 measure specificity, repeated declarations, forced declarations and size,
and a weighted sum of them is the overall score.  All of it is computed in binary floating point and
rounded at the end, halves upward.  The verdict compares the overall score with a threshold.
-/

namespace SheetAudit

open Number
open Stylesheet (Rule)

/-- The five scores of an audit, each from 0 to 100. -/
structure Scores where
  /-- The weighted sum. -/
  overall : Int
  /-- The score for specificity. -/
  specificity : Int
  /-- The score for repeated declarations. -/
  duplicates : Int
  /-- The score for forced declarations. -/
  important : Int
  /-- The score for size. -/
  fileSize : Int
  deriving DecidableEq, Repr

/-- An overall score and the least one that passes. -/
structure Verdict where
  /-- The overall score. -/
  overall : Int
  /-- The least score that passes. -/
  threshold : Int
  deriving DecidableEq, Repr

namespace Verdict

/-- Whether the score reaches the threshold. -/
def passed (v : Verdict) : Bool :=
  v.threshold ≤ v.overall

/-- The verdict in one word. -/
def status (v : Verdict) : String :=
  if v.passed then "PASS" else "FAIL"

/-- The verdict in one sentence. -/
def summary (v : Verdict) : String :=
  s!"{v.status}: Overall score {v.overall}/100 (threshold: {v.threshold})"

end Verdict

namespace Score

/-- The threshold that holds when none is given. -/
def defaultThreshold : Int := 60

/-- Sizes in bytes above which the size score falls, with the score that holds there, largest
first. -/
def sizeSteps : List (Int × Int) :=
  [(100000, 30), (50000, 50), (25000, 70), (10000, 85)]

/-- The score for a size in bytes. -/
def ofSize (bytes : Int) : Int :=
  match sizeSteps.find? fun (limit, _) => limit < bytes with
  | some (_, score) => score
  | none => 100

/-- The integer below `x + 1/2`. -/
def roundHalfUp (x : Binary64) : Except NumberError Int :=
  (x + .finite (1 / 2)).floor

/-- The number, brought between 0 and 100. -/
def clamp (x : Binary64) : Binary64 :=
  let low : Binary64 := .finite 0
  let high : Binary64 := .finite 100
  let capped := if x.lt high then x else high
  if low.lt capped then capped else low

/-- What is left of 100 points when `count` of `total` things are at fault, each share of one
costing `cost` points. -/
def remaining (count : Int) (total : Nat) (cost : Rat) : Except NumberError Binary64 := do
  let share ← Binary64.quotient count total
  return clamp (.finite 100 - share * .finite cost)

/-- The weights of the four scores: specificity, duplicates, forced declarations, size. -/
def weights : List Binary64 :=
  [.ofRat (30 / 100), .ofRat (25 / 100), .ofRat (25 / 100), .ofRat (20 / 100)]

/-- The sum of the scores times their weights, from left to right. -/
def weightedSum (scores : List Binary64) : Binary64 :=
  (List.zipWith (· * ·) scores weights).foldl (· + ·) (.finite 0)

/-- The number of issues of a kind. -/
def countOf (kind : IssueKind) (issues : List Issue) : Nat :=
  issues.countP (·.kind == kind)

/-- The number of declarations that repeat an earlier one. -/
def repeats (issues : List Issue) : Int :=
  ((issues.filter (·.kind == .duplicate)).map (·.occurrences - 1)).foldr (· + ·) 0

/-- The number of declarations of a list of rules. -/
def declarationCount (rules : List Rule) : Nat :=
  (rules.map (·.declarations.length)).foldr (· + ·) 0

/-- The scores of a list of rules with their issues and their size in bytes. -/
def scores (rules : List Rule) (issues : List Issue) (bytes : Int) : Except NumberError Scores := do
  let ruleCount := max rules.length 1
  let declCount := max (declarationCount rules) 1
  let specificity ← remaining (countOf .specificity issues) ruleCount 200
  let duplicates ← remaining (repeats issues) declCount 300
  let important ← remaining (countOf .important issues) declCount 500
  let size : Binary64 := .finite (ofSize bytes)
  return {
    overall := ← roundHalfUp (weightedSum [specificity, duplicates, important, size])
    specificity := ← roundHalfUp specificity
    duplicates := ← roundHalfUp duplicates
    important := ← roundHalfUp important
    fileSize := ← roundHalfUp size }

end Score

end SheetAudit

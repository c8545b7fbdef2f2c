import SheetAudit.Issue.Basic
import SheetAudit.Number.Binary64

/-!
# Score bars

A score is drawn as a bar of full and empty blocks with the number behind it.
-/

namespace SheetAudit.Console

open Number

/-- The colour for a score. -/
def scoreColour (score : Int) : String :=
  if 75 ≤ score then "green" else if 50 ≤ score then "yellow" else "red"

/-- The colour for a severity. -/
def severityStyle : Severity → String
  | .info => "blue"
  | .warning => "yellow"
  | .error => "red"

/-- The sign for a severity. -/
def severityIcon : Severity → String
  | .info => "ℹ"
  | .warning => "⚠"
  | .error => "✖"

/-- A piece of text with its style. -/
structure Styled where
  /-- The text. -/
  text : List Char
  /-- The style, if the piece has one. -/
  style : Option String

/-- A stretch of text in one style. -/
structure Span where
  /-- The position of its first character. -/
  start : Nat
  /-- The position behind its last character. -/
  stop : Nat
  /-- The style. -/
  style : String
  deriving DecidableEq, Repr

/-- The text of styled pieces. -/
def Styled.plain (pieces : List Styled) : List Char :=
  pieces.flatMap (·.text)

/-- The spans of styled pieces, from a position on; an empty piece has none. -/
def Styled.spans (position : Nat) : List Styled → List Span
  | [] => []
  | piece :: rest =>
    let stop := position + piece.text.length
    match piece.style with
    | some style =>
      if piece.text.isEmpty then Styled.spans stop rest
      else ⟨position, stop, style⟩ :: Styled.spans stop rest
    | none => Styled.spans stop rest

/-- The number of columns of a bar. -/
def barWidth : Int := 20

/-- The number of full blocks of a bar: the nearest to the score's share of the width, computed in
binary floating point. -/
def filledBlocks (score width : Int) : Except NumberError Int := do
  let share ← Binary64.quotient score 100
  let whole ← Binary64.ofInt width
  (share * whole).toNearestInt

/-- The bar of a score. -/
def scoreBar (score width : Int) : Except NumberError (List Styled) := do
  let filled ← filledBlocks score width
  let colour := scoreColour score
  return [
    ⟨List.replicate filled.toNat '█', some colour⟩,
    ⟨List.replicate (width - filled).toNat '░', some "dim"⟩,
    ⟨(s!" {score}").toList, some s!"bold {colour}"⟩,
    ⟨"/100".toList, none⟩]

end SheetAudit.Console

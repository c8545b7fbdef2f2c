import SheetAudit.Text.Cut

/-!
# Comments of a stylesheet

A comment runs from an opening mark to the next closing mark.  `segments` cuts a stylesheet, left
to right, into code and comments; an opening mark that is never closed is code, and so is all that
follows it.  `stripComments` keeps the code and, of each comment, its line breaks, so that every
character of code stays on its line.
-/

namespace SheetAudit.Stylesheet

open SheetAudit.Text

/-- The mark that opens a comment. -/
def commentOpen : List Char := ['/', '*']

/-- The mark that closes a comment. -/
def commentClose : List Char := ['*', '/']

/-- A stretch of a stylesheet. -/
inductive Segment where
  /-- Text outside comments. -/
  | code (text : List Char)
  /-- A comment, given by the text between its marks. -/
  | comment (body : List Char)
  deriving DecidableEq, Repr

/-- The text of a segment as it stands in the stylesheet. -/
def Segment.source : Segment → List Char
  | .code text => text
  | .comment body => commentOpen ++ body ++ commentClose

/-- What is left of a segment when comments are removed: of a comment, its line breaks. -/
def Segment.visible : Segment → List Char
  | .code text => text
  | .comment body => List.replicate (body.count '\n') '\n'

/-- Collects the segments of the text; `done` holds those already found, last one first. -/
def segmentsFrom (done : List Segment) (cs : List Char) : List Segment :=
  match _hOpen : cut? commentOpen cs with
  | none => (.code cs :: done).reverse
  | some (before, inside) =>
    match _hClose : cut? commentClose inside with
    | none => (.code cs :: done).reverse
    | some (body, rest) => segmentsFrom (.comment body :: .code before :: done) rest
termination_by cs.length
decreasing_by
  have h₁ := length_of_cut? _hOpen
  have h₂ := length_of_cut? _hClose
  simp only [commentOpen, commentClose, List.length_cons, List.length_nil] at h₁ h₂
  omega

/-- The segments of a stylesheet, in order. -/
def segments (cs : List Char) : List Segment :=
  segmentsFrom [] cs

/-- The stylesheet without its comments, whose line breaks are kept. -/
def stripComments (cs : List Char) : List Char :=
  (segments cs).flatMap Segment.visible

end SheetAudit.Stylesheet

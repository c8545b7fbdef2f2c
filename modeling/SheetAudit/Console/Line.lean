import SheetAudit.Text.Width

/-!
# Lines on a console

Text that goes to the console loses the control characters that would move the cursor, is cut into
lines at its line breaks, and has its tabs widened to the next multiple of eight columns.
-/

namespace SheetAudit.Console

open SheetAudit.Text

/-- Whether a character would ring the bell or move the cursor: bell, backspace, vertical tab, form
feed and carriage return. -/
def movesCursor (c : Char) : Bool :=
  [7, 8, 11, 12, 13].contains c.toNat

/-- The distance between tab stops. -/
def tabSize : Nat := 8

/-- The number of columns from a column to the next tab stop; none at a tab stop. -/
def columnsToStop (column : Nat) : Nat :=
  (tabSize - column % tabSize) % tabSize

/-- Puts the parts between tabs together.  A tab is a space, and further ones up to the next tab
stop; `column` is the column reached and `out` the text so far, last character first. -/
def joinAtStops (column : Nat) (out : List Char) : List (List Char) → List Char
  | [] => out.reverse
  | [last] => out.reverse ++ last
  | part :: rest =>
    let text := part ++ [' ']
    let reached := column + textWidth text
    let fill := columnsToStop reached
    joinAtStops (reached + fill) (List.replicate fill ' ' ++ text.reverse ++ out) rest

/-- One line with its tabs as spaces. -/
def expandTabs (line : List Char) : List Char :=
  joinAtStops 0 [] (line.splitOn '\t')

/-- The lines in which a text appears. -/
def displayLines (cs : List Char) : List (List Char) :=
  ((cs.filter (!movesCursor ·)).splitOn '\n').map expandTabs

end SheetAudit.Console

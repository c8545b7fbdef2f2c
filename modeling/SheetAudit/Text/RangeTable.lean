import SheetAudit.Text.Blank
import SheetAudit.Text.Cut
import SheetAudit.Text.Hex
import SheetAudit.Text.Ranges

/-!
# Tables written as text

A large table of code points is kept as text: words that are a code point in hexadecimal, or the
first and the last of a range with a hyphen between them.
-/

namespace SheetAudit.Text

/-- Reads a range. -/
def readRange (word : List Char) : Nat × Nat :=
  match cut? ['-'] word with
  | some (first, last) => (hexNumber first, hexNumber last)
  | none => (hexNumber word, hexNumber word)

/-- Reads the ranges of a table. -/
def Ranges.read (table : String) : Ranges :=
  (words table.toList).map readRange

end SheetAudit.Text

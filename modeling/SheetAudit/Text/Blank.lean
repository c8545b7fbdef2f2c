/-!
# Blank characters

Text is a list of code points.  A code point is *blank* when it separates words: the ASCII controls
from tab to carriage return, the four information separators, the space, and the Unicode spaces and
line separators.  Zero-width characters (`U+200B`, `U+2060`, `U+FEFF`) are not blank.

* `trim` removes the blank characters at both ends of a text.
* `words` cuts a text at its blank characters.
-/

namespace SheetAudit.Text

/-- Whether a character counts as blank. -/
def isBlank (c : Char) : Bool :=
  let n := c.toNat
  (9 ≤ n && n ≤ 13) || (28 ≤ n && n ≤ 32) || n == 0x85 || n == 0xA0 || n == 0x1680 ||
    (0x2000 ≤ n && n ≤ 0x200A) || n == 0x2028 || n == 0x2029 || n == 0x202F || n == 0x205F ||
    n == 0x3000

/-- The text without its leading blank characters. -/
def trimLeft (cs : List Char) : List Char :=
  cs.dropWhile isBlank

/-- The text without its trailing blank characters. -/
def trimRight (cs : List Char) : List Char :=
  (cs.reverse.dropWhile isBlank).reverse

/-- The text without the blank characters at its two ends. -/
def trim (cs : List Char) : List Char :=
  trimRight (trimLeft cs)

/-- The text of `s` without the blank characters at its two ends. -/
def trimmed (s : String) : String :=
  String.ofList (trim s.toList)

/-- The maximal runs of characters that are not blank, in order. -/
def words (cs : List Char) : List (List Char) :=
  (cs.splitOnP isBlank).filter (!·.isEmpty)

end SheetAudit.Text

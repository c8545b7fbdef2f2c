import SheetAudit.Text.Composed
import SheetAudit.Text.LowerCase
import SheetAudit.Url.LabelCharacter
import SheetAudit.Url.LabelForm

/-!
# International host names

A host name is a row of labels.  A label is composed text of the characters that labels may hold,
with hyphens only inside, and it keeps the rules for characters that need a context and for text
written from right to left.  `asciiHostName?` gives the form in which a name is sent.
-/

namespace SheetAudit.Url

open SheetAudit.Text

/-! ## Characters that need a context -/

/-- Whether a sign that silences a vowel stands right before; the text before is given last
character first. -/
def behindVowelKiller (before : List Char) : Bool :=
  before.head?.any (markClass · == vowelKillerClass)

/-- Whether letters on both sides would join across a character. -/
def betweenJoiningLetters (before after : List Char) : Bool :=
  (before.dropWhile transparentRanges.contains).head?.any joinsNext &&
    (after.dropWhile transparentRanges.contains).head?.any joinsPrevious

/-- Whether a code point is an Arabic-Indic digit. -/
def isArabicDigit (c : Char) : Bool :=
  0x660 ≤ c.toNat && c.toNat ≤ 0x669

/-- Whether a code point is an extended Arabic-Indic digit. -/
def isExtendedDigit (c : Char) : Bool :=
  0x6F0 ≤ c.toNat && c.toNat ≤ 0x6F9

/-- Whether a character may stand where it does in a label; `before` is the text before it, last
character first, and `after` the text behind. -/
def fitsContext (label before : List Char) (c : Char) (after : List Char) : Bool :=
  match c with
  -- a non-joiner keeps letters apart, a joiner brings them together
  | '\u200C' => behindVowelKiller before || betweenJoiningLetters before after
  | '\u200D' => behindVowelKiller before
  -- a middle dot parts two letters l
  | '\u00B7' => before.head? = some 'l' && after.head? = some 'l'
  | '\u0375' => after.head?.any greekRanges.contains
  | '\u05F3' | '\u05F4' => before.head?.any hebrewRanges.contains
  | '\u30FB' => label.any japaneseRanges.contains
  | c =>
    if isArabicDigit c then !label.any isExtendedDigit
    else if isExtendedDigit c then !label.any isArabicDigit
    else labelRanges.contains c

/-- Whether all characters of a label may stand where they do; `before` holds those already seen,
last one first. -/
def allFit (label before : List Char) : List Char → Bool
  | [] => true
  | c :: after => fitsContext label before c after && allFit label (c :: before) after

/-! ## Direction -/

/-- Whether the last character that is not attached to another has one of the directions given. -/
def endsIn (ends : List Direction) (directions : List Direction) : Bool :=
  (directions.reverse.dropWhile (· == .attached)).head?.any ends.contains

/-- Whether the characters of a label keep to one direction.  Only labels with characters that go
from right to left are asked. -/
def keepsDirection (label : List Char) : Bool :=
  let directions := label.map direction
  if directions.all fun d => d != .rightToLeft && d != .arabicNumber then true
  else
    match directions.head? with
    | some .rightToLeft =>
      !directions.contains .leftToRight &&
        endsIn [.rightToLeft, .europeanNumber, .arabicNumber] directions &&
        !(directions.contains .arabicNumber && directions.contains .europeanNumber)
    | _ => false

/-! ## Labels and names -/

/-- Whether the hyphens of a label stand where they may: not at its ends, and not both in the third
and in the fourth place. -/
def hyphensFit (label : List Char) : Bool :=
  (label.drop 2).take 2 != ['-', '-'] && label.head? != some '-' && label.getLast? != some '-'

/-- Whether a text is a label. -/
def isLabel (label : List Char) : Bool :=
  !label.isEmpty && isComposed label && hyphensFit label &&
    !label.head?.any markRanges.contains && allFit label [] label && keepsDirection label

/-- What marks the ASCII form of a label. -/
def formMark : List Char := "xn--".toList

/-- The greatest length of the ASCII form of a label. -/
def maxLabelLength : Nat := 63

/-- The greatest length of the ASCII form of a name, apart from a dot at its end. -/
def maxNameLength : Nat := 253

/-- Whether an ASCII text is a label or the ASCII form of one. -/
def isAsciiLabel (label : List Char) : Bool :=
  match behind? formMark label with
  | some form =>
    !form.isEmpty && form.getLast? != some '-' && (decodeLabel? form).any isLabel
  | none => isLabel label

/-- The ASCII form of a label; nothing for a text that is no label. -/
def asciiLabel? (label : List Char) : Option (List Char) :=
  let form? :=
    if label.all (·.toNat < 128) then if isAsciiLabel label then some label else none
    else if isLabel label then some (formMark ++ encodeLabel label)
    else none
  form?.filter (·.length ≤ maxLabelLength)

/-- Whether a character divides the labels of a host name. -/
def isLabelDot (c : Char) : Bool :=
  c == '.' || c.toNat == 0x3002 || c.toNat == 0xFF0E || c.toNat == 0xFF61

/-- The ASCII form of a host name in lower case; nothing for a text that is no name.  A dot at the
end stays. -/
def asciiHostName? (host : List Char) : Option (List Char) :=
  let labels := host.splitOnP isLabelDot
  let (named, tail) :=
    if labels.getLast? = some [] then (labels.dropLast, ['.']) else (labels, [])
  match named.mapM asciiLabel? with
  | some [] => none
  | some forms =>
    let name := ['.'].intercalate forms
    if name.length ≤ maxNameLength then some (name ++ tail) else none
  | none => none

end SheetAudit.Url

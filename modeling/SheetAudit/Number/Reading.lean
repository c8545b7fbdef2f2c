import SheetAudit.Text.Blank
import SheetAudit.Text.Case
import SheetAudit.Text.Digit

/-!
# Numbers written by people

An integer is written with decimal digits of any script, perhaps after a sign and between blank
characters; single low lines may stand between digits.  A decimal number may also have a point and
an exponent, or be one of the words for infinity and for what is not a number.
-/

namespace SheetAudit.Number

open SheetAudit.Text

/-- The most digits that an integer may have. -/
def maxIntegerDigits : Nat := 4300

/-- Whether a character may stand around a number: the blank characters other than the information
separators. -/
def isPadding (c : Char) : Bool :=
  isBlank c && !(28 ≤ c.toNat && c.toNat ≤ 31)

/-- The text without what may stand around a number. -/
def unpadded (cs : List Char) : List Char :=
  ((cs.dropWhile isPadding).reverse.dropWhile isPadding).reverse

/-- A leading sign, which says whether the number is negative, and the text behind it. -/
def takeSign : List Char → Bool × List Char
  | '+' :: cs => (false, cs)
  | '-' :: cs => (true, cs)
  | cs => (false, cs)

/-- The values of digits with single low lines between them; nothing for anything else. -/
def digits? (cs : List Char) : Option (List Nat) :=
  let groups := cs.splitOn '_'
  if groups.any (·.isEmpty) then none else groups.flatten.mapM digitValue?

/-- The integer that a text stands for. -/
def readInt? (cs : List Char) : Option Int := do
  let (negative, body) := takeSign (unpadded cs)
  let digits ← digits? body
  if maxIntegerDigits < digits.length then none
  else
    let size : Int := digits.foldl (fun n (d : Nat) => 10 * n + d) 0
    some (if negative then -size else size)

/-- Whether a text is empty or digits with single low lines between them. -/
def isDigitsOrEmpty (cs : List Char) : Bool :=
  cs.isEmpty || (digits? cs).isSome

/-- Whether a text is the exponent of a decimal number, without its mark. -/
def isExponent (cs : List Char) : Bool :=
  (digits? (takeSign cs).2).isSome

/-- Whether a text is a decimal number without exponent. -/
def isMantissa (cs : List Char) : Bool :=
  let whole := cs.takeWhile (· != '.')
  match cs.dropWhile (· != '.') with
  | [] => (digits? whole).isSome
  | _ :: fraction =>
    isDigitsOrEmpty whole && isDigitsOrEmpty fraction && !(whole.isEmpty && fraction.isEmpty)

/-- Whether a text stands for a decimal number. -/
def isDecimal (cs : List Char) : Bool :=
  let body := lower (takeSign (unpadded cs)).2
  ["inf".toList, "infinity".toList, "nan".toList].contains body ||
    (isMantissa (body.takeWhile (· != 'e')) &&
      match body.dropWhile (· != 'e') with
      | [] => true
      | _ :: exponent => isExponent exponent)

end SheetAudit.Number

import SheetAudit.Text.Word

/-!
# Hexadecimal digits
-/

namespace SheetAudit.Text

/-- Whether a character is a hexadecimal digit. -/
def isHexDigit (c : Char) : Bool :=
  isDigit c || ('a' ≤ c && c ≤ 'f') || ('A' ≤ c && c ≤ 'F')

/-- The value of a hexadecimal digit. -/
def hexValue (c : Char) : Nat :=
  if isDigit c then c.toNat - 48
  else if 'a' ≤ c && c ≤ 'f' then c.toNat - 87
  else c.toNat - 55

/-- The number that hexadecimal digits stand for. -/
def hexNumber (digits : List Char) : Nat :=
  digits.foldl (fun n c => 16 * n + hexValue c) 0

/-- The characters with code points written in hexadecimal and divided by hyphens. -/
def hexCharacters (codes : List Char) : List Char :=
  (codes.splitOn '-').map fun digits => Char.ofNat (hexNumber digits)

/-- The lower-case digits of a number in base sixteen, filled with zeros up to a width. -/
def hexDigits (width n : Nat) : List Char :=
  let digits := Nat.toDigits 16 n
  List.replicate (width - digits.length) '0' ++ digits

end SheetAudit.Text

/-!
# Letter case

Names of tags, attributes, schemes and styles do not depend on the case of ASCII letters.
-/

namespace SheetAudit.Text

/-- An ASCII letter in lower case; any other character as it is. -/
def lowerLetter (c : Char) : Char :=
  if 'A' ≤ c && c ≤ 'Z' then Char.ofNat (c.toNat + 32) else c

/-- Text with its ASCII letters in lower case. -/
def lower (cs : List Char) : List Char :=
  cs.map lowerLetter

end SheetAudit.Text

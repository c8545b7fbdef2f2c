/-!
# Tables of code points

A property of characters is given by a table of inclusive ranges of code points in increasing order.
-/

namespace SheetAudit.Text

/-- Inclusive ranges of code points, in increasing order and apart from one another. -/
abbrev Ranges := List (Nat × Nat)

/-- Whether a character lies in one of the ranges. -/
def Ranges.contains (table : Ranges) (c : Char) : Bool :=
  table.any fun (first, last) => first ≤ c.toNat && c.toNat ≤ last

end SheetAudit.Text

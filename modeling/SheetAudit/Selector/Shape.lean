import SheetAudit.Text.Blank
import SheetAudit.Text.Word

/-!
# The shape of a selector

Three questions about a selector besides its specificity: how many compound selectors combinators
join, whether an element name is fused with a class or an identifier, and whether it selects
everything.
-/

namespace SheetAudit.Selector

open SheetAudit.Text

/-- Whether a character joins compound selectors. -/
def isCombinator (c : Char) : Bool :=
  isBlank c || c == '>' || c == '+' || c == '~'

/-- The number of compound selectors that combinators join. -/
def nestingDepth (cs : List Char) : Nat :=
  (cs.splitOnP isCombinator).countP (!·.isEmpty)

/-- Whether a character is a letter of a leading element name.  The four letters beyond ASCII are
those that equal an ASCII letter when case is ignored. -/
def isTagLetter (c : Char) : Bool :=
  isLetter c || c.toNat == 0x130 || c.toNat == 0x131 || c.toNat == 0x17F || c.toNat == 0x212A

/-- Whether a selector starts with an element name that a class or an identifier follows. -/
def isOverqualified (cs : List Char) : Bool :=
  !(cs.takeWhile isTagLetter).isEmpty &&
    match cs.dropWhile isTagLetter with
    | c :: _ => c == '.' || c == '#'
    | [] => false

/-- Whether a `*` stands between two blank characters. -/
def hasLoneStar : List Char → Bool
  | a :: b :: c :: cs => (isBlank a && b == '*' && isBlank c) || hasLoneStar (b :: c :: cs)
  | _ => false

/-- Whether a selector is `*`, or holds it between blank characters. -/
def isUniversal (cs : List Char) : Bool :=
  trim cs == ['*'] || hasLoneStar cs

end SheetAudit.Selector

import SheetAudit.Selector.Pattern
import SheetAudit.Text.Word

/-!
# Specificity

The specificity of a selector counts its identifiers, its classes and its elements.  Attributes and
pseudo-classes count as classes and pseudo-elements as elements; combinators and `*` count nothing.
The count goes by patterns in the text, each applied to what the earlier ones left, and gives an
answer for any text, well formed or not.
-/

namespace SheetAudit.Selector

open SheetAudit.Text

/-- How many identifiers, classes and elements a selector has. -/
structure Specificity where
  /-- The number of identifiers. -/
  ids : Nat
  /-- The number of classes, attributes and pseudo-classes. -/
  classes : Nat
  /-- The number of elements and pseudo-elements. -/
  elements : Nat
  deriving DecidableEq, Repr

/-- Specificities add up field by field. -/
def Specificity.add (a b : Specificity) : Specificity :=
  ⟨a.ids + b.ids, a.classes + b.classes, a.elements + b.elements⟩

/-- Whether an identifier or a class name may start with a character. -/
def isNameStart (c : Char) : Bool :=
  isLetter c || c == '_' || c == '-'

/-- Whether a name may go on with a character. -/
def isNameChar (c : Char) : Bool :=
  isWord c || c == '-'

/-- Whether a character may stand in the name of a pseudo-class or a pseudo-element. -/
def isPseudoChar (c : Char) : Bool :=
  isLetter c || c == '-'

/-- A pseudo-element. -/
def pseudoElement : Pattern := .marked [':', ':'] isPseudoChar isPseudoChar

/-- An identifier. -/
def identifier : Pattern := .marked ['#'] isNameStart isNameChar

/-- A class. -/
def className : Pattern := .marked ['.'] isNameStart isNameChar

/-- An attribute. -/
def attributeTest : Pattern := .enclosed '[' ']'

/-- A pseudo-class. -/
def pseudoClass : Pattern := .marked [':'] isPseudoChar isPseudoChar

/-- The name of an element. -/
def element : Pattern := .marked [] isLetter isNameChar

/-- The specificity of a selector without commas. -/
def specificity (cs : List Char) : Specificity :=
  let marked := pseudoElement.replace [' ', 'E'] cs
  let noIds := identifier.erase marked
  let bare := pseudoClass.erase (attributeTest.erase (className.erase noIds))
  { ids := identifier.count marked
    classes := className.count noIds + attributeTest.count noIds + pseudoClass.count noIds
    elements := element.count bare }

end SheetAudit.Selector

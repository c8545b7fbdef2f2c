import SheetAudit.Selector.Shape
import SheetAudit.Selector.Specificity

/-!
# The syntax of selectors

A complex selector is a chain of compound selectors with combinators between them.  A compound
selector is the name of an element or `*`, or neither, followed by parts in any number and order:
identifiers, classes, attributes, pseudo-classes and pseudo-elements.  The types here hold exactly
the selectors of this syntax, and `ComplexSelector.text` writes one out.

## Key results

- `isNameChar_of_isCombinator`: what joins compound selectors cannot stand in a name
- `Combinator.isCombinator_of_mem`: the characters of a combinator
-/

namespace SheetAudit.Selector

open SheetAudit.Text

/-! ## Names -/

/-- A name: a character of the class `first`, then characters of the class `others`. -/
structure Name (first others : Char → Bool) where
  /-- The first character. -/
  head : Char
  /-- The other characters. -/
  tail : List Char
  /-- The first character may start a name. -/
  head_mem : first head = true
  /-- The other characters may follow. -/
  tail_mem : ∀ c ∈ tail, others c = true

/-- The text of a name. -/
def Name.text {first others : Char → Bool} (n : Name first others) : List Char :=
  n.head :: n.tail

/-- The name of an element. -/
abbrev ElementName := Name isLetter isNameChar

/-- The name of an identifier or a class. -/
abbrev Ident := Name isNameStart isNameChar

/-- The name of a pseudo-class or a pseudo-element. -/
abbrev PseudoName := Name isPseudoChar isPseudoChar

/-! ## Selectors -/

/-- The characters that the text of an attribute may not hold. -/
def attributeMarks : List Char := ['#', '.', ':', '[', ']']

/-- A part of a compound selector. -/
inductive Part where
  /-- An identifier, behind a number sign. -/
  | identifier (name : Ident)
  /-- A class, behind a point. -/
  | className (name : Ident)
  /-- A condition on an attribute, in brackets. -/
  | attributeTest (content : List Char) (free : ∀ c ∈ content, c ∉ attributeMarks)
  /-- A pseudo-class, behind a colon. -/
  | pseudoClass (name : PseudoName)
  /-- A pseudo-element, behind two colons. -/
  | pseudoElement (name : PseudoName)

namespace Part

/-- The text of a part. -/
def text : Part → List Char
  | .identifier name => '#' :: name.text
  | .className name => '.' :: name.text
  | .attributeTest content _ => '[' :: content ++ [']']
  | .pseudoClass name => ':' :: name.text
  | .pseudoElement name => ':' :: ':' :: name.text

/-- Whether a part is an identifier. -/
def isIdentifier : Part → Bool
  | .identifier _ => true
  | _ => false

/-- Whether a part is a class. -/
def isClass : Part → Bool
  | .className _ => true
  | _ => false

/-- Whether a part is an attribute test. -/
def isAttribute : Part → Bool
  | .attributeTest _ _ => true
  | _ => false

/-- Whether a part is a pseudo-class. -/
def isPseudoClass : Part → Bool
  | .pseudoClass _ => true
  | _ => false

/-- Whether a part is a pseudo-element. -/
def isPseudoElement : Part → Bool
  | .pseudoElement _ => true
  | _ => false

end Part

/-- What a compound selector may start with. -/
inductive Head where
  /-- The name of an element. -/
  | element (name : ElementName)
  /-- Any element. -/
  | star

/-- The text of the start of a compound selector. -/
def Head.text : Head → List Char
  | .element name => name.text
  | .star => ['*']

/-- Whether a compound selector starts with the name of an element. -/
def Head.isElement : Head → Bool
  | .element _ => true
  | .star => false

/-- A compound selector: a start or none, and parts. -/
structure CompoundSelector where
  /-- What it starts with. -/
  head : Option Head
  /-- Its parts. -/
  parts : List Part
  /-- It is not empty. -/
  nonempty : head.isSome ∨ parts ≠ []

namespace CompoundSelector

/-- The text of a compound selector. -/
def text (c : CompoundSelector) : List Char :=
  (c.head.map Head.text).getD [] ++ c.parts.flatMap Part.text

/-- Whether a compound selector names an element. -/
def namesElement (c : CompoundSelector) : Bool :=
  c.head.any Head.isElement

end CompoundSelector

/-- What joins two compound selectors: blank characters, or a sign that blank characters may
    surround. -/
inductive Combinator where
  /-- Blank characters, at least one. -/
  | blank (gap : List Char) (nonempty : gap ≠ []) (isBlank_gap : ∀ c ∈ gap, isBlank c = true)
  /-- A sign, perhaps with blank characters around it. -/
  | sign (before : List Char) (c : Char) (after : List Char) (isSign : c ∈ ['>', '+', '~'])
    (isBlank_around : ∀ c ∈ before ++ after, isBlank c = true)

namespace Combinator

/-- The text of a combinator. -/
def text : Combinator → List Char
  | .blank gap _ _ => gap
  | .sign before c after _ _ => before ++ c :: after

/-- A combinator is not empty. -/
theorem text_ne_nil (k : Combinator) : k.text ≠ [] := by
  cases k with
  | blank gap hgap => exact hgap
  | sign before c after => simp [text]

/-- A combinator has no other characters than those that join compound selectors. -/
theorem isCombinator_of_mem {k : Combinator} {c : Char} (h : c ∈ k.text) :
    isCombinator c = true := by
  cases k with
  | blank gap hne hgap => simp [isCombinator, hgap c h]
  | sign before sign after hsign haround =>
    rw [text, List.mem_append, List.mem_cons] at h
    rcases h with h | rfl | h
    · simp [isCombinator, haround c (List.mem_append_left _ h)]
    · simp only [List.mem_cons, List.not_mem_nil, or_false] at hsign
      rcases hsign with rfl | rfl | rfl <;> rfl
    · simp [isCombinator, haround c (List.mem_append_right _ h)]

end Combinator

/-- A complex selector: compound selectors with combinators between them. -/
structure ComplexSelector where
  /-- The first compound selector. -/
  first : CompoundSelector
  /-- The others, each behind its combinator. -/
  others : List (Combinator × CompoundSelector)

namespace ComplexSelector

/-- The text of a complex selector. -/
def text (s : ComplexSelector) : List Char :=
  s.first.text ++ s.others.flatMap fun (k, c) => k.text ++ c.text

/-- The compound selectors, in order. -/
def compounds (s : ComplexSelector) : List CompoundSelector :=
  s.first :: s.others.map (·.2)

/-- The parts of all compound selectors, in order. -/
def parts (s : ComplexSelector) : List Part :=
  s.compounds.flatMap (·.parts)

end ComplexSelector

/-! ## Characters of names -/

/-- Letters can stand in names. -/
theorem isNameChar_of_isLetter {c : Char} (h : isLetter c = true) : isNameChar c = true := by
  have hword : isWord c = true := by
    unfold isWord
    split
    · simp [h]
    -- beyond ASCII there are no letters of this kind
    · next hc =>
      have hz : 'z'.toNat = 122 := rfl
      have hZ : 'Z'.toNat = 90 := rfl
      simp only [isLetter, Bool.or_eq_true, Bool.and_eq_true, decide_eq_true_eq, Char.le_def,
        UInt32.le_iff_toNat_le, Char.toNat_val] at h
      omega
  simp [isNameChar, hword]

/-- No blank character can stand in a name. -/
private theorem isNameChar_of_isBlank {c : Char} (h : isBlank c = true) : isNameChar c = false := by
  -- there are few blank characters, and the table of names has none of them
  have hcodes : ∀ n ∈ List.range 33 ++ List.range' 0x2000 11 ++
      [0x85, 0xA0, 0x1680, 0x2028, 0x2029, 0x202F, 0x205F, 0x3000],
      isNameChar (Char.ofNat n) = false := by
    decide +kernel
  rw [← Char.ofNat_toNat c]
  refine hcodes _ ?_
  simp only [isBlank, Bool.or_eq_true, Bool.and_eq_true, decide_eq_true_eq, beq_iff_eq] at h
  simp only [List.mem_append, List.mem_range, List.mem_range'_1, List.mem_cons, List.not_mem_nil]
  grind

/-- No character that joins compound selectors can stand in a name. -/
theorem isNameChar_of_isCombinator {c : Char} (h : isCombinator c = true) :
    isNameChar c = false := by
  simp only [isCombinator, Bool.or_eq_true, beq_iff_eq] at h
  -- a blank character or one of three signs
  rcases h with ((h | rfl) | rfl) | rfl
  · exact isNameChar_of_isBlank h
  · decide
  · decide
  · decide

/-- What can start a name can stand in one. -/
theorem isNameChar_of_isNameStart {c : Char} (h : isNameStart c = true) : isNameChar c = true := by
  simp only [isNameStart, Bool.or_eq_true, beq_iff_eq] at h
  rcases h with (h | rfl) | rfl
  · exact isNameChar_of_isLetter h
  · decide
  · decide

/-- What can stand in the name of a pseudo-class can stand in a name. -/
theorem isNameChar_of_isPseudoChar {c : Char} (h : isPseudoChar c = true) :
    isNameChar c = true := by
  simp only [isPseudoChar, Bool.or_eq_true, beq_iff_eq] at h
  rcases h with h | rfl
  · exact isNameChar_of_isLetter h
  · decide

/-- The characters of a name are characters of names, if its classes are. -/
theorem Name.isNameChar_of_mem {first others : Char → Bool} {n : Name first others} {c : Char}
    (hfirst : ∀ c, first c = true → isNameChar c = true)
    (hothers : ∀ c, others c = true → isNameChar c = true) (h : c ∈ n.text) :
    isNameChar c = true := by
  rcases List.mem_cons.mp h with rfl | h
  · exact hfirst _ n.head_mem
  · exact hothers _ (n.tail_mem c h)

/-- The characters of the name of an element are characters of names. -/
theorem ElementName.isNameChar_of_mem {n : ElementName} {c : Char} (h : c ∈ n.text) :
    isNameChar c = true :=
  Name.isNameChar_of_mem (fun _ => isNameChar_of_isLetter) (fun _ => id) h

/-- The characters of an identifier are characters of names. -/
theorem Ident.isNameChar_of_mem {n : Ident} {c : Char} (h : c ∈ n.text) : isNameChar c = true :=
  Name.isNameChar_of_mem (fun _ => isNameChar_of_isNameStart) (fun _ => id) h

/-- The characters of the name of a pseudo-class are characters of names. -/
theorem PseudoName.isNameChar_of_mem {n : PseudoName} {c : Char} (h : c ∈ n.text) :
    isNameChar c = true :=
  Name.isNameChar_of_mem (fun _ => isNameChar_of_isPseudoChar)
    (fun _ => isNameChar_of_isPseudoChar) h

end SheetAudit.Selector

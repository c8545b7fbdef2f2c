import Mathlib.Data.List.TakeWhile
import SheetAudit.Proofs.SelectorWeight

/-!
# How a selector starts

A selector is overqualified if it starts with the name of an element and a class or an identifier
follows.  The check knows names of letters only.  It takes a name with a digit, a hyphen or a low
line, such as `h1`, for no name at all, whatever follows.  Nothing behind the first part plays a
role: neither the other parts, nor what an attribute holds, nor what stands behind a combinator.

## Key results

- `isOverqualified_append_iff`: a text that starts with a name
- `isOverqualified_text`: a selector, by its first compound selector
-/

namespace SheetAudit.Selector

open SheetAudit.Text

/-! ## The first compound selector -/

/-- What a selector may start with.  The name of an element may be of any script. -/
inductive Start where
  /-- The name of an element. -/
  | element (name : Name isNameChar isNameChar)
  /-- Any element. -/
  | star

/-- The text of a start. -/
def Start.text : Start → List Char
  | .element name => name.text
  | .star => ['*']

/-- A part of a compound selector, or an attribute that may hold any text, such as a quoted
value. -/
inductive LoosePart where
  /-- A part as it is written in other selectors. -/
  | part (q : Part)
  /-- Any text in brackets. -/
  | bracketed (content : List Char)

namespace LoosePart

/-- The text of a part. -/
def text : LoosePart → List Char
  | .part q => q.text
  | .bracketed content => '[' :: content ++ [']']

/-- Whether a part is a class or an identifier. -/
def isClassOrIdentifier : LoosePart → Bool
  | .part q => q.isClass || q.isIdentifier
  | .bracketed _ => false

/-- No part goes on with a name, and only classes and identifiers begin with a point or a number
    sign. -/
private theorem exists_text_eq_cons (q : LoosePart) :
    ∃ c u, q.text = c :: u ∧ isNameChar c = false ∧
      (c == '.' || c == '#') = q.isClassOrIdentifier := by
  cases q with
  | bracketed content => exact ⟨'[', _, rfl, by decide, rfl⟩
  | part q =>
    cases q with
    | identifier n => exact ⟨'#', _, rfl, by decide, rfl⟩
    | className n => exact ⟨'.', _, rfl, by decide, rfl⟩
    | attributeTest content free => exact ⟨'[', _, rfl, by decide, rfl⟩
    | pseudoClass n => exact ⟨':', _, rfl, by decide, rfl⟩
    | pseudoElement n => exact ⟨':', _, rfl, by decide, rfl⟩

/-- A part ends the name in front of it. -/
private theorem endsName_text (q : LoosePart) : EndsName q.text := by
  obtain ⟨c, u, htext, hc, -⟩ := q.exists_text_eq_cons
  rw [htext]
  exact endsName_cons hc u

end LoosePart

/-- The first compound selector of a selector. -/
structure LeadingCompound where
  /-- What it starts with. -/
  start : Option Start
  /-- Its parts. -/
  parts : List LoosePart

/-- The text of the first compound selector. -/
def LeadingCompound.text (c : LeadingCompound) : List Char :=
  (c.start.map Start.text).getD [] ++ c.parts.flatMap LoosePart.text

/-! ## Names -/

/-- The letters of a leading name may stand in every name. -/
private theorem isNameChar_of_isTagLetter {c : Char} (h : isTagLetter c = true) :
    isNameChar c = true := by
  simp only [isTagLetter, Bool.or_eq_true, beq_iff_eq] at h
  rw [← Char.ofNat_toNat c]
  -- a letter of names, or one of the four other characters that letters without case match
  rcases h with (((h | h) | h) | h) | h
  · rw [Char.ofNat_toNat]
    exact isNameChar_of_isLetter h
  all_goals
    rw [h]
    decide +kernel

/-- A text that starts with a name is overqualified if the name has only letters and a class or an
    identifier follows. -/
theorem isOverqualified_append_iff {name tail : List Char}
    (hname : ∀ c ∈ name, isNameChar c = true) (htail : EndsName tail) :
    isOverqualified (name ++ tail) = true ↔
      name ≠ [] ∧ (∀ c ∈ name, isTagLetter c = true) ∧
        ∃ c ∈ tail.head?, (c == '.' || c == '#') = true := by
  by_cases hletters : ∀ c ∈ name, isTagLetter c = true
  · -- the letters go as far as the name
    have hstop : ∀ c ∈ tail.head?, isTagLetter c = false := by
      intro c hc
      have := htail c hc
      grind [isNameChar_of_isTagLetter]
    have htake : (name ++ tail).takeWhile isTagLetter = name := by
      rw [List.takeWhile_append_of_pos hletters]
      cases tail with
      | nil => simp
      | cons c tail => simp [hstop c rfl]
    have hdrop : (name ++ tail).dropWhile isTagLetter = tail := by
      rw [List.dropWhile_append_of_pos hletters]
      cases tail with
      | nil => rfl
      | cons c tail => simp [hstop c rfl]
    rw [isOverqualified, htake, hdrop]
    cases tail with
    | nil => simp
    | cons c tail => simpa using fun _ _ => hletters
  · -- the letters end within the name, in front of a character of the name
    have hrest : name.dropWhile isTagLetter ≠ [] := List.dropWhile_eq_nil_iff.not.mpr hletters
    obtain ⟨c, rest, hc⟩ := List.exists_cons_of_ne_nil hrest
    have hmem : c ∈ name := (List.dropWhile_sublist _).subset (hc ▸ List.mem_cons_self)
    have hmark : (c == '.' || c == '#') = false := by
      have hmarks : isNameChar '.' = false ∧ isNameChar '#' = false := by decide
      have := hname c hmem
      grind
    have hdrop : (name ++ tail).dropWhile isTagLetter = c :: (rest ++ tail) := by
      rw [List.dropWhile_append, hc]
      rfl
    rw [isOverqualified, hdrop]
    simp [hmark, hletters]

/-! ## Selectors -/

/-- A selector whose text goes on with `rest` behind its first compound selector, that is with a
    combinator or not at all, is overqualified exactly if it starts with the name of an element that
    has only letters and the first part is a class or an identifier. -/
theorem isOverqualified_text (c : LeadingCompound) (rest : List Char)
    (hrest : ∀ x ∈ rest.head?, isCombinator x = true) :
    isOverqualified (c.text ++ rest) = true ↔
      ∃ name q, c.start = some (.element name) ∧ (∀ x ∈ name.text, isTagLetter x = true) ∧
        c.parts.head? = some q ∧ q.isClassOrIdentifier = true := by
  have hends : EndsName rest := fun x hx => isNameChar_of_isCombinator (hrest x hx)
  have htail : EndsName (c.parts.flatMap LoosePart.text ++ rest) :=
    Pattern.apart_flatMap_append (fun q _ v hv => q.endsName_text.append hv) hends
  -- what follows the start is a mark of the first part, or a combinator
  have hmark : (∃ x ∈ (c.parts.flatMap LoosePart.text ++ rest).head?,
      (x == '.' || x == '#') = true) ↔
      ∃ q, c.parts.head? = some q ∧ q.isClassOrIdentifier = true := by
    cases c.parts with
    | nil =>
      have hcombinator : isCombinator '.' = false ∧ isCombinator '#' = false := by decide
      grind
    | cons q parts =>
      obtain ⟨x, u, htext, -, hx⟩ := q.exists_text_eq_cons
      simp [htext, ← hx]
  rw [LeadingCompound.text, List.append_assoc]
  -- without an element in front the letters do not even start
  cases hstart : c.start with
  | none =>
    have hnil : ∀ x ∈ ([] : List Char), isNameChar x = true := by simp
    have := isOverqualified_append_iff hnil htail
    simpa using this
  | some start =>
    cases start with
    | star => simp [Start.text, isOverqualified, isTagLetter, isLetter]
    | element name =>
      have hname : ∀ x ∈ name.text, isNameChar x = true :=
        fun x => Name.isNameChar_of_mem (fun _ => id) (fun _ => id)
      have := isOverqualified_append_iff hname htail
      rw [hmark] at this
      simpa [Start.text, Name.text] using this

/-- A name of letters with a class, in front of a combinator and a selector that would not be
    overqualified alone. -/
theorem isOverqualified_text_letters :
    ∃ c : LeadingCompound, c.text = "div.x[y='.']".toList ∧
      (∀ x ∈ " > .z".toList.head?, isCombinator x = true) ∧
      isOverqualified (c.text ++ " > .z".toList) = true := by
  let name : Name isNameChar isNameChar :=
    ⟨'d', ['i', 'v'], by decide, List.all_eq_true.mp (by decide)⟩
  let parts : List LoosePart :=
    [.part (.className ⟨'x', [], rfl, by simp⟩), .bracketed "y='.'".toList]
  have hrest : ∀ x ∈ " > .z".toList.head?, isCombinator x = true := by
    intro x hx
    obtain rfl : ' ' = x := Option.some.inj hx
    decide
  have hletters : ∀ x ∈ name.text, isTagLetter x = true := List.all_eq_true.mp (by decide)
  -- the name has letters only, and a class stands right behind it
  refine ⟨⟨some (.element name), parts⟩, by decide, hrest, ?_⟩
  exact (isOverqualified_text _ _ hrest).mpr ⟨name, _, rfl, hletters, rfl, rfl⟩

/-- The name of an element with a digit, with a class right behind it, is not found. -/
theorem isOverqualified_digit :
    ∃ s : ComplexSelector, s.text = "h1.x".toList ∧ s.first.namesElement = true ∧
      s.first.parts.head?.any Part.isClass = true ∧ isOverqualified s.text = false := by
  let name : ElementName := ⟨'h', ['1'], rfl, List.all_eq_true.mp (by decide)⟩
  let className : Ident := ⟨'x', [], rfl, by simp⟩
  exact ⟨⟨⟨some (.element name), [.className className], .inl rfl⟩, []⟩, by decide, rfl, rfl,
    by decide⟩

end SheetAudit.Selector

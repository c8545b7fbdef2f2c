import SheetAudit.Page.Reference
import SheetAudit.Text.Case

/-!
# The tags of a page

A start tag has a name and attributes.  `readBody?` reads what stands between the name of a tag and
its end; a tag that does not end is none.
-/

namespace SheetAudit.Page

open SheetAudit.Text

/-- A start tag. -/
structure Tag where
  /-- The name, in lower case. -/
  name : List Char
  /-- The attributes in order, their names in lower case. -/
  attributes : List (List Char × List Char)
  /-- The text of an element that holds only text. -/
  text : List Char
  deriving DecidableEq, Repr

/-- The value of the first attribute with a name. -/
def Tag.attribute? (t : Tag) (name : List Char) : Option (List Char) :=
  t.attributes.lookup name

/-- Whether a character divides the parts of a tag. -/
def isSpace (c : Char) : Bool :=
  c == ' ' || c == '\t' || c == '\n' || c == '\x0c'

/-! ## Attributes -/

/-- Whether a character may stand in the name of a tag. -/
def isTagNameChar (c : Char) : Bool :=
  !(isSpace c || c == '/' || c == '>')

/-- Whether a character may follow the first one in the name of an attribute. -/
def isAttributeNameChar (c : Char) : Bool :=
  isTagNameChar c && c != '='

/-- Reads the value of an attribute, in quotes or up to a space. -/
def readValue : List Char → List Char × List Char
  | '"' :: cs => (cs.takeWhile (· != '"'), (cs.dropWhile (· != '"')).drop 1)
  | '\'' :: cs => (cs.takeWhile (· != '\''), (cs.dropWhile (· != '\'')).drop 1)
  | cs =>
    (cs.takeWhile fun c => !(isSpace c || c == '>'), cs.dropWhile fun c => !(isSpace c || c == '>'))

/-- What stands between the name of a tag and its end. -/
structure TagBody where
  /-- The attributes. -/
  attributes : List (List Char × List Char)
  /-- Whether a slash stands before the end. -/
  closed : Bool
  /-- The text behind the tag. -/
  rest : List Char

/-- The text behind the spaces at its start. -/
def skipSpaces (cs : List Char) : List Char :=
  cs.dropWhile isSpace

/-- Blanks are passed over once. -/
theorem length_skipSpaces (cs : List Char) : (skipSpaces cs).length ≤ cs.length :=
  (List.dropWhile_sublist _).length_le

/-- Nothing is put back when the value of an attribute is read. -/
theorem length_readValue (cs : List Char) : (readValue cs).2.length ≤ cs.length := by
  have h (p : Char → Bool) (xs : List Char) : (xs.dropWhile p).length ≤ xs.length :=
    (List.dropWhile_sublist _).length_le
  unfold readValue
  split
  · next xs =>
    have := h (· != '"') xs
    simp only [List.length_drop, List.length_cons]
    omega
  · next xs =>
    have := h (· != '\'') xs
    simp only [List.length_drop, List.length_cons]
    omega
  · exact h _ _

/-- Reads the attributes of a tag up to its end; nothing when it has no end.  `done` holds the
attributes read, last one first. -/
def readBody? (done : List (List Char × List Char)) (cs : List Char) : Option TagBody :=
  match _h : skipSpaces cs with
  | [] => none
  | '>' :: rest => some ⟨done.reverse, false, rest⟩
  | '/' :: '>' :: rest => some ⟨done.reverse, true, rest⟩
  | '/' :: rest => readBody? done rest
  | c :: rest =>
    let name := lower (c :: rest.takeWhile isAttributeNameChar)
    match _h₂ : skipSpaces (rest.dropWhile isAttributeNameChar) with
    | '=' :: value =>
      readBody? ((name, decodeReferences (readValue (skipSpaces value)).1) :: done)
        (readValue (skipSpaces value)).2
    | after => readBody? ((name, []) :: done) after
termination_by cs.length
decreasing_by
  · have h₁ := length_skipSpaces cs
    rw [_h] at h₁
    simp only [List.length_cons] at h₁
    omega
  · have h₁ := length_skipSpaces cs
    have h₂ := length_skipSpaces (rest.dropWhile isAttributeNameChar)
    have h₃ : (rest.dropWhile isAttributeNameChar).length ≤ rest.length :=
      (List.dropWhile_sublist _).length_le
    have h₄ := length_readValue (skipSpaces value)
    have h₅ := length_skipSpaces value
    rw [_h] at h₁
    rw [_h₂] at h₂
    simp only [List.length_cons] at h₁ h₂
    omega
  · have h₁ := length_skipSpaces cs
    have h₂ := length_skipSpaces (rest.dropWhile isAttributeNameChar)
    have h₃ : (rest.dropWhile isAttributeNameChar).length ≤ rest.length :=
      (List.dropWhile_sublist _).length_le
    rw [_h] at h₁
    rw [_h₂] at h₂
    simp only [List.length_cons] at h₁
    omega

/-- What follows a tag is no longer than what follows its name. -/
theorem length_readBody? {done : List (List Char × List Char)} {cs : List Char} {b : TagBody}
    (h : readBody? done cs = some b) : b.rest.length ≤ cs.length := by
  fun_induction readBody? done cs with
  | case1 => simp at h
  | case2 done cs rest hs =>
    have h₁ := length_skipSpaces cs
    rw [hs] at h₁
    simp only [Option.some.injEq] at h
    subst h
    simp only [List.length_cons] at h₁ ⊢
    omega
  | case3 done cs rest hs =>
    have h₁ := length_skipSpaces cs
    rw [hs] at h₁
    simp only [Option.some.injEq] at h
    subst h
    simp only [List.length_cons] at h₁ ⊢
    omega
  | case4 done cs rest hs _ ih =>
    have h₁ := length_skipSpaces cs
    have := ih h
    simp_all only [List.length_cons]
    omega
  | case5 done cs c rest _ _ _ hs name value hv ih =>
    have h₁ := length_skipSpaces cs
    have h₂ := length_skipSpaces (rest.dropWhile isAttributeNameChar)
    have h₃ : (rest.dropWhile isAttributeNameChar).length ≤ rest.length :=
      (List.dropWhile_sublist _).length_le
    have h₄ := length_readValue (skipSpaces value)
    have h₅ := length_skipSpaces value
    have := ih h
    rw [hs] at h₁
    rw [hv] at h₂
    simp only [List.length_cons] at h₁ h₂
    omega
  | case6 done cs c rest _ _ _ hs name _ ih =>
    have h₁ := length_skipSpaces cs
    have h₂ := length_skipSpaces (rest.dropWhile isAttributeNameChar)
    have h₃ : (rest.dropWhile isAttributeNameChar).length ≤ rest.length :=
      (List.dropWhile_sublist _).length_le
    have := ih h
    rw [hs] at h₁
    simp only [List.length_cons] at h₁
    omega

/-- Nothing is put back behind the name of a tag. -/
theorem length_dropTagName (cs : List Char) : (cs.dropWhile isTagNameChar).length ≤ cs.length :=
  (List.dropWhile_sublist _).length_le

end SheetAudit.Page

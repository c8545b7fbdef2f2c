import SheetAudit.Page.Name

/-!
# Character references

In the value of an attribute a character may be written as a reference: by its number, decimal or
hexadecimal, or by a name.  A name ends with a semicolon; old names may do without, but not where a
letter, a digit or an equals sign follows.
-/

namespace SheetAudit.Page

open SheetAudit.Text

/-- The characters that the numbers from 128 to 159 stand for. -/
def oldNumbers : List (Nat × Nat) :=
  [(0x80, 0x20AC), (0x82, 0x201A), (0x83, 0x192), (0x84, 0x201E), (0x85, 0x2026), (0x86, 0x2020),
   (0x87, 0x2021), (0x88, 0x2C6), (0x89, 0x2030), (0x8A, 0x160), (0x8B, 0x2039), (0x8C, 0x152),
   (0x8E, 0x17D), (0x91, 0x2018), (0x92, 0x2019), (0x93, 0x201C), (0x94, 0x201D), (0x95, 0x2022),
   (0x96, 0x2013), (0x97, 0x2014), (0x98, 0x2DC), (0x99, 0x2122), (0x9A, 0x161), (0x9B, 0x203A),
   (0x9C, 0x153), (0x9E, 0x17E), (0x9F, 0x178)]

/-- The character that a number stands for. -/
def numbered (n : Nat) : Char :=
  if n = 0 ∨ (0xD800 ≤ n ∧ n ≤ 0xDFFF) ∨ 0x10FFFF < n then '\uFFFD'
  else Char.ofNat ((oldNumbers.lookup n).getD n)

/-- The text without a leading semicolon. -/
def dropSemicolon : List Char → List Char
  | ';' :: cs => cs
  | cs => cs

/-- Reads a number in a base from the digits at the start of a text. -/
def numberReference? (base : Nat) (isDigitChar : Char → Bool) (cs : List Char) :
    Option (List Char × List Char) :=
  let digits := cs.takeWhile isDigitChar
  if digits.isEmpty then none
  else
    let n := digits.foldl (fun n c => base * n + hexValue c) 0
    some ([numbered n], dropSemicolon (cs.dropWhile isDigitChar))

/-- Whether a character may stand in a name. -/
def isNameChar (c : Char) : Bool :=
  isLetter c || isDigit c

/-- Reads a name from the start of a text. -/
def nameReference? (cs : List Char) : Option (List Char × List Char) :=
  let name := cs.takeWhile isNameChar
  match cs.dropWhile isNameChar with
  | ';' :: rest => (named? name).map fun shown => (shown, rest)
  | rest =>
    if rest.head? = some '=' || !oldNames.contains name then none
    else (named? name).map fun shown => (shown, rest)

/-- Reads what follows an ampersand; nothing when it is no reference. -/
def reference? : List Char → Option (List Char × List Char)
  | '#' :: 'x' :: cs => numberReference? 16 isHexDigit cs
  | '#' :: 'X' :: cs => numberReference? 16 isHexDigit cs
  | '#' :: cs => numberReference? 10 isDigit cs
  | cs => nameReference? cs

/-- A semicolon at most is dropped. -/
theorem length_dropSemicolon (cs : List Char) : (dropSemicolon cs).length ≤ cs.length := by
  unfold dropSemicolon
  split <;> simp

/-- Nothing is put back when a reference by number is read. -/
theorem length_numberReference {base : Nat} {p : Char → Bool} {cs rest shown : List Char}
    (h : numberReference? base p cs = some (shown, rest)) : rest.length ≤ cs.length := by
  simp only [numberReference?] at h
  split at h
  · simp at h
  · simp only [Option.some.injEq, Prod.mk.injEq] at h
    rw [← h.2]
    exact Nat.le_trans (length_dropSemicolon _) (List.dropWhile_sublist _).length_le

/-- Nothing is put back when a reference by name is read. -/
theorem length_nameReference {cs rest shown : List Char}
    (h : nameReference? cs = some (shown, rest)) : rest.length ≤ cs.length := by
  have hle : (cs.dropWhile isNameChar).length ≤ cs.length :=
    (List.dropWhile_sublist _).length_le
  simp only [nameReference?] at h
  split at h
  · next hd =>
    simp only [Option.map_eq_some_iff, Prod.mk.injEq] at h
    obtain ⟨_, _, _, rfl⟩ := h
    rw [hd] at hle
    simp only [List.length_cons] at hle
    omega
  · split at h
    · simp at h
    · simp only [Option.map_eq_some_iff, Prod.mk.injEq] at h
      obtain ⟨_, _, _, rfl⟩ := h
      exact hle

/-- What follows a reference is no longer than what follows its ampersand. -/
theorem length_reference {cs rest shown : List Char}
    (h : reference? cs = some (shown, rest)) : rest.length ≤ cs.length := by
  unfold reference? at h
  split at h
  · have := length_numberReference h
    simp only [List.length_cons]; omega
  · have := length_numberReference h
    simp only [List.length_cons]; omega
  · have := length_numberReference h
    simp only [List.length_cons]; omega
  · exact length_nameReference h

/-- Replaces the references in a text; `out` holds what is done, last character first. -/
def decodeFrom (out : List Char) (cs : List Char) : List Char :=
  match cs with
  | [] => out.reverse
  | c :: rest =>
    if c = '&' then
      match _h : reference? rest with
      | some (shown, after) => decodeFrom (shown.reverse ++ out) after
      | none => decodeFrom (c :: out) rest
    else decodeFrom (c :: out) rest
termination_by cs.length
decreasing_by
  · have := length_reference _h
    simp only [List.length_cons]; omega
  · simp
  · simp

/-- The text of an attribute's value. -/
def decodeReferences (cs : List Char) : List Char :=
  decodeFrom [] cs

end SheetAudit.Page

import SheetAudit.Text.Cut

/-!
# Patterns in selector text

A pattern recognises some texts at the place where it is tried.  `Pattern.pieces` goes through a
text from left to right and takes every place where the pattern fits, as much as the pattern can
take and never a character twice.  The hits can then be counted or replaced.

* `Pattern.marked` fits a mark, a first character and all the characters that may follow.
* `Pattern.enclosed` fits from an opening character to the next closing character.
-/

namespace SheetAudit.Selector

open SheetAudit.Text

/-- A way to recognise the beginning of a text. -/
structure Pattern where
  /-- The recognised beginning and the rest of the text, if the pattern fits. -/
  head? : List Char → Option (List Char × List Char)
  /-- A recognised beginning is a non-empty beginning of the text. -/
  split : ∀ {cs taken rest}, head? cs = some (taken, rest) → taken ≠ [] ∧ taken ++ rest = cs

/-- A character of a text, or a place where a pattern fits. -/
inductive Piece where
  /-- A character at which the pattern does not fit. -/
  | plain (c : Char)
  /-- The text that the pattern takes. -/
  | hit (taken : List Char)
  deriving DecidableEq, Repr

/-- The text of a piece. -/
def Piece.text : Piece → List Char
  | .plain c => [c]
  | .hit taken => taken

/-- Whether a piece is a hit. -/
def Piece.isHit : Piece → Bool
  | .plain _ => false
  | .hit _ => true

/-- The text of a piece, where `replacement` stands for each hit. -/
def Piece.replaced (replacement : List Char) : Piece → List Char
  | .plain c => [c]
  | .hit _ => replacement

namespace Pattern

/-- What follows a recognised beginning is shorter than the text. -/
theorem length_rest_lt (p : Pattern) {cs taken rest : List Char}
    (h : p.head? cs = some (taken, rest)) : rest.length < cs.length := by
  obtain ⟨hne, rfl⟩ := p.split h
  have := List.length_pos_iff.2 hne
  simp only [List.length_append]
  omega

/-- Collects the pieces of a text; `done` holds those already found, last one first. -/
def piecesFrom (p : Pattern) (done : List Piece) (cs : List Char) : List Piece :=
  match cs with
  | [] => done.reverse
  | c :: tail =>
    match _h : p.head? (c :: tail) with
    | some (taken, rest) => piecesFrom p (.hit taken :: done) rest
    | none => piecesFrom p (.plain c :: done) tail
termination_by cs.length
decreasing_by
  · exact p.length_rest_lt _h
  · simp

/-- The pieces of a text, in order. -/
def pieces (p : Pattern) (cs : List Char) : List Piece :=
  p.piecesFrom [] cs

/-- The number of places where a pattern fits. -/
def count (p : Pattern) (cs : List Char) : Nat :=
  (p.pieces cs).countP Piece.isHit

/-- The text with every hit replaced. -/
def replace (p : Pattern) (replacement cs : List Char) : List Char :=
  (p.pieces cs).flatMap (Piece.replaced replacement)

/-- The text without the hits. -/
def erase (p : Pattern) (cs : List Char) : List Char :=
  p.replace [] cs

/-- Recognises `mark`, then a character of the class `first`, then all that follows of the class
`others`. -/
def marked (mark : List Char) (first others : Char → Bool) : Pattern where
  head? cs :=
    match behind? mark cs with
    | some (c :: tail) =>
      if first c then some (mark ++ c :: tail.takeWhile others, tail.dropWhile others) else none
    | _ => none
  split {cs taken rest} h := by
    split at h
    · next c tail hm =>
      split at h
      · simp only [Option.some.injEq, Prod.mk.injEq] at h
        obtain ⟨rfl, rfl⟩ := h
        simp [eq_append_of_behind? hm]
      · simp at h
    · simp at h

/-- Recognises the character `first`, then everything up to the next `last`, which it takes. -/
def enclosed (first last : Char) : Pattern where
  head? cs :=
    match cs with
    | [] => none
    | c :: tail =>
      if c = first then
        (cut? [last] tail).map fun (inside, rest) => (c :: inside ++ [last], rest)
      else none
  split {cs taken rest} h := by
    split at h
    · simp at h
    · next c tail =>
      split at h
      · simp only [Option.map_eq_some_iff, Prod.exists, Prod.mk.injEq] at h
        obtain ⟨inside, r, hcut, rfl, rfl⟩ := h
        simp [eq_append_of_cut? hcut]
      · simp at h

end Pattern

end SheetAudit.Selector

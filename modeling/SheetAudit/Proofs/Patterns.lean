import SheetAudit.Proofs.Cut
import SheetAudit.Selector.Pattern

/-!
# Pieces of a text

A pattern goes through a text from left to right.  Here its pieces are taken apart at the front of
the text: a stretch in which the pattern can start nowhere is all plain, and a stretch that the
pattern takes is one hit, whatever stands behind it as long as that does not go on with the hit.

## Key results

- `pieces_of_head?` / `pieces_append_of_plain`: a hit and a plain stretch at the front
- `head?_marked_append` / `head?_enclosed_append`: what the patterns take
- `pieces_flatMap_append`: a text made of blocks
-/

namespace SheetAudit.Selector

open SheetAudit.Text

namespace Pattern

variable {p : Pattern} {cs u taken rest : List Char} {c : Char}

/-! ## The front of a text -/

/-- The pieces in hand come in front of those that are still to come. -/
theorem piecesFrom_eq_append (p : Pattern) (done : List Piece) (cs : List Char) :
    p.piecesFrom done cs = done.reverse ++ p.piecesFrom [] cs := by
  match cs with
  | [] => simp [piecesFrom]
  | c :: tail =>
    -- both sides look at the same place, the one with its pieces in hand and the other without
    rw [piecesFrom, piecesFrom.eq_def p []]
    dsimp only
    split
    · next taken rest h =>
      have hrest : rest.length < (c :: tail).length := p.length_rest_lt h
      rw [piecesFrom_eq_append p (.hit taken :: done), piecesFrom_eq_append p [.hit taken]]
      simp
    · rw [piecesFrom_eq_append p (.plain c :: done), piecesFrom_eq_append p [.plain c]]
      simp
termination_by cs.length
decreasing_by
  · exact hrest
  · exact hrest
  · exact Nat.lt_succ_self _
  · exact Nat.lt_succ_self _

/-- An empty text has no pieces. -/
@[simp] theorem pieces_nil (p : Pattern) : p.pieces [] = [] := by
  simp [pieces, piecesFrom]

/-- A pattern that fits takes its hit, and goes on behind it. -/
theorem pieces_of_head? (h : p.head? cs = some (taken, rest)) :
    p.pieces cs = .hit taken :: p.pieces rest := by
  cases cs with
  | nil => exact absurd (p.length_rest_lt h) (Nat.not_lt_zero _)
  | cons c tail =>
    rw [pieces, piecesFrom]
    -- the pieces of the rest are gathered behind the hit
    split
    · next taken' rest' h' =>
      obtain ⟨rfl, rfl⟩ := Prod.mk.inj (Option.some.inj (h'.symm.trans h))
      rw [piecesFrom_eq_append]
      rfl
    · next h' =>
      rw [h] at h'
      cases h'

/-- A pattern that does not fit passes one character. -/
theorem pieces_cons_of_head?_eq_none {tail : List Char} (h : p.head? (c :: tail) = none) :
    p.pieces (c :: tail) = .plain c :: p.pieces tail := by
  rw [pieces, piecesFrom]
  split
  · next h' =>
    rw [h] at h'
    cases h'
  · rw [piecesFrom_eq_append]
    rfl

/-- A pattern passes a stretch in which it can start nowhere. -/
theorem pieces_append_of_plain (hu : ∀ c ∈ u, ∀ tail, p.head? (c :: tail) = none)
    (v : List Char) : p.pieces (u ++ v) = u.map .plain ++ p.pieces v := by
  -- on the stretch, one plain character at a time
  induction u with
  | nil => rfl
  | cons c u ih =>
    obtain ⟨hc, hu⟩ := List.forall_mem_cons.mp hu
    rw [List.cons_append, pieces_cons_of_head?_eq_none (hc _), ih hu]
    rfl

/-- A pattern that starts with one character passes a stretch without it. -/
theorem pieces_append_of_not_mem {m : Char} (hstart : ∀ c ≠ m, ∀ tail, p.head? (c :: tail) = none)
    (hu : m ∉ u) (v : List Char) : p.pieces (u ++ v) = u.map .plain ++ p.pieces v := by
  refine pieces_append_of_plain (fun c hc => hstart c ?_) v
  rintro rfl
  exact hu hc

/-! ## Marked names -/

section Marked

variable {first others : Char → Bool}

/-- A marked name starts with its mark. -/
theorem head?_marked_of_ne {m : Char} {mark : List Char} (h : c ≠ m) (tail : List Char) :
    (marked (m :: mark) first others).head? (c :: tail) = none := by
  simp [marked, behind?, h.symm]

/-- A name without a mark starts with a character of its class. -/
theorem head?_marked_nil_of_not (h : first c = false) (tail : List Char) :
    (marked [] first others).head? (c :: tail) = none := by
  simp [marked, behind?, h]

/-- A marked name ends where the text does not go on with it. -/
theorem head?_marked_append {tail : List Char} (mark : List Char) (hc : first c = true)
    (htail : ∀ x ∈ tail, others x = true) (hrest : ∀ x ∈ rest.head?, others x = false) :
    (marked mark first others).head? (mark ++ c :: tail ++ rest) =
      some (mark ++ c :: tail, rest) := by
  have hbehind : behind? mark (mark ++ c :: tail ++ rest) = some (c :: (tail ++ rest)) :=
    behind?_eq_some_iff.mpr (by simp)
  -- nothing of the rest is taken, since it starts with a character of another class
  have htake : rest.takeWhile others = [] := by
    cases rest with
    | nil => rfl
    | cons x rest => simp [hrest x rfl]
  have hdrop : rest.dropWhile others = rest := by
    cases rest with
    | nil => rfl
    | cons x rest => simp [hrest x rfl]
  simp only [marked, hbehind, hc, if_true, List.takeWhile_append_of_pos htail,
    List.dropWhile_append_of_pos htail, htake, hdrop, List.append_nil]

end Marked

/-! ## Enclosed text -/

/-- Enclosed text starts with its opening character. -/
theorem head?_enclosed_of_ne {first last : Char} (h : c ≠ first) (tail : List Char) :
    (enclosed first last).head? (c :: tail) = none := by
  simp [enclosed, h]

/-- Enclosed text ends with the first closing character. -/
theorem head?_enclosed_append {first last : Char} {inside : List Char} (h : last ∉ inside)
    (rest : List Char) :
    (enclosed first last).head? (first :: inside ++ [last] ++ rest) =
      some (first :: inside ++ [last], rest) := by
  have hcut : cut? [last] (inside ++ last :: rest) = some (inside, rest) :=
    cut?_singleton_eq_some_iff.mpr ⟨rfl, h⟩
  simp [enclosed, hcut]

/-! ## Texts made of blocks -/

section Blocks

variable {α : Type} {text : α → List Char} {apart : List Char → Prop} {blocks : List α}

/-- What stands apart from a text in front still does when blocks that stand apart come between. -/
theorem apart_flatMap_append {v : List Char}
    (hapart : ∀ b ∈ blocks, ∀ v, apart v → apart (text b ++ v)) (hv : apart v) :
    apart (blocks.flatMap text ++ v) := by
  induction blocks with
  | nil => exact hv
  | cons b blocks ih =>
    obtain ⟨hb, hblocks⟩ := List.forall_mem_cons.mp hapart
    rw [List.flatMap_cons, List.append_assoc]
    exact hb _ (ih hblocks)

/-- A text made of blocks has the pieces of its blocks, if each block has its pieces whatever stands
    behind it as long as that stands apart. -/
theorem pieces_flatMap_append {out : α → List Piece} {v : List Char}
    (hblock : ∀ b ∈ blocks, ∀ v, apart v → p.pieces (text b ++ v) = out b ++ p.pieces v)
    (hapart : ∀ b ∈ blocks, ∀ v, apart v → apart (text b ++ v)) (hv : apart v) :
    p.pieces (blocks.flatMap text ++ v) = blocks.flatMap out ++ p.pieces v := by
  -- on the blocks; what stands behind one is the blocks that follow it
  induction blocks with
  | nil => rfl
  | cons b blocks ih =>
    obtain ⟨hb, hblocks⟩ := List.forall_mem_cons.mp hblock
    obtain ⟨-, hrest⟩ := List.forall_mem_cons.mp hapart
    rw [List.flatMap_cons, List.flatMap_cons, List.append_assoc, List.append_assoc,
      hb _ (apart_flatMap_append hrest hv), ih hblocks hrest]

end Blocks

end Pattern

end SheetAudit.Selector

import Mathlib.Data.List.Infix
import Mathlib.Data.List.TakeWhile
import SheetAudit.Text.Cut

/-!
# First occurrences of a mark

`cut?` walks along a text and carries what it has passed in an accumulator.  Here it is said without
the walk: a cut is a way to write the text as `u ++ mark ++ rest` in which the mark does not begin
inside `u`, and there is at most one such way.

## Key results

- `cut?_eq_some_iff`: a cut is the first occurrence of the mark
- `cut?_eq_none_iff` / `occurs_iff_isInfix`: no cut means that the mark is nowhere in the text
- `cut?_singleton_eq_some_iff` / `partition_singleton`: the same for a mark of one character
- `pair_infix_append_iff` / `cut?_pair_append`: a mark of two characters in a text of two parts
-/

namespace SheetAudit.Text

variable {mark cs u rest : List Char}

/-! ## Starting with a mark -/

/-- `behind?` succeeds exactly on the texts that start with the mark. -/
theorem behind?_eq_some_iff : behind? mark cs = some rest ↔ cs = mark ++ rest := by
  refine ⟨eq_append_of_behind?, ?_⟩
  rintro rfl
  induction mark with
  | nil => rfl
  | cons m ms ih => simpa [behind?] using ih

/-- `behind?` fails exactly on the texts that do not start with the mark. -/
theorem behind?_eq_none_iff : behind? mark cs = none ↔ ¬ mark <+: cs := by
  rw [← not_iff_not, ← ne_eq, Option.ne_none_iff_exists', not_not]
  constructor
  · rintro ⟨rest, h⟩
    exact ⟨rest, (behind?_eq_some_iff.mp h).symm⟩
  · rintro ⟨rest, h⟩
    exact ⟨rest, behind?_eq_some_iff.mpr h.symm⟩

/-! ## The walk without its accumulator -/

/-- What was passed before the walk started only goes in front of the first part. -/
private theorem cutFrom?_eq_map (mark before cs : List Char) :
    cutFrom? mark before cs = (cut? mark cs).map fun p => (before.reverse ++ p.1, p.2) := by
  simp only [cut?]
  -- on the text that is left; what was passed grows with each character
  induction cs generalizing before with
  | nil => simp only [cutFrom?]; split <;> simp
  | cons c cs ih =>
    simp only [cutFrom?]
    split
    · simp
    · rw [ih (c :: before), ih [c], Option.map_map]
      congr 1
      funext p
      simp

/-- One step of the walk: the mark stands here, or one character is passed. -/
theorem cut?_cons (mark : List Char) (c : Char) (cs : List Char) :
    cut? mark (c :: cs) =
      match behind? mark (c :: cs) with
      | some rest => some ([], rest)
      | none => (cut? mark cs).map fun p => (c :: p.1, p.2) := by
  rw [cut?, cutFrom?]
  cases behind? mark (c :: cs) with
  | some rest => rfl
  | none => rw [cutFrom?_eq_map]; rfl

/-! ## First occurrences -/

/-- A mark does not fit into itself without its last character. -/
private theorem not_infix_dropLast (hm : mark ≠ []) : ¬ mark <:+: mark.dropLast := by
  intro h
  have hlen := h.length_le
  have hpos := List.length_pos_iff.mpr hm
  rw [List.length_dropLast] at hlen
  omega

/-- The mark does not begin inside the first part of a cut. -/
private theorem not_infix_of_cut? (hm : mark ≠ []) (h : cut? mark cs = some (u, rest)) :
    ¬ mark <:+: u ++ mark.dropLast := by
  -- at each place the mark stands, or it does not and one character is passed
  induction cs generalizing u with
  | nil => simp [cut?, cutFrom?, hm] at h
  | cons c cs ih =>
    have heq := eq_append_of_cut? h
    rw [cut?_cons] at h
    split at h
    · obtain ⟨rfl, rfl⟩ := Prod.mk.inj (Option.some.inj h)
      exact not_infix_dropLast hm
    · next hb =>
      obtain ⟨⟨v, r⟩, hv, hp⟩ := Option.map_eq_some_iff.mp h
      obtain ⟨rfl, rfl⟩ := Prod.mk.inj hp
      rw [List.cons_append, List.infix_cons_iff, not_or]
      refine ⟨fun hpre => behind?_eq_none_iff.mp hb ?_, ih hv⟩
      -- what stands before the end of the mark's occurrence is a prefix of the text
      rw [heq, List.append_assoc]
      refine hpre.trans ⟨mark.getLast hm :: r, ?_⟩
      rw [List.append_cons, List.cons_append, List.append_assoc v, List.dropLast_concat_getLast hm,
        List.cons_append, List.append_assoc, List.cons_append]

/-- A text written around a mark that does not begin earlier is cut there. -/
theorem cut?_append (hm : mark ≠ []) (hu : ¬ mark <:+: u ++ mark.dropLast) :
    cut? mark (u ++ mark ++ rest) = some (u, rest) := by
  -- on the text in front of the mark
  induction u with
  | nil =>
    obtain ⟨m, ms, rfl⟩ := List.exists_cons_of_ne_nil hm
    have hb : behind? (m :: ms) (m :: (ms ++ rest)) = some rest := behind?_eq_some_iff.mpr rfl
    rw [List.nil_append, List.cons_append, cut?_cons, hb]
  | cons c u ih =>
    rw [List.cons_append, List.infix_cons_iff, not_or] at hu
    -- a mark that started here would end before the one behind `u` does
    have hb : behind? mark (c :: (u ++ mark ++ rest)) = none := by
      rw [behind?_eq_none_iff]
      refine fun hpre => hu.1 (List.prefix_of_prefix_length_le hpre ?_ ?_)
      · refine ⟨mark.getLast hm :: rest, ?_⟩
        rw [List.append_cons, List.cons_append, List.append_assoc u,
          List.dropLast_concat_getLast hm, List.cons_append]
      · have hpos := List.length_pos_iff.mpr hm
        simp only [List.length_cons, List.length_append, List.length_dropLast]
        omega
    rw [List.cons_append, List.cons_append, cut?_cons, hb, ih hu.2]
    rfl

/-- A cut is the first occurrence of the mark. -/
theorem cut?_eq_some_iff (hm : mark ≠ []) :
    cut? mark cs = some (u, rest) ↔ cs = u ++ mark ++ rest ∧ ¬ mark <:+: u ++ mark.dropLast := by
  constructor
  · intro h
    exact ⟨eq_append_of_cut? h, not_infix_of_cut? hm h⟩
  · rintro ⟨rfl, hu⟩
    exact cut?_append hm hu

/-- There is no cut exactly when the mark occurs nowhere. -/
theorem cut?_eq_none_iff (hm : mark ≠ []) : cut? mark cs = none ↔ ¬ mark <:+: cs := by
  induction cs with
  | nil => simp [cut?, cutFrom?, hm]
  | cons c cs ih =>
    rw [cut?_cons, List.infix_cons_iff, not_or, ← behind?_eq_none_iff, ← ih]
    cases behind? mark (c :: cs) <;> simp

/-- `occurs` is the infix relation. -/
theorem occurs_iff_isInfix (hm : mark ≠ []) : occurs mark cs = true ↔ mark <:+: cs := by
  rw [occurs, Option.isSome_iff_ne_none, ne_eq, cut?_eq_none_iff hm, not_not]

/-! ## Marks of one and of two characters -/

/-- A cut at a character: the first part is free of it. -/
theorem cut?_singleton_eq_some_iff {c : Char} :
    cut? [c] cs = some (u, rest) ↔ cs = u ++ c :: rest ∧ c ∉ u := by
  rw [cut?_eq_some_iff (by simp), List.append_assoc]
  simp [List.singleton_infix_iff]

/-- A character at which there is no cut is nowhere in the text. -/
theorem cut?_singleton_eq_none_iff {c : Char} : cut? [c] cs = none ↔ c ∉ cs := by
  rw [cut?_eq_none_iff (by simp), List.singleton_infix_iff]

/-- All characters differ from one that is nowhere in the text. -/
theorem bne_of_notMem {c : Char} (h : c ∉ cs) : ∀ d ∈ cs, (d != c) = true := by
  intro d hd
  rw [bne_iff_ne]
  rintro rfl
  exact h hd

/-- The two sides of the first occurrence of a character. -/
theorem partition_singleton (c : Char) (cs : List Char) :
    partition [c] cs = (cs.takeWhile (· != c), (cs.dropWhile (· != c)).tail) := by
  cases h : cut? [c] cs with
  | none =>
    have hpass := bne_of_notMem (cut?_singleton_eq_none_iff.mp h)
    rw [partition, h, List.takeWhile_eq_self_iff.mpr hpass, List.dropWhile_eq_nil_iff.mpr hpass]
    rfl
  | some p =>
    obtain ⟨rfl, hu⟩ := cut?_singleton_eq_some_iff.mp h
    rw [partition, h, List.takeWhile_append_of_pos (bne_of_notMem hu),
      List.dropWhile_append_of_pos (bne_of_notMem hu)]
    simp

/-- Two characters that stand side by side in `u ++ v` do so in one of the parts, or they are the
    last of `u` and the first of `v`. -/
theorem pair_infix_append_iff {x y : Char} {u v : List Char} :
    [x, y] <:+: u ++ v ↔
      [x, y] <:+: u ∨ [x, y] <:+: v ∨ u.getLast? = some x ∧ v.head? = some y := by
  -- an occurrence in neither part is cut in two, a piece for each part
  rw [List.infix_append_iff_ne_nil, ← List.singleton_suffix_iff_getLast?_eq_some,
    ← List.singleton_prefix_iff_head?_eq_some]
  refine or_congr_right (or_congr_right ⟨?_, ?_⟩)
  · rintro ⟨l₁, l₂, h₁, h₂, hl, hu, hv⟩
    -- both parts are non-empty, so the pair is cut between its two characters
    match l₁, l₂ with
    | [a], [b] =>
      obtain ⟨rfl, rfl⟩ : x = a ∧ y = b := by simpa using hl
      exact ⟨hu, hv⟩
    | [], _ => exact absurd rfl h₁
    | _, [] => exact absurd rfl h₂
    | _ :: _ :: _, _ :: _ => simp at hl
    | _ :: _, _ :: _ :: _ => simp [List.cons_eq_append_iff] at hl
  · rintro ⟨hu, hv⟩
    exact ⟨[x], [y], by simp, by simp, rfl, hu, hv⟩

/-- A mark of two characters that is in neither part and not across the seam is not there. -/
theorem not_pair_infix_append {x y : Char} {u v : List Char} (hu : ¬ [x, y] <:+: u)
    (hv : ¬ [x, y] <:+: v) (hseam : ¬ (u.getLast? = some x ∧ v.head? = some y)) :
    ¬ [x, y] <:+: u ++ v := by
  rw [pair_infix_append_iff]
  simp only [hu, hv, hseam, or_self, not_false_eq_true]

/-- A mark of two characters that is not in `u`, nor across the seam, is searched for in `v`. -/
theorem cut?_pair_append {x y : Char} {u v : List Char} (hu : ¬ [x, y] <:+: u)
    (hseam : ¬ (u.getLast? = some x ∧ v.head? = some y)) :
    cut? [x, y] (u ++ v) = (cut? [x, y] v).map fun p => (u ++ p.1, p.2) := by
  -- there is no mark in `v` either, or the first one there is the first of all
  cases hv : cut? [x, y] v with
  | none =>
    rw [cut?_eq_none_iff (by simp)] at hv
    rw [Option.map_none, cut?_eq_none_iff (by simp)]
    exact not_pair_infix_append hu hv hseam
  | some p =>
    obtain ⟨w, rest⟩ := p
    obtain ⟨rfl, hw⟩ := (cut?_eq_some_iff (by simp)).mp hv
    have hhead : (w ++ [x]).head? = (w ++ [x, y] ++ rest).head? := by
      cases w <;> simp
    rw [Option.map_some, ← List.append_assoc, ← List.append_assoc]
    refine cut?_append (by simp) ?_
    rw [List.append_assoc]
    exact not_pair_infix_append hu hw (hhead ▸ hseam)

/-- What a text does not end with, no end of it ends with. -/
theorem getLast?_ne_of_append {c : Char} {u v : List Char} (h : (u ++ v).getLast? ≠ some c) :
    v.getLast? ≠ some c := by
  intro hv
  have hne : v ≠ [] := by
    rintro rfl
    cases hv
  exact h (List.getLast?_append_of_ne_nil u hne ▸ hv)

end SheetAudit.Text

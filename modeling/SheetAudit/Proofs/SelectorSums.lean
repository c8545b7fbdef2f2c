import Mathlib.Data.List.DropRight
import SheetAudit.Proofs.Patterns
import SheetAudit.Proofs.SelectorSyntax

/-!
# Specificity adds up

Where a combinator stands between two texts, no pass over the whole can take a hit on both sides of
it: names and their marks hold no combinator, and an attribute ends before the combinator if the
text in front has a closing bracket behind each opening one.  Earlier passes take text away around
the combinator, but never a bracket, so this still holds for what they leave.

## Key results

- `pieces_append_cons`: a pattern that stops at a character takes both sides of it apart
- `filter_replace`: the characters that no hit of a pattern holds stay when it is replaced
- `specificity_append_combinator`: the specificity of two texts with a combinator between them
-/

namespace SheetAudit.Selector

open SheetAudit.Text

namespace Pattern

variable {p : Pattern} {c : Char} {u v : List Char}

/-! ## Going through a text -/

/-- Induction along the pieces of a text: at each place the pattern fits and takes a hit, or it
    passes one character. -/
@[elab_as_elim]
theorem pieces_induction (p : Pattern) {motive : List Char → Prop} (nil : motive [])
    (hit : ∀ cs taken rest, p.head? cs = some (taken, rest) → motive rest → motive cs)
    (plain : ∀ c tail, p.head? (c :: tail) = none → motive tail → motive (c :: tail))
    (cs : List Char) : motive cs := by
  match cs with
  | [] => exact nil
  | c :: tail =>
    cases h : p.head? (c :: tail) with
    | none => exact plain c tail h (pieces_induction p nil hit plain tail)
    | some found =>
      obtain ⟨taken, rest⟩ := found
      have hshort : rest.length < (c :: tail).length := p.length_rest_lt h
      exact hit _ taken rest h (pieces_induction p nil hit plain rest)
termination_by cs.length
decreasing_by
  all_goals simp only [List.length_cons] at *
  all_goals omega

/-- The pieces of a text, one after the other, are the text. -/
private theorem flatMap_text_pieces (p : Pattern) (cs : List Char) :
    (p.pieces cs).flatMap Piece.text = cs := by
  -- along the pieces: a hit and the rest behind it are the text it was taken from
  induction cs using pieces_induction p with
  | nil => simp
  | hit cs taken rest h ih =>
    rw [pieces_of_head? h, List.flatMap_cons, ih]
    exact (p.split h).2
  | plain c tail h ih =>
    rw [pieces_cons_of_head?_eq_none h, List.flatMap_cons, ih]
    rfl

/-- A hit is what the pattern takes at some place. -/
private theorem exists_head?_of_hit_mem {taken cs : List Char} (h : .hit taken ∈ p.pieces cs) :
    ∃ s rest, p.head? s = some (taken, rest) := by
  -- along the pieces, to the place where the hit was taken
  induction cs using pieces_induction p with
  | nil => simp at h
  | hit cs taken' rest hcs ih =>
    rw [pieces_of_head? hcs, List.mem_cons] at h
    rcases h with h | h
    · obtain rfl : taken = taken' := Piece.hit.inj h
      exact ⟨cs, rest, hcs⟩
    · exact ih h
  | plain c tail hc ih =>
    rw [pieces_cons_of_head?_eq_none hc, List.mem_cons] at h
    rcases h with h | h
    · cases h
    · exact ih h

/-! ## Characters outside the hits -/

/-- Whether no hit of a pattern holds a character of a class. -/
def Avoids (p : Pattern) (f : Char → Bool) : Prop :=
  ∀ s taken rest, p.head? s = some (taken, rest) → ∀ c ∈ taken, f c = false

/-- The characters that no hit holds stay as they are when the hits are replaced. -/
theorem filter_replace {f : Char → Bool} {replacement : List Char} (hp : p.Avoids f)
    (hreplacement : ∀ c ∈ replacement, f c = false) (cs : List Char) :
    (p.replace replacement cs).filter f = cs.filter f := by
  -- a hit has none of these characters, nor has what replaces it
  have hpiece : ∀ q ∈ p.pieces cs,
      (q.replaced replacement).filter f = q.text.filter f := by
    intro q hq
    cases q with
    | plain c => rfl
    | hit taken =>
      obtain ⟨s, rest, hs⟩ := exists_head?_of_hit_mem hq
      have htaken : taken.filter f = [] := List.filter_eq_nil_iff.mpr (by simpa using hp s _ _ hs)
      have hnone : replacement.filter f = [] :=
        List.filter_eq_nil_iff.mpr (by simpa using hreplacement)
      rw [Piece.replaced, Piece.text, htaken, hnone]
  calc (p.replace replacement cs).filter f
      = (p.pieces cs).flatMap fun q => (q.replaced replacement).filter f := by
        rw [replace, List.filter_flatMap]
    _ = (p.pieces cs).flatMap fun q => q.text.filter f := List.flatMap_congr hpiece
    _ = cs.filter f := by rw [← List.filter_flatMap, flatMap_text_pieces]

/-- A marked name avoids what neither its mark nor its classes hold. -/
private theorem avoids_marked {mark : List Char} {first others f : Char → Bool}
    (hmark : ∀ c ∈ mark, f c = false) (hfirst : ∀ c, first c = true → f c = false)
    (hothers : ∀ c, others c = true → f c = false) : (marked mark first others).Avoids f := by
  intro s taken rest h c hc
  simp only [marked] at h
  split at h
  · next d tail hd =>
    split at h
    · next hfits =>
      obtain ⟨rfl, -⟩ := Prod.mk.inj (Option.some.inj h)
      rw [List.mem_append, List.mem_cons] at hc
      -- a character of the hit is in the mark, or is its first behind it, or a later one
      rcases hc with hc | rfl | hc
      · exact hmark c hc
      · exact hfirst c hfits
      · exact hothers c (List.mem_takeWhile_imp hc)
    · cases h
  · cases h

/-! ## Stopping at a character -/

/-- Whether a pattern that is tried at the start of `u` takes the same whether the text ends behind
    `u` or goes on with the character `c`. -/
def StopsAt (p : Pattern) (c : Char) (u : List Char) : Prop :=
  ∀ v, p.head? (u ++ c :: v) = (p.head? u).map fun (taken, rest) => (taken, rest ++ c :: v)

/-- A pattern takes nothing from the empty text. -/
private theorem head?_nil (p : Pattern) : p.head? [] = none := by
  cases h : p.head? [] with
  | none => rfl
  | some found =>
    obtain ⟨taken, rest⟩ := found
    exact absurd (p.length_rest_lt h) (Nat.not_lt_zero _)

/-- A pattern that stops at a character wherever it is tried has no piece on both sides of it. -/
theorem pieces_append_cons (h : ∀ s, s <:+ u → p.StopsAt c s) (v : List Char) :
    p.pieces (u ++ c :: v) = p.pieces u ++ .plain c :: p.pieces v := by
  -- along the pieces of the left side: each is taken the same way with the right side behind it
  induction u using pieces_induction p with
  | nil =>
    have hhead := h [] List.suffix_rfl v
    rw [head?_nil, Option.map_none] at hhead
    rw [List.nil_append, pieces_cons_of_head?_eq_none hhead, pieces_nil]
    rfl
  | hit u taken rest hu ih =>
    have hhead := h u List.suffix_rfl v
    rw [hu, Option.map_some] at hhead
    have hsuffix : rest <:+ u := ⟨taken, (p.split hu).2⟩
    rw [pieces_of_head? hhead, pieces_of_head? hu, ih fun s hs => h s (hs.trans hsuffix)]
    rfl
  | plain d tail hd ih =>
    have hhead := h (d :: tail) List.suffix_rfl v
    rw [hd, Option.map_none, List.cons_append] at hhead
    rw [List.cons_append, pieces_cons_of_head?_eq_none hhead, pieces_cons_of_head?_eq_none hd,
      ih fun s hs => h s (hs.trans (List.suffix_cons d tail))]
    rfl

/-- A pattern that stops at a character counts both sides of it. -/
private theorem count_append_cons (h : ∀ s, s <:+ u → p.StopsAt c s) (v : List Char) :
    p.count (u ++ c :: v) = p.count u + p.count v := by
  rw [count, pieces_append_cons h, List.countP_append, List.countP_cons]
  rfl

/-- A pattern that stops at a character is replaced on both sides of it. -/
private theorem replace_append_cons (h : ∀ s, s <:+ u → p.StopsAt c s) (replacement v : List Char) :
    p.replace replacement (u ++ c :: v) =
      p.replace replacement u ++ c :: p.replace replacement v := by
  rw [replace, pieces_append_cons h, List.flatMap_append, List.flatMap_cons]
  rfl

/-- A pattern that stops at a character is erased on both sides of it. -/
private theorem erase_append_cons (h : ∀ s, s <:+ u → p.StopsAt c s) (v : List Char) :
    p.erase (u ++ c :: v) = p.erase u ++ c :: p.erase v :=
  replace_append_cons h [] v

/-- What follows a mark, in a text that goes on with a character that the mark does not hold. -/
private theorem behind?_append_cons {mark : List Char} (hc : c ∉ mark) (u v : List Char) :
    behind? mark (u ++ c :: v) = (behind? mark u).map (· ++ c :: v) := by
  -- by induction on the mark, which the character cannot complete
  induction mark generalizing u with
  | nil => rfl
  | cons m mark ih =>
    obtain ⟨hm, hmark⟩ := not_or.mp (List.mem_cons.not.mp hc)
    cases u with
    | nil => simp [behind?, Ne.symm hm]
    | cons d u =>
      by_cases hd : m = d
      · simpa [behind?, hd] using ih hmark u
      · simp [behind?, hd]

/-- A marked name stops at what neither its mark nor its classes hold. -/
private theorem stopsAt_marked {mark : List Char} {first others : Char → Bool} (hmark : c ∉ mark)
    (hfirst : first c = false) (hothers : others c = false) (u : List Char) :
    (marked mark first others).StopsAt c u := by
  intro v
  -- the name ends at the character at the latest
  have htake : ∀ tail : List Char, (tail ++ c :: v).takeWhile others = tail.takeWhile others := by
    intro tail
    induction tail with
    | nil => simp [hothers]
    | cons d tail ih => simp [List.takeWhile_cons, ih]
  have hdrop : ∀ tail : List Char,
      (tail ++ c :: v).dropWhile others = tail.dropWhile others ++ c :: v := by
    intro tail
    induction tail with
    | nil => simp [hothers]
    | cons d tail ih =>
      cases hd : others d
      · simp [hd]
      · simp [hd, ih]
  simp only [marked, behind?_append_cons hmark]
  cases behind? mark u with
  | none => rfl
  | some name =>
    cases name with
    | nil => simp [hfirst]
    | cons d tail =>
      by_cases hd : first d = true
      · simp [hd, htake, hdrop]
      · simp [hd]

/-- Enclosed text stops at a character that does not open it, if its closing character comes
    before. -/
private theorem stopsAt_enclosed {first last : Char} (hc : c ≠ first)
    (h : ∀ tail, u = first :: tail → last ∈ tail) : (enclosed first last).StopsAt c u := by
  intro v
  cases u with
  | nil => simp [enclosed, hc]
  | cons d tail =>
    -- without the opening character nothing is taken; with it the closing one comes before `c`
    by_cases hd : d = first
    · subst hd
      obtain ⟨inside, rest, rfl, hinside⟩ := List.eq_append_cons_of_mem (h tail rfl)
      have hcut : ∀ rest', cut? [last] (inside ++ last :: rest') = some (inside, rest') :=
        fun rest' => cut?_singleton_eq_some_iff.mpr ⟨rfl, hinside⟩
      simp [enclosed, hcut]
    · simp [enclosed, hd]

end Pattern

/-! ## Brackets -/

/-- Whether a character opens or closes an attribute. -/
def isBracket (c : Char) : Bool :=
  c == '[' || c == ']'

/-- Whether the last bracket of a text, if it has any, is a closing one. -/
def ClosesLast (cs : List Char) : Prop :=
  (cs.filter isBracket).getLast? ≠ some '['

/-- No bracket opens behind the last closing one exactly if the last bracket is a closing one. -/
private theorem closesLast_iff {cs : List Char} :
    ClosesLast cs ↔ '[' ∉ cs.rtakeWhile (· != ']') := by
  rw [ClosesLast]
  -- from the end of the text, where the last bracket stands
  induction cs using List.reverseRecOn with
  | nil => simp
  | append_singleton cs c ih =>
    by_cases hclose : c = ']'
    · simp [hclose, isBracket]
    · by_cases hopen : c = '['
      · simp [hopen, isBracket]
      · have hbracket : isBracket c = false := by simp [isBracket, hclose, hopen]
        rw [List.filter_append, List.filter_cons_of_neg (by simp [hbracket]), List.filter_nil,
          List.append_nil, ih, List.rtakeWhile_concat_pos _ _ _ (by simpa using hclose),
          List.mem_append, List.mem_singleton, or_iff_left (Ne.symm hopen)]

/-- Behind an opening bracket there is a closing one, if the last bracket is a closing one. -/
private theorem ClosesLast.mem_tail {cs tail : List Char} (h : ClosesLast cs)
    (htail : '[' :: tail <:+ cs) :
    ']' ∈ tail := by
  obtain ⟨u, rfl⟩ := htail
  have hbracket : isBracket '[' = true := rfl
  rw [ClosesLast, List.filter_append, List.filter_cons_of_pos hbracket, List.getLast?_append,
    List.getLast?_cons] at h
  -- the last bracket stands behind the opening one, or is that one itself
  cases hlast : (tail.filter isBracket).getLast? with
  | none => simp [hlast] at h
  | some c =>
    rw [hlast] at h
    have hc : c ∈ tail.filter isBracket := List.mem_of_getLast? hlast
    obtain ⟨hmem, hbracket⟩ := List.mem_filter.mp hc
    have hc' : c = ']' := by simpa [isBracket, show c ≠ '[' by simpa using h] using hbracket
    exact hc' ▸ hmem

/-- No character of a name is a bracket. -/
private theorem isBracket_of_isNameChar {c : Char} (h : isNameChar c = true) :
    isBracket c = false := by
  have hbrackets : isNameChar '[' = false ∧ isNameChar ']' = false := by decide
  rw [isBracket, Bool.or_eq_false_iff, beq_eq_false_iff_ne, beq_eq_false_iff_ne]
  -- each of the two brackets is checked
  constructor
  · rintro rfl
    exact absurd h (by simp [hbrackets.1])
  · rintro rfl
    exact absurd h (by simp [hbrackets.2])

/-- The last bracket stays the same when names without brackets are replaced. -/
theorem ClosesLast.replace {mark replacement cs : List Char} {first others : Char → Bool}
    (h : ClosesLast cs) (hmark : ∀ c ∈ mark, isBracket c = false)
    (hfirst : ∀ c, first c = true → isNameChar c = true)
    (hothers : ∀ c, others c = true → isNameChar c = true)
    (hreplacement : ∀ c ∈ replacement, isBracket c = false) :
    ClosesLast ((Pattern.marked mark first others).replace replacement cs) := by
  have havoids : (Pattern.marked mark first others).Avoids isBracket :=
    Pattern.avoids_marked hmark (fun c hc => isBracket_of_isNameChar (hfirst c hc))
      (fun c hc => isBracket_of_isNameChar (hothers c hc))
  rw [ClosesLast, Pattern.filter_replace havoids hreplacement]
  exact h

/-! ## Two sides of a combinator -/

/-- No mark of a part is a combinator. -/
private theorem isCombinator_mark :
    isCombinator ':' = false ∧ isCombinator '#' = false ∧ isCombinator '.' = false := by
  decide

section Combinator

variable {c : Char} (hc : isCombinator c = true)
include hc

/-- A name stops at a combinator. -/
private theorem stopsAt_of_isCombinator {mark : List Char} {first others : Char → Bool}
    (hmark : ∀ m ∈ mark, isCombinator m = false)
    (hfirst : ∀ c, first c = true → isNameChar c = true)
    (hothers : ∀ c, others c = true → isNameChar c = true) (u : List Char) :
    (Pattern.marked mark first others).StopsAt c u := by
  have hname := isNameChar_of_isCombinator hc
  refine Pattern.stopsAt_marked ?_ ?_ ?_ u
  · intro hmem
    exact absurd (hmark c hmem) (by simp [hc])
  · exact Bool.eq_false_iff.mpr fun h => by simp [hfirst c h] at hname
  · exact Bool.eq_false_iff.mpr fun h => by simp [hothers c h] at hname

/-- A pseudo-element stops at a combinator. -/
private theorem stopsAt_pseudoElement (u : List Char) : pseudoElement.StopsAt c u :=
  stopsAt_of_isCombinator hc (by simp [isCombinator_mark]) (fun _ => isNameChar_of_isPseudoChar)
    (fun _ => isNameChar_of_isPseudoChar) u

/-- An identifier stops at a combinator. -/
private theorem stopsAt_identifier (u : List Char) : identifier.StopsAt c u :=
  stopsAt_of_isCombinator hc (by simp [isCombinator_mark])
    (fun _ => isNameChar_of_isNameStart) (fun _ => id) u

/-- A class stops at a combinator. -/
private theorem stopsAt_className (u : List Char) : className.StopsAt c u :=
  stopsAt_of_isCombinator hc (by simp [isCombinator_mark])
    (fun _ => isNameChar_of_isNameStart) (fun _ => id) u

/-- A pseudo-class stops at a combinator. -/
private theorem stopsAt_pseudoClass (u : List Char) : pseudoClass.StopsAt c u :=
  stopsAt_of_isCombinator hc (by simp [isCombinator_mark]) (fun _ => isNameChar_of_isPseudoChar)
    (fun _ => isNameChar_of_isPseudoChar) u

/-- The name of an element stops at a combinator. -/
private theorem stopsAt_element (u : List Char) : element.StopsAt c u :=
  stopsAt_of_isCombinator hc (by simp) (fun _ => isNameChar_of_isLetter) (fun _ => id) u

/-- An attribute stops at a combinator, if each opening bracket in front has a closing one behind
    it. -/
private theorem stopsAt_attributeTest {u : List Char} (hu : ClosesLast u) (s : List Char)
    (hs : s <:+ u) :
    attributeTest.StopsAt c s := by
  refine Pattern.stopsAt_enclosed ?_ ?_
  · rintro rfl
    exact absurd hc (by decide)
  · rintro tail rfl
    exact hu.mem_tail hs

end Combinator

/-- The specificity of two texts with a combinator between them is the sum of theirs, if no bracket
    opens in the first behind its last closing bracket. -/
theorem specificity_append_combinator (a b : List Char) (c : Char) (hc : isCombinator c = true)
    (ha : '[' ∉ a.rtakeWhile (· != ']')) :
    specificity (a ++ c :: b) = (specificity a).add (specificity b) := by
  have hmarked : ClosesLast (pseudoElement.replace [' ', 'E'] a) :=
    (closesLast_iff.mpr ha).replace (by simp [isBracket]) (fun _ => isNameChar_of_isPseudoChar)
      (fun _ => isNameChar_of_isPseudoChar) (by simp [isBracket])
  have hnoIds : ClosesLast (identifier.erase (pseudoElement.replace [' ', 'E'] a)) :=
    hmarked.replace (by simp [isBracket]) (fun _ => isNameChar_of_isNameStart) (fun _ => id)
      (by simp)
  have hnoClasses :
      ClosesLast (className.erase (identifier.erase (pseudoElement.replace [' ', 'E'] a))) :=
    hnoIds.replace (by simp [isBracket]) (fun _ => isNameChar_of_isNameStart) (fun _ => id)
      (by simp)
  -- every pass meets what the earlier ones left of both sides, with the combinator between them
  simp only [specificity, Specificity.add,
    Pattern.replace_append_cons fun s _ => stopsAt_pseudoElement hc s,
    Pattern.erase_append_cons fun s _ => stopsAt_identifier hc s,
    Pattern.erase_append_cons fun s _ => stopsAt_className hc s,
    Pattern.erase_append_cons (stopsAt_attributeTest hc hnoClasses),
    Pattern.erase_append_cons fun s _ => stopsAt_pseudoClass hc s,
    Pattern.count_append_cons fun s _ => stopsAt_identifier hc s,
    Pattern.count_append_cons fun s _ => stopsAt_className hc s,
    Pattern.count_append_cons (stopsAt_attributeTest hc hnoIds),
    Pattern.count_append_cons fun s _ => stopsAt_pseudoClass hc s,
    Pattern.count_append_cons fun s _ => stopsAt_element hc s,
    Specificity.mk.injEq, true_and, and_true]
  omega

/-- An attribute with a combinator in it and a stray closing bracket, in front of a combinator. -/
theorem specificity_append_combinator_brackets :
    '[' ∉ "a[x>y]::b]".toList.rtakeWhile (· != ']') ∧
    specificity "a[x>y]::b]".toList = ⟨0, 1, 2⟩ ∧ specificity "#c[d".toList = ⟨1, 0, 1⟩ ∧
    specificity "a[x>y]::b]>#c[d".toList = ⟨1, 1, 3⟩ := by
  have hlast : '[' ∉ "a[x>y]::b]".toList.rtakeWhile (· != ']') := by decide
  have hleft : specificity "a[x>y]::b]".toList = ⟨0, 1, 2⟩ := by decide +kernel
  have hright : specificity "#c[d".toList = ⟨1, 0, 1⟩ := by decide +kernel
  refine ⟨hlast, hleft, hright, ?_⟩
  have hsum := specificity_append_combinator "a[x>y]::b]".toList "#c[d".toList '>' rfl hlast
  rw [hleft, hright] at hsum
  exact hsum

end SheetAudit.Selector

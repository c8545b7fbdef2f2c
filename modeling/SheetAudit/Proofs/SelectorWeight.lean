import SheetAudit.Proofs.Patterns
import SheetAudit.Proofs.SelectorSyntax

/-!
# The weight of a well-formed selector

Every pass over the text of a selector takes the parts of one kind and leaves the others as they
stand.  The text that a pass meets is the selector with some of its parts written differently: a
pseudo-element as a blank and a letter, the parts of earlier passes as nothing.  `render` writes a
selector with its parts in any such form, and its pieces under a pattern as well, so that one lemma
about `render` serves all passes.

What a pass takes must end where its part ends.  That holds because nothing that may stand behind a
part goes on with a name (`EndsName`), also after other parts are gone.

## Key results

- `Pass.pieces_render`: the pieces of a selector from those of its heads and parts
- `selects_of_mark`: the pass of a pattern that starts with one mark
- `specificity_text`: the specificity of a well-formed selector counts its parts by kind
-/

namespace SheetAudit.Selector

open SheetAudit.Text

/-! ## Writing a selector -/

section Render

variable {α β : Type}

/-- A compound selector with what `heads` and `parts` make of its start and its parts. -/
def CompoundSelector.render (heads : Head → List α) (parts : Part → List α)
    (c : CompoundSelector) : List α :=
  (c.head.map heads).getD [] ++ c.parts.flatMap parts

/-- A complex selector with what `gaps` makes of the characters between its compound selectors, and
    `heads` and `parts` of their starts and their parts. -/
def ComplexSelector.render (gaps : Char → α) (heads : Head → List α) (parts : Part → List α)
    (s : ComplexSelector) : List α :=
  s.first.render heads parts ++
    s.others.flatMap fun (k, c) => k.text.map gaps ++ c.render heads parts

/-- The text of a selector is the form in which everything is written as it is. -/
theorem ComplexSelector.text_eq_render (s : ComplexSelector) :
    s.text = s.render id Head.text Part.text := by
  simp [text, render, CompoundSelector.text, CompoundSelector.render]

variable {gaps : Char → α} {heads : Head → List α} {parts : Part → List α}

/-- Rewriting a compound selector rewrites its start and its parts. -/
private theorem CompoundSelector.flatMap_render (f : α → List β) (c : CompoundSelector) :
    (c.render heads parts).flatMap f =
      c.render (fun h => (heads h).flatMap f) (fun q => (parts q).flatMap f) := by
  cases hc : c.head <;> simp [render, hc, List.flatMap_assoc]

/-- Rewriting a selector rewrites its starts and its parts, and leaves what stands between. -/
private theorem ComplexSelector.flatMap_render {f : α → List β} {gaps' : Char → β}
    (hgaps : ∀ c, f (gaps c) = [gaps' c]) (s : ComplexSelector) :
    (s.render gaps heads parts).flatMap f =
      s.render gaps' (fun h => (heads h).flatMap f) (fun q => (parts q).flatMap f) := by
  have hgap : ∀ u : List Char, (u.map gaps).flatMap f = u.map gaps' := by
    intro u
    rw [List.flatMap_map, List.map_eq_flatMap]
    simp only [hgaps]
  simp [render, CompoundSelector.flatMap_render, List.flatMap_assoc, hgap]

/-- Counting in what is made of items is counting items, if each makes one or none that counts. -/
private theorem countP_flatMap_eq {ι : Type} {make : ι → List α} {f : α → Bool} {isItem : ι → Bool}
    (h : ∀ i, (make i).countP f = (isItem i).toNat) (items : List ι) :
    (items.flatMap make).countP f = items.countP isItem := by
  -- by induction on the items: each adds one or nothing to both counts
  induction items with
  | nil => rfl
  | cons i items ih =>
    rw [List.flatMap_cons, List.countP_append, h, ih, List.countP_cons, Nat.add_comm]
    cases isItem i <;> rfl

/-- Counting in a compound selector is counting its start and its parts. -/
private theorem CompoundSelector.countP_render {f : α → Bool} {isHead : Head → Bool}
    {isPart : Part → Bool} (hheads : ∀ h, (heads h).countP f = (isHead h).toNat)
    (hparts : ∀ q, (parts q).countP f = (isPart q).toNat) (c : CompoundSelector) :
    (c.render heads parts).countP f =
      (c.head.any isHead).toNat + c.parts.countP isPart := by
  rw [render, List.countP_append, countP_flatMap_eq hparts]
  -- there may be no start
  cases hc : c.head with
  | none => rfl
  | some h => simp [hheads]

/-- Counting in what is made of a selector is counting its starts and its parts. -/
private theorem ComplexSelector.countP_render {f : α → Bool} {isHead : Head → Bool}
    {isPart : Part → Bool} (hgaps : ∀ c, f (gaps c) = false)
    (hheads : ∀ h, (heads h).countP f = (isHead h).toNat)
    (hparts : ∀ q, (parts q).countP f = (isPart q).toNat) (s : ComplexSelector) :
    (s.render gaps heads parts).countP f =
      s.compounds.countP (·.head.any isHead) + s.parts.countP isPart := by
  have hgap : ∀ u : List Char, (u.map gaps).countP f = 0 := by
    intro u
    simp [List.countP_map, hgaps]
  -- what stands between compound selectors never counts, so only these are left
  have hrender : (s.render gaps heads parts).countP f =
      (s.compounds.flatMap (·.render heads parts)).countP f := by
    simp [render, compounds, List.flatMap_map, List.countP_flatMap, Function.comp_def, hgap]
  rw [hrender, ComplexSelector.parts]
  -- by induction on the compound selectors
  induction s.compounds with
  | nil => rfl
  | cons c compounds ih =>
    rw [List.flatMap_cons, List.countP_append, CompoundSelector.countP_render hheads hparts, ih,
      List.flatMap_cons, List.countP_append, List.countP_cons]
    cases c.head.any isHead with
    | false => simp only [Bool.toNat_false, Bool.false_eq_true, if_false]; omega
    | true => simp only [Bool.toNat_true, if_true]; omega

end Render

/-! ## A pass over a selector -/

/-- Whether a text does not go on with a name. -/
def EndsName (v : List Char) : Prop :=
  ∀ c ∈ v.head?, isNameChar c = false

/-- The end of a text ends a name. -/
private theorem endsName_nil : EndsName [] := by
  intro c hc
  cases hc

/-- A character that is not one of a name ends it. -/
theorem endsName_cons {c : Char} (h : isNameChar c = false) (v : List Char) :
    EndsName (c :: v) := by
  intro x hx
  obtain rfl : c = x := Option.some.inj hx
  exact h

/-- What ends a name still does with something behind it. -/
theorem EndsName.append {u v : List Char} (hu : EndsName u) (hv : EndsName v) :
    EndsName (u ++ v) := by
  cases u with
  | nil => exact hv
  | cons c u => exact endsName_cons (hu c rfl) (u ++ v)

/-- What ends a name ends the name of a pseudo-class too. -/
theorem EndsName.isPseudoChar {v : List Char} (hv : EndsName v) :
    ∀ c ∈ v.head?, isPseudoChar c = false := by
  intro c hc
  have := hv c hc
  -- the name of a pseudo-class has fewer characters to choose from
  grind [isNameChar_of_isPseudoChar]

/-- A combinator ends a name. -/
private theorem Combinator.endsName_append (k : Combinator) (v : List Char) :
    EndsName (k.text ++ v) := by
  obtain ⟨c, u, hk⟩ := List.exists_cons_of_ne_nil k.text_ne_nil
  have hc : isCombinator c = true := isCombinator_of_mem (hk ▸ List.mem_cons_self)
  rw [hk]
  exact endsName_cons (isNameChar_of_isCombinator hc) (u ++ v)

/-- What a pattern makes of a selector whose parts are written by `write`: it starts nowhere between
    compound selectors, and a start or a part has the same pieces whatever stands behind it, as long
    as that does not go on with a name. -/
structure Pass (p : Pattern) (write : Part → List Char) (heads : Head → List Piece)
    (parts : Part → List Piece) : Prop where
  /-- No hit starts in a gap. -/
  gap : ∀ c, isCombinator c = true → ∀ tail, p.head? (c :: tail) = none
  /-- A start has its own pieces, whatever ends the name. -/
  head : ∀ h v, EndsName v → p.pieces (h.text ++ v) = heads h ++ p.pieces v
  /-- So has a part, as it is written in this pass. -/
  part : ∀ q v, EndsName v → p.pieces (write q ++ v) = parts q ++ p.pieces v
  /-- A part ends the name in front of it. -/
  ends : ∀ q, EndsName (write q)

namespace Pass

variable {p : Pattern} {write : Part → List Char} {heads : Head → List Piece}
  {parts : Part → List Piece} {v : List Char}

/-- The pieces of a compound selector are those of its start and its parts. -/
private theorem pieces_compound (h : Pass p write heads parts) (c : CompoundSelector)
    (hv : EndsName v) :
    p.pieces (c.render Head.text write ++ v) = c.render heads parts ++ p.pieces v := by
  have hends : ∀ q ∈ c.parts, ∀ v, EndsName v → EndsName (write q ++ v) :=
    fun q _ v hv => (h.ends q).append hv
  have hparts : p.pieces (c.parts.flatMap write ++ v) = c.parts.flatMap parts ++ p.pieces v :=
    Pattern.pieces_flatMap_append (fun q _ => h.part q) hends hv
  rw [CompoundSelector.render, CompoundSelector.render, List.append_assoc, List.append_assoc]
  cases c.head with
  | none => exact hparts
  | some start =>
    -- the parts stand between the start and `v`, and do not go on with a name either
    have hrest : EndsName (c.parts.flatMap write ++ v) := Pattern.apart_flatMap_append hends hv
    rw [← hparts]
    exact h.head start _ hrest

/-- The pieces of a selector are those of its starts and its parts, with plain characters between
    its compound selectors. -/
theorem pieces_render (h : Pass p write heads parts) (s : ComplexSelector) :
    p.pieces (s.render id Head.text write) = s.render .plain heads parts := by
  -- a combinator and the compound selector behind it are one block
  have hblock : ∀ other ∈ s.others, ∀ v, EndsName v →
      p.pieces ((other.1.text.map id ++ other.2.render Head.text write) ++ v) =
        (other.1.text.map .plain ++ other.2.render heads parts) ++ p.pieces v := by
    intro other _ v hv
    have hgap : ∀ c ∈ other.1.text, ∀ tail, p.head? (c :: tail) = none :=
      fun c hc => h.gap c (Combinator.isCombinator_of_mem hc)
    rw [List.map_id, List.append_assoc, Pattern.pieces_append_of_plain hgap,
      h.pieces_compound other.2 hv, List.append_assoc]
  have hends : ∀ other ∈ s.others, ∀ v, EndsName v →
      EndsName ((other.1.text.map id ++ other.2.render Head.text write) ++ v) := by
    intro other _ v _
    rw [List.map_id, List.append_assoc]
    exact other.1.endsName_append _
  have hothers := Pattern.pieces_flatMap_append hblock hends endsName_nil
  have hrest := Pattern.apart_flatMap_append hends endsName_nil
  -- nothing stands behind the last compound selector
  simp only [List.append_nil, Pattern.pieces_nil] at hothers hrest
  rw [ComplexSelector.render, ComplexSelector.render, h.pieces_compound s.first hrest, hothers]

end Pass

/-- A pass that takes the parts of one kind and nothing else. -/
def Selects (p : Pattern) (isKind : Part → Bool) (write : Part → List Char) : Prop :=
  Pass p write (fun h => h.text.map .plain)
    (fun q => if isKind q then [.hit (write q)] else (write q).map .plain)

namespace Selects

variable {p : Pattern} {isKind : Part → Bool} {write : Part → List Char}

/-- A pass that takes the parts of one kind counts them. -/
theorem count (h : Selects p isKind write) (s : ComplexSelector) :
    p.count (s.render id Head.text write) = s.parts.countP isKind := by
  -- plain characters are no hits, so a start counts nothing and a part of the kind one
  have hplain : ∀ u : List Char, (u.map Piece.plain).countP Piece.isHit = 0 := by
    intro u
    simp [List.countP_map, Piece.isHit]
  have hgaps : ∀ c, (Piece.plain c).isHit = false := fun _ => rfl
  have hheads : ∀ h : Head, (h.text.map Piece.plain).countP Piece.isHit = false.toNat :=
    fun h => hplain h.text
  have hparts : ∀ q, (if isKind q then [Piece.hit (write q)] else (write q).map .plain).countP
      Piece.isHit = (isKind q).toNat := by
    intro q
    cases isKind q with
    | false => exact hplain (write q)
    | true => rfl
  have hcompounds : s.compounds.countP (·.head.any fun _ => false) = 0 := by simp
  rw [Pattern.count, Pass.pieces_render h, ComplexSelector.countP_render hgaps hheads hparts,
    hcompounds, Nat.zero_add]

/-- A pass that takes the parts of one kind replaces them. -/
theorem replace (h : Selects p isKind write) (replacement : List Char) (s : ComplexSelector) :
    p.replace replacement (s.render id Head.text write) =
      s.render id Head.text fun q => if isKind q then replacement else write q := by
  -- plain characters stay as they are, and each part of the kind becomes the replacement
  have hplain : ∀ u : List Char, (u.map Piece.plain).flatMap (Piece.replaced replacement) = u := by
    intro u
    simp [List.flatMap_map, Piece.replaced]
  have hgaps : ∀ c, (Piece.plain c).replaced replacement = [id c] := fun _ => rfl
  have hparts : ∀ q, (if isKind q then [Piece.hit (write q)] else (write q).map .plain).flatMap
      (Piece.replaced replacement) = if isKind q then replacement else write q := by
    intro q
    cases isKind q with
    | false => exact hplain (write q)
    | true => simp [Piece.replaced]
  rw [Pattern.replace, Pass.pieces_render h, ComplexSelector.flatMap_render hgaps]
  simp only [hplain, hparts]

end Selects

/-! ## The text after some passes -/

namespace Part

/-- The character that a part starts with once pseudo-elements are replaced. -/
def mark : Part → Char
  | .identifier _ => '#'
  | .className _ => '.'
  | .attributeTest _ _ => '['
  | .pseudoClass _ => ':'
  | .pseudoElement _ => ' '

/-- Identifiers are the parts with a hash as their mark. -/
private theorem isIdentifier_eq : isIdentifier = (·.mark == '#') := by
  funext q
  cases q <;> rfl

/-- Classes are the parts with a dot as their mark. -/
private theorem isClass_eq : isClass = (·.mark == '.') := by
  funext q
  cases q <;> rfl

/-- Attribute tests are the parts with a bracket as their mark. -/
private theorem isAttribute_eq : isAttribute = (·.mark == '[') := by
  funext q
  cases q <;> rfl

/-- Pseudo-classes are the parts with a colon as their mark, once pseudo-elements are replaced. -/
private theorem isPseudoClass_eq : isPseudoClass = (·.mark == ':') := by
  funext q
  cases q <;> rfl

/-- The text of a part once pseudo-elements are replaced. -/
def marked : Part → List Char
  | .pseudoElement _ => [' ', 'E']
  | q => q.text

/-- The text of a part once pseudo-elements are replaced and the parts with one of the marks `gone`
    are erased. -/
def left (gone : List Char) (q : Part) : List Char :=
  if q.mark ∈ gone then [] else q.marked

end Part

/-- The text of a selector once pseudo-elements are replaced and the parts with one of the marks
    `gone` are erased. -/
def ComplexSelector.left (gone : List Char) (s : ComplexSelector) : List Char :=
  s.render id Head.text (Part.left gone)

/-- The marks of the parts that are erased. -/
def partMarks : List Char := ['#', '.', '[', ':']

/-- No mark is a character of a name. -/
private theorem isNameChar_of_mem_partMarks {m : Char} (h : m ∈ partMarks) :
    isNameChar m = false := by
  simp only [partMarks, List.mem_cons, List.not_mem_nil, or_false] at h
  rcases h with rfl | rfl | rfl | rfl <;> decide

/-- No mark is a combinator. -/
private theorem isCombinator_of_mem_partMarks {m : Char} (h : m ∈ partMarks) :
    isCombinator m = false := by
  simp only [partMarks, List.mem_cons, List.not_mem_nil, or_false] at h
  rcases h with rfl | rfl | rfl | rfl <;> decide

/-- There is no mark in the start of a compound selector. -/
private theorem Head.not_mem_text {m : Char} (h : Head) (hm : m ∈ partMarks) : m ∉ h.text := by
  intro hmem
  cases h with
  | element n =>
    exact absurd (ElementName.isNameChar_of_mem hmem) (by simp [isNameChar_of_mem_partMarks hm])
  | star =>
    obtain rfl : m = '*' := List.mem_singleton.mp hmem
    exact absurd hm (by decide)

/-- No mark may stand in an attribute test. -/
private theorem partMarks_subset : partMarks ⊆ attributeMarks := by
  decide

/-- The mark of a part that is erased stands in no part of another kind. -/
private theorem Part.mark_eq_of_mem {m : Char} (hm : m ∈ partMarks) {q : Part} (h : m ∈ q.marked) :
    q.mark = m := by
  have hname := isNameChar_of_mem_partMarks hm
  -- a mark of another kind can stand neither in a name nor in an attribute test
  cases q with
  | identifier n =>
    rcases List.mem_cons.mp h with rfl | h
    · rfl
    · exact absurd (Ident.isNameChar_of_mem h) (by simp [hname])
  | className n =>
    rcases List.mem_cons.mp h with rfl | h
    · rfl
    · exact absurd (Ident.isNameChar_of_mem h) (by simp [hname])
  | attributeTest content free =>
    simp only [Part.marked, Part.text, List.cons_append, List.mem_cons, List.mem_append,
      List.not_mem_nil, or_false] at h
    rcases h with rfl | h | rfl
    · rfl
    · exact absurd (partMarks_subset hm) (free m h)
    · exact absurd hm (by decide)
  | pseudoClass n =>
    rcases List.mem_cons.mp h with rfl | h
    · rfl
    · exact absurd (PseudoName.isNameChar_of_mem h) (by simp [hname])
  | pseudoElement n =>
    -- neither of the two characters that replace a pseudo-element is a mark
    have hfree : ∀ c ∈ [' ', 'E'], c ∉ partMarks := by simp [partMarks]
    exact absurd hm (hfree m h)

/-- What is left of a part ends a name before it. -/
private theorem Part.endsName_left (gone : List Char) (q : Part) : EndsName (q.left gone) := by
  rw [left]
  split
  · exact endsName_nil
  · cases q <;> exact endsName_cons (by decide) _

/-! ## The passes -/

section Passes

variable {p : Pattern} {m : Char} {gone : List Char}

/-- A pattern that starts with one of the marks makes nothing of combinators and starts. -/
private theorem selects_of_start {isKind : Part → Bool} {write : Part → List Char}
    (hm : m ∈ partMarks) (hstart : ∀ c ≠ m, ∀ tail, p.head? (c :: tail) = none)
    (htake : ∀ q, isKind q = true →
      ∀ v, EndsName v → p.pieces (write q ++ v) = .hit (write q) :: p.pieces v)
    (hpass : ∀ q, isKind q = false →
      ∀ v, p.pieces (write q ++ v) = (write q).map .plain ++ p.pieces v)
    (hends : ∀ q, EndsName (write q)) : Selects p isKind write := by
  constructor
  case gap =>
    intro c hc
    refine hstart c ?_
    -- a mark is no combinator
    rintro rfl
    simp [isCombinator_of_mem_partMarks hm] at hc
  case head =>
    intro h v _
    exact Pattern.pieces_append_of_not_mem hstart (h.not_mem_text hm) v
  case part =>
    intro q v hv
    cases hq : isKind q with
    | false => exact hpass q hq v
    | true => exact htake q hq v hv
  case ends => exact hends

/-- The pass of a pattern that starts with the mark of its parts, when these are still there. -/
theorem selects_of_mark (hm : m ∈ partMarks) (hgone : m ∉ gone)
    (hstart : ∀ c ≠ m, ∀ tail, p.head? (c :: tail) = none)
    (htake : ∀ q : Part, q.mark = m →
      ∀ v, EndsName v → p.head? (q.marked ++ v) = some (q.marked, v)) :
    Selects p (·.mark == m) (Part.left gone) := by
  refine selects_of_start hm hstart ?_ ?_ (Part.endsName_left gone)
  · intro q hq v hv
    -- the part is still there, and it is taken whole
    have hmark : q.mark = m := beq_iff_eq.mp hq
    have hleft : q.left gone = q.marked := by simp [Part.left, hmark, hgone]
    rw [hleft]
    exact Pattern.pieces_of_head? (htake q hmark v hv)
  · intro q hq v
    refine Pattern.pieces_append_of_not_mem hstart ?_ v
    intro hmem
    -- an erased part has no characters, and another part has another mark
    rw [Part.left] at hmem
    split at hmem
    · cases hmem
    · exact beq_eq_false_iff_ne.mp hq (Part.mark_eq_of_mem hm hmem)

/-- Erasing the parts with one more mark. -/
private theorem erase_left (h : Selects p (·.mark == m) (Part.left gone)) (s : ComplexSelector) :
    p.erase (s.left gone) = s.left (m :: gone) := by
  -- what is erased now and what was erased before are the parts with the marks in `m :: gone`
  have hleft : (fun q : Part => if q.mark == m then [] else q.left gone) =
      Part.left (m :: gone) := by
    funext q
    simp only [Part.left, List.mem_cons, beq_iff_eq]
    split <;> simp [*]
  rw [Pattern.erase, ComplexSelector.left, h.replace, hleft, ComplexSelector.left]

/-- The pass over identifiers takes them, whatever else is gone. -/
theorem selects_identifier (h : '#' ∉ gone) :
    Selects identifier (·.mark == '#') (Part.left gone) := by
  refine selects_of_mark (by decide) h (fun c hc => Pattern.head?_marked_of_ne hc) ?_
  intro q hq v hv
  cases q with
  | identifier n => exact Pattern.head?_marked_append ['#'] n.head_mem n.tail_mem hv
  | _ => simp [Part.mark] at hq

/-- The pass over classes takes them, whatever else is gone. -/
theorem selects_className (h : '.' ∉ gone) :
    Selects className (·.mark == '.') (Part.left gone) := by
  refine selects_of_mark (by decide) h (fun c hc => Pattern.head?_marked_of_ne hc) ?_
  intro q hq v hv
  cases q with
  | className n => exact Pattern.head?_marked_append ['.'] n.head_mem n.tail_mem hv
  | _ => simp [Part.mark] at hq

/-- The pass over attribute tests takes them, whatever else is gone. -/
theorem selects_attributeTest (h : '[' ∉ gone) :
    Selects attributeTest (·.mark == '[') (Part.left gone) := by
  refine selects_of_mark (by decide) h (fun c hc => Pattern.head?_enclosed_of_ne hc) ?_
  intro q hq v _
  cases q with
  | attributeTest content free =>
    -- the test ends at its own bracket
    have hfree : ']' ∉ content := fun hmem => free ']' hmem (by decide)
    exact Pattern.head?_enclosed_append hfree v
  | _ => simp [Part.mark] at hq

/-- The pass over pseudo-classes takes them, whatever else is gone. -/
theorem selects_pseudoClass (h : ':' ∉ gone) :
    Selects pseudoClass (·.mark == ':') (Part.left gone) := by
  refine selects_of_mark (by decide) h (fun c hc => Pattern.head?_marked_of_ne hc) ?_
  intro q hq v hv
  cases q with
  | pseudoClass n => exact Pattern.head?_marked_append [':'] n.head_mem n.tail_mem hv.isPseudoChar
  | _ => simp [Part.mark] at hq

end Passes

/-! ### The first pass -/

/-- A pattern with two marks passes a name behind one of them. -/
private theorem pieces_pseudoElement_of_pseudoClass (n : PseudoName) (v : List Char) :
    pseudoElement.pieces (':' :: n.text ++ v) =
      (':' :: n.text).map .plain ++ pseudoElement.pieces v := by
  have hn : ':' ∉ n.text := fun h => absurd (PseudoName.isNameChar_of_mem h) (by decide)
  -- the character behind the first mark is one of the name, and not the second mark
  have hhead : ':' ≠ n.head := fun h => hn (h ▸ List.mem_cons_self)
  have hnone : pseudoElement.head? (':' :: (n.text ++ v)) = none := by
    simp [pseudoElement, Pattern.marked, behind?, Name.text, hhead]
  have hname : pseudoElement.pieces (n.text ++ v) =
      n.text.map .plain ++ pseudoElement.pieces v :=
    Pattern.pieces_append_of_not_mem (fun c hc => Pattern.head?_marked_of_ne hc) hn v
  rw [List.cons_append, Pattern.pieces_cons_of_head?_eq_none hnone, hname]
  rfl

/-- The pass over the text as it stands takes the pseudo-elements. -/
theorem selects_pseudoElement : Selects pseudoElement Part.isPseudoElement Part.text := by
  -- one colon may start a pseudo-class too, so this pass does not select by the mark alone
  have hstart : ∀ c ≠ ':', ∀ tail, pseudoElement.head? (c :: tail) = none :=
    fun c hc => Pattern.head?_marked_of_ne hc
  refine selects_of_start (m := ':') (by decide) hstart ?_ ?_ ?_
  · intro q hq v hv
    cases q with
    | pseudoElement n =>
      exact Pattern.pieces_of_head?
        (Pattern.head?_marked_append [':', ':'] n.head_mem n.tail_mem hv.isPseudoChar)
    | _ => cases hq
  · intro q hq v
    -- a part with another mark has no colon in it
    have hfree : q.mark ≠ ':' → q.text = q.marked → ':' ∉ q.text := by
      intro hmark htext hmem
      exact hmark (Part.mark_eq_of_mem (by decide) (htext ▸ hmem))
    cases q with
    | pseudoElement n => cases hq
    | pseudoClass n => exact pieces_pseudoElement_of_pseudoClass n v
    | _ => exact Pattern.pieces_append_of_not_mem hstart (hfree (by simp [Part.mark]) rfl) v
  · intro q
    cases q <;> exact endsName_cons (by decide) _

/-- The first pass replaces the pseudo-elements. -/
private theorem replace_pseudoElement_text (s : ComplexSelector) :
    pseudoElement.replace [' ', 'E'] s.text = s.left [] := by
  rw [s.text_eq_render, selects_pseudoElement.replace, ComplexSelector.left]
  -- part by part, the text with the replacement is the marked one
  congr 1
  funext q
  cases q <;> rfl

/-! ### The last pass -/

/-- What the last pass makes of the start of a compound selector. -/
def Head.elements : Head → List Piece
  | .element n => [.hit n.text]
  | .star => [.plain '*']

/-- What the last pass makes of a part: only pseudo-elements are left, as a blank and a letter. -/
def Part.elements (q : Part) : List Piece :=
  if q.isPseudoElement then [.plain ' ', .hit ['E']] else []

/-- The last pass takes the names of elements and the letters of the pseudo-elements. -/
theorem pass_element :
    Pass element (Part.left [':', '[', '.', '#']) Head.elements Part.elements := by
  have hstart : ∀ c, isLetter c = false → ∀ tail, element.head? (c :: tail) = none :=
    fun c hc => Pattern.head?_marked_nil_of_not hc
  constructor
  case gap =>
    intro c hc
    refine hstart c ?_
    have := isNameChar_of_isCombinator hc
    grind [isNameChar_of_isLetter]
  case head =>
    intro h v hv
    cases h with
    | element n =>
      exact Pattern.pieces_of_head? (Pattern.head?_marked_append [] n.head_mem n.tail_mem hv)
    | star => exact Pattern.pieces_cons_of_head?_eq_none (hstart '*' (by decide) v)
  case part =>
    intro q v hv
    cases q with
    | pseudoElement n =>
      -- the letter in place of a pseudo-element looks like the name of an element
      have hblank : element.pieces (' ' :: 'E' :: v) = .plain ' ' :: element.pieces ('E' :: v) :=
        Pattern.pieces_cons_of_head?_eq_none (hstart ' ' (by decide) _)
      have hletter : element.head? ('E' :: v) = some (['E'], v) := by
        have hmore : ∀ c ∈ ([] : List Char), isNameChar c = true := by simp
        exact Pattern.head?_marked_append [] (c := 'E') (by decide) hmore hv
      rw [Pattern.pieces_of_head? hletter] at hblank
      exact hblank
    | _ => rfl
  case ends => exact Part.endsName_left _

/-- The last pass counts the names of elements and the pseudo-elements. -/
private theorem count_element_left (s : ComplexSelector) :
    element.count (s.left [':', '[', '.', '#']) =
      s.compounds.countP CompoundSelector.namesElement + s.parts.countP Part.isPseudoElement := by
  have hheads : ∀ h : Head, h.elements.countP Piece.isHit = h.isElement.toNat := by
    intro h
    cases h <;> rfl
  have hparts : ∀ q : Part, q.elements.countP Piece.isHit = q.isPseudoElement.toNat := by
    intro q
    cases q <;> rfl
  rw [Pattern.count, ComplexSelector.left, pass_element.pieces_render]
  exact ComplexSelector.countP_render (fun _ => rfl) hheads hparts s

/-! ## Specificity -/

/-- The specificity of a well-formed selector counts its parts by kind: identifiers; classes,
    attributes and pseudo-classes; names of elements and pseudo-elements. -/
theorem specificity_text (s : ComplexSelector) :
    specificity s.text =
      { ids := s.parts.countP Part.isIdentifier
        classes := s.parts.countP Part.isClass + s.parts.countP Part.isAttribute +
          s.parts.countP Part.isPseudoClass
        elements := s.compounds.countP CompoundSelector.namesElement +
          s.parts.countP Part.isPseudoElement } := by
  have hnoIds : identifier.erase (s.left []) = s.left ['#'] :=
    erase_left (selects_identifier (by simp)) s
  -- the passes erase one kind after the other, until names of elements are left
  have hbare : pseudoClass.erase (attributeTest.erase (className.erase (s.left ['#']))) =
      s.left [':', '[', '.', '#'] := by
    rw [erase_left (selects_className (by simp)), erase_left (selects_attributeTest (by simp)),
      erase_left (selects_pseudoClass (by simp))]
  -- identifiers are counted before any part is erased, the three kinds of classes after these
  have hids : identifier.count (s.left []) = s.parts.countP Part.isIdentifier := by
    rw [Part.isIdentifier_eq]
    exact (selects_identifier (by simp)).count s
  have hclasses : className.count (s.left ['#']) = s.parts.countP Part.isClass := by
    rw [Part.isClass_eq]
    exact (selects_className (by simp)).count s
  have hattributes : attributeTest.count (s.left ['#']) = s.parts.countP Part.isAttribute := by
    rw [Part.isAttribute_eq]
    exact (selects_attributeTest (by simp)).count s
  have hpseudoClasses : pseudoClass.count (s.left ['#']) = s.parts.countP Part.isPseudoClass := by
    rw [Part.isPseudoClass_eq]
    exact (selects_pseudoClass (by simp)).count s
  rw [specificity, replace_pseudoElement_text, hnoIds, hbare, hids, hclasses, hattributes,
    hpseudoClasses, count_element_left]

example : specificity "ul#a > li.b[c]:d::e .f".toList = ⟨1, 4, 3⟩ := by
  decide +kernel

end SheetAudit.Selector

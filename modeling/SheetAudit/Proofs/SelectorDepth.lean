import Mathlib.Algebra.BigOperators.Group.List.Basic
import Mathlib.Algebra.GroupWithZero.Nat
import SheetAudit.Proofs.Attribution
import SheetAudit.Proofs.SelectorSyntax

/-!
# The depth of a selector

The depth of a selector counts the pieces between the characters that join compound selectors.  In a
selector whose attributes are names, or names compared with a value, these characters stand between
compound selectors and nowhere else, with one exception: the sign `~=` that compares an attribute
with the words of a list begins with one of them.  Each attribute with that sign is cut in two and
makes the depth larger by one than the number of compound selectors.

## Key results

- `nestingDepth_append_cons`: the depth of two texts with a combinator between them
- `nestingDepth_append_parts`: the depth of a compound selector
- `mem_selectorIssues_nesting_iff`: when there is a warning about the depth
- `nestingDepth_text`: the depth of a complex selector
-/

namespace SheetAudit.Selector

open SheetAudit.Text
open Stylesheet (Rule)

/-! ## Attributes -/

/-- How an attribute is compared with a value. -/
inductive Comparison where
  /-- The value is the whole attribute. -/
  | whole
  /-- The value is one of the words of the attribute. -/
  | word
  /-- The value is the attribute, or what stands in front of its first hyphen. -/
  | dashed
  /-- The attribute starts with the value. -/
  | start
  /-- The attribute ends with the value. -/
  | ending
  /-- The attribute holds the value. -/
  | inside
  deriving DecidableEq, Repr

/-- The sign of a comparison. -/
def Comparison.sign : Comparison → List Char
  | .whole => ['=']
  | .word => ['~', '=']
  | .dashed => ['|', '=']
  | .start => ['^', '=']
  | .ending => ['$', '=']
  | .inside => ['*', '=']

/-- What an attribute asks for: that it is there, or how it compares with a value. -/
structure AttributeQuery where
  /-- The name of the attribute. -/
  name : Ident
  /-- The comparison and the value. -/
  comparison : Option (Comparison × Ident)

/-- The text of a query. -/
def AttributeQuery.text (a : AttributeQuery) : List Char :=
  match a.comparison with
  | none => a.name.text
  | some (k, value) => a.name.text ++ k.sign ++ value.text

namespace Part

/-- Whether a part, if it is an attribute, holds a query without blank characters or quotes. -/
def IsSimple : Part → Prop
  | .attributeTest content _ => ∃ a : AttributeQuery, content = a.text
  | _ => True

/-- Whether a part is an attribute that is compared with the words of a list. -/
def comparesWords : Part → Bool
  | .attributeTest content _ => decide (['~', '='] <:+: content)
  | _ => false

end Part

/-! ## Texts without combinators -/

/-- Whether a text has no character that joins compound selectors. -/
def Solid (u : List Char) : Prop :=
  ∀ c ∈ u, isCombinator c = false

/-- A text without combinators, as a check. -/
private theorem solid_iff_all {u : List Char} :
    Solid u ↔ (u.all fun c => !isCombinator c) = true := by
  simp [Solid]

instance (u : List Char) : Decidable (Solid u) :=
  decidable_of_iff _ solid_iff_all.symm

/-- Two texts without combinators have none together. -/
theorem Solid.append {u v : List Char} (hu : Solid u) (hv : Solid v) : Solid (u ++ v) := by
  intro c hc
  rcases List.mem_append.mp hc with hc | hc
  · exact hu c hc
  · exact hv c hc

/-- A character that is no combinator may stand before a text without combinators. -/
private theorem solid_cons {c : Char} {u : List Char} (hc : isCombinator c = false) (hu : Solid u) :
    Solid (c :: u) :=
  List.forall_mem_cons.mpr ⟨hc, hu⟩

/-- A name has no character that joins compound selectors. -/
private theorem solid_of_isNameChar {u : List Char} (h : ∀ c ∈ u, isNameChar c = true) :
    Solid u := by
  intro c hc
  cases hcomb : isCombinator c with
  | false => rfl
  | true => exact absurd (h c hc) (by simp [isNameChar_of_isCombinator hcomb])

/-- An identifier has no combinators. -/
private theorem solid_ident (n : Ident) : Solid n.text :=
  solid_of_isNameChar fun _ => Ident.isNameChar_of_mem

/-- The name of a pseudo-class or a pseudo-element has no combinators. -/
private theorem solid_pseudoName (n : PseudoName) : Solid n.text :=
  solid_of_isNameChar fun _ => PseudoName.isNameChar_of_mem

/-- The start of a compound selector has no combinators. -/
private theorem Head.solid_text (h : Head) : Solid h.text := by
  cases h with
  | element n => exact solid_of_isNameChar fun _ => ElementName.isNameChar_of_mem
  | star => exact solid_cons (by decide) (by simp [Solid])

/-- The start of a compound selector is not empty. -/
theorem Head.text_ne_nil (h : Head) : h.text ≠ [] := by
  cases h <;> simp [text, Name.text]

/-- Only one sign begins with a character that joins compound selectors. -/
private theorem Comparison.solid_sign {k : Comparison} (h : k ≠ .word) : Solid k.sign := by
  cases k with
  | word => exact absurd rfl h
  | whole | dashed | start | ending | inside => decide

/-! ## Depth -/

/-- The depth of two texts with a combinator between them is the sum of theirs. -/
theorem nestingDepth_append_cons {c : Char} (hc : isCombinator c = true) (u v : List Char) :
    nestingDepth (u ++ c :: v) = nestingDepth u + nestingDepth v := by
  rw [nestingDepth, List.splitOnP_append_cons u v hc, List.countP_append]
  rfl

/-- The empty text has no depth. -/
theorem nestingDepth_nil : nestingDepth [] = 0 := rfl

/-- A text without combinators is one piece. -/
private theorem nestingDepth_of_solid {u : List Char} (hu : Solid u) (hne : u ≠ []) :
    nestingDepth u = 1 := by
  rw [nestingDepth, List.splitOnP_eq_singleton hu]
  simp [hne]

/-- Combinators at the front add no depth. -/
private theorem nestingDepth_gap_append {gap : List Char} (hgap : ∀ c ∈ gap, isCombinator c = true)
    (v : List Char) : nestingDepth (gap ++ v) = nestingDepth v := by
  -- by induction on the combinators: each cuts off an empty piece, which does not count
  induction gap with
  | nil => rfl
  | cons c gap ih =>
    obtain ⟨hc, hgap⟩ := List.forall_mem_cons.mp hgap
    have hfront := nestingDepth_append_cons hc [] (gap ++ v)
    rw [List.nil_append, nestingDepth_nil, Nat.zero_add] at hfront
    rw [List.cons_append, hfront, ih hgap]

/-- The depth of two texts with a whole combinator between them is the sum of theirs. -/
theorem nestingDepth_append_combinator (u : List Char) (k : Combinator) (v : List Char) :
    nestingDepth (u ++ (k.text ++ v)) = nestingDepth u + nestingDepth v := by
  obtain ⟨c, gap, hk⟩ := List.exists_cons_of_ne_nil k.text_ne_nil
  have hgap : ∀ d ∈ c :: gap, isCombinator d = true := by
    intro d hd
    exact Combinator.isCombinator_of_mem (hk ▸ hd)
  obtain ⟨hc, hgap⟩ := List.forall_mem_cons.mp hgap
  rw [hk, List.cons_append, nestingDepth_append_cons hc, nestingDepth_gap_append hgap]

/-! ## The depth of a compound selector -/

/-- A query has no character that joins compound selectors, or it is cut in two by its sign. -/
private theorem AttributeQuery.text_cases (a : AttributeQuery) :
    Solid a.text ∨ ∃ value : Ident, a.text = a.name.text ++ '~' :: '=' :: value.text := by
  rw [text]
  split
  · exact .inl (solid_ident a.name)
  · next k value _ =>
    -- only the sign for words begins with a combinator
    by_cases hk : k = .word
    · exact .inr ⟨value, by rw [hk]; simp [Comparison.sign]⟩
    · exact .inl (((solid_ident a.name).append (Comparison.solid_sign hk)).append
        (solid_ident value))

namespace Part

/-- A part is not empty. -/
theorem text_ne_nil (q : Part) : q.text ≠ [] := by
  cases q <;> simp [text]

/-- A part has no character that joins compound selectors, or it compares words and is cut in
two. -/
private theorem text_cases {q : Part} (h : q.IsSimple) :
    (q.comparesWords = false ∧ Solid q.text) ∨
    (q.comparesWords = true ∧
      ∃ u v, q.text = u ++ '~' :: v ∧ Solid u ∧ Solid v ∧ u ≠ [] ∧ v ≠ []) := by
  cases q with
  | identifier n => exact .inl ⟨rfl, solid_cons (by decide) (solid_ident n)⟩
  | className n => exact .inl ⟨rfl, solid_cons (by decide) (solid_ident n)⟩
  | pseudoClass n => exact .inl ⟨rfl, solid_cons (by decide) (solid_pseudoName n)⟩
  | pseudoElement n =>
    exact .inl ⟨rfl, solid_cons (by decide) (solid_cons (by decide) (solid_pseudoName n))⟩
  | attributeTest content free =>
    obtain ⟨a, rfl⟩ := h
    have hopen : Solid ['['] := by decide
    have hclose : Solid [']'] := by decide
    rcases a.text_cases with hsolid | ⟨value, htext⟩
    · refine .inl ⟨?_, (hopen.append hsolid).append hclose⟩
      -- the sign would put a combinator into the text
      rw [comparesWords, decide_eq_false_iff_not]
      intro hinfix
      have hmem : '~' ∈ a.text := hinfix.subset List.mem_cons_self
      exact absurd (hsolid '~' hmem) (by decide)
    · refine .inr ⟨?_, '[' :: a.name.text, '=' :: value.text ++ [']'], ?_, ?_, ?_, ?_, ?_⟩
      · rw [comparesWords, decide_eq_true_eq, htext]
        exact ⟨a.name.text, value.text, by simp⟩
      · simp [text, htext]
      · exact hopen.append (solid_ident a.name)
      · exact (solid_cons (by decide) (solid_ident value)).append hclose
      · simp
      · simp

end Part

/-- The depth of a compound selector that starts with `u`: one, and one more for each attribute that
    is compared with words. -/
theorem nestingDepth_append_parts {u : List Char} {parts : List Part} (hu : Solid u)
    (hparts : ∀ q ∈ parts, q.IsSimple) (hne : u ≠ [] ∨ parts ≠ []) :
    nestingDepth (u ++ parts.flatMap Part.text) = 1 + parts.countP Part.comparesWords := by
  -- by induction on the parts, with the piece in front of them growing until a sign cuts it
  induction parts generalizing u with
  | nil =>
    have hne' : u ≠ [] := hne.resolve_right fun h => h rfl
    simpa using nestingDepth_of_solid hu hne'
  | cons q parts ih =>
    obtain ⟨hq, hparts⟩ := List.forall_mem_cons.mp hparts
    rw [List.flatMap_cons, List.countP_cons]
    rcases Part.text_cases hq with ⟨hwords, hsolid⟩ | ⟨hwords, v, w, htext, hv, hw, hvne, hwne⟩
    · -- the part goes on with the piece in front of it
      have hne' : u ++ q.text ≠ [] := by simp [q.text_ne_nil]
      rw [← List.append_assoc, ih (hu.append hsolid) hparts (.inl hne'), hwords]
      simp
    · -- the part ends one piece and starts the next one
      have hne' : u ++ v ≠ [] := by simp [hvne]
      have hcut : u ++ (q.text ++ parts.flatMap Part.text) =
          (u ++ v) ++ '~' :: (w ++ parts.flatMap Part.text) := by
        simp [htext]
      rw [hcut, nestingDepth_append_cons (by decide), nestingDepth_of_solid (hu.append hv) hne',
        ih hw hparts (.inl hwne), hwords, if_pos rfl]
      omega

/-- The depth of a compound selector: one, and one for each attribute that is compared with
words. -/
theorem CompoundSelector.nestingDepth_eq (c : CompoundSelector)
    (h : ∀ q ∈ c.parts, q.IsSimple) :
    nestingDepth c.text = 1 + c.parts.countP Part.comparesWords := by
  rw [text]
  -- without a start, the first part begins the first piece
  cases hhead : c.head with
  | none =>
    have hne : c.parts ≠ [] := c.nonempty.resolve_left (by simp [hhead])
    exact nestingDepth_append_parts (by simp [Solid]) h (.inr hne)
  | some head => exact nestingDepth_append_parts head.solid_text h (.inl head.text_ne_nil)

/-! ## The depth of a complex selector -/

/-- The depth of a selector is the sum of the depths of its compound selectors. -/
private theorem nestingDepth_append_others (u : List Char)
    (others : List (Combinator × CompoundSelector)) :
    nestingDepth (u ++ others.flatMap fun (k, c) => k.text ++ c.text) =
      nestingDepth u + (others.map fun (_, c) => nestingDepth c.text).sum := by
  -- by induction on the compound selectors behind the first
  induction others generalizing u with
  | nil => simp
  | cons other others ih =>
    obtain ⟨k, c⟩ := other
    rw [List.flatMap_cons, List.map_cons, List.sum_cons, List.append_assoc k.text,
      nestingDepth_append_combinator, ih]

/-- The depth of a selector: its compound selectors, and its attributes that are compared with
words. -/
theorem ComplexSelector.nestingDepth_eq (s : ComplexSelector) (h : ∀ q ∈ s.parts, q.IsSimple) :
    nestingDepth s.text = s.compounds.length + s.parts.countP Part.comparesWords := by
  -- each compound selector adds one and its own signs for words
  have hcompound : ∀ c ∈ s.compounds,
      nestingDepth c.text = 1 + c.parts.countP Part.comparesWords := by
    intro c hc
    exact c.nestingDepth_eq fun q hq => h q (List.mem_flatMap.mpr ⟨c, hc, hq⟩)
  have hsum : nestingDepth s.text = (s.compounds.map fun c => nestingDepth c.text).sum := by
    rw [text, nestingDepth_append_others, compounds, List.map_cons, List.sum_cons, List.map_map]
    rfl
  rw [hsum, List.map_congr_left hcompound, parts, List.countP_flatMap, List.sum_map_add]
  simp [Function.comp_def]

/-! ## The warning about the depth -/

/-- No other check has a message like that of the check of the depth. -/
private theorem nestingIssue?_of_message {r : Rule} {selector : String} {i : Issue} {depth : Nat}
    (h : i ∈ alternativeIssues r selector)
    (hmessage : i.message = s!"Deeply nested selector ({depth} levels)") :
    nestingIssue? r selector = some i := by
  -- the messages of the four checks differ in their first characters
  have hfirst : i.message.toList.head? = some 'D' := by
    rw [hmessage]
    simp [toString]
  simp only [alternativeIssues, List.mem_filterMap, id_eq, exists_eq_right, List.mem_cons,
    List.not_mem_nil, or_false] at h
  rcases h with h | h | h | h
  · simp only [specificityIssue?] at h
    split at h
    · obtain rfl := Option.some.inj h
      simp [Issue.ofSelector, toString] at hfirst
    · split at h
      · obtain rfl := Option.some.inj h
        simp [Issue.ofSelector, toString] at hfirst
      · cases h
  · simp only [overqualifiedIssue?] at h
    split at h
    · obtain rfl := Option.some.inj h
      simp [Issue.ofSelector] at hfirst
    · cases h
  · simp only [universalIssue?] at h
    split at h
    · obtain rfl := Option.some.inj h
      simp [Issue.ofSelector] at hfirst
    · cases h
  · exact h.symm

/-- There is a warning about the depth of an alternative exactly if it is larger than four. -/
theorem mem_selectorIssues_nesting_iff {rules : List Rule} {r : Rule} (hr : r ∈ rules)
    {selector : String} (hselector : selector ∈ r.selectors) :
    (∃ i ∈ selectorIssues rules, i.selector = selector ∧
      i.message = s!"Deeply nested selector ({nestingDepth selector.toList} levels)") ↔
    4 < nestingDepth selector.toList := by
  constructor
  · rintro ⟨i, hi, hisel, hmessage⟩
    obtain ⟨r', -, hi⟩ := List.mem_flatMap.mp hi
    obtain ⟨selector', -, hi⟩ := List.mem_flatMap.mp hi
    have hissue := nestingIssue?_of_message hi hmessage
    obtain ⟨kind, severity, message, hint, -, rfl⟩ := eq_ofSelector_of_mem hi
    obtain rfl : selector' = selector := hisel
    -- an issue with this message comes from this check, which is silent up to four
    by_contra hshallow
    have hnone : nestingIssue? r' selector' = none := if_neg hshallow
    rw [hnone] at hissue
    cases hissue
  · intro hdeep
    obtain ⟨i, hissue, hisel, hmessage⟩ : ∃ i, nestingIssue? r selector = some i ∧
        i.selector = selector ∧
        i.message = s!"Deeply nested selector ({nestingDepth selector.toList} levels)" :=
      ⟨_, if_pos hdeep, rfl, rfl⟩
    have hmem : i ∈ alternativeIssues r selector :=
      List.mem_filterMap.mpr ⟨nestingIssue? r selector, by simp, hissue⟩
    refine ⟨i, List.mem_flatMap.mpr ⟨r, hr, ?_⟩, hisel, hmessage⟩
    exact List.mem_flatMap.mpr ⟨selector, hselector, hmem⟩

/-- The depth of a selector is the number of its compound selectors and of its attributes that are
    compared with words, and there is a warning exactly if that is more than four. -/
theorem nestingDepth_text (s : ComplexSelector) (h : ∀ q ∈ s.parts, q.IsSimple) :
    nestingDepth s.text = s.compounds.length + s.parts.countP Part.comparesWords ∧
    ∀ rules : List Rule, ∀ r ∈ rules, String.ofList s.text ∈ r.selectors →
      ((∃ i ∈ selectorIssues rules, i.selector = String.ofList s.text ∧
        i.message = s!"Deeply nested selector ({nestingDepth s.text} levels)") ↔
      4 < s.compounds.length + s.parts.countP Part.comparesWords) := by
  have hdepth := s.nestingDepth_eq h
  refine ⟨hdepth, fun rules r hr hselector => ?_⟩
  have hwarning := mem_selectorIssues_nesting_iff hr hselector
  rw [String.toList_ofList] at hwarning
  rw [← hdepth]
  exact hwarning

/-- Four compound selectors, the first with an attribute that is compared with words. -/
def wordsSelector : ComplexSelector where
  first := ⟨some (.element ⟨'a', [], rfl, by simp⟩),
    [.attributeTest ['b', '~', '=', 'c'] (by simp [attributeMarks])], .inl rfl⟩
  others :=
    [(.blank [' '] (by simp) (List.all_eq_true.mp (by decide)),
        ⟨some (.element ⟨'d', [], rfl, by simp⟩), [], .inl rfl⟩),
      (.blank [' '] (by simp) (List.all_eq_true.mp (by decide)),
        ⟨some (.element ⟨'e', [], rfl, by simp⟩), [], .inl rfl⟩),
      (.blank [' '] (by simp) (List.all_eq_true.mp (by decide)),
        ⟨some (.element ⟨'f', [], rfl, by simp⟩), [], .inl rfl⟩)]

/-- The attribute of the selector is a query. -/
theorem wordsSelector_isSimple : ∀ q ∈ wordsSelector.parts, q.IsSimple := by
  intro q hq
  obtain rfl := List.mem_singleton.mp hq
  exact ⟨⟨⟨'b', [], rfl, by simp⟩, some (.word, ⟨'c', [], rfl, by simp⟩)⟩, rfl⟩

/-- The attribute that is compared with words makes the depth larger than four. -/
theorem nestingDepth_text_words :
    wordsSelector.text = "a[b~=c] d e f".toList ∧ nestingDepth wordsSelector.text = 4 + 1 ∧
    ∃ i ∈ selectorIssues [⟨"a[b~=c] d e f", [], 1, "a.css"⟩],
      i.selector = "a[b~=c] d e f" ∧ i.message = "Deeply nested selector (5 levels)" := by
  have htext : wordsSelector.text = "a[b~=c] d e f".toList := by decide
  obtain ⟨hdepth, hwarning⟩ := nestingDepth_text wordsSelector wordsSelector_isSimple
  have hcount : wordsSelector.parts.countP Part.comparesWords = 1 := by decide
  have hlength : wordsSelector.compounds.length = 4 := rfl
  rw [hcount, hlength] at hdepth hwarning
  refine ⟨htext, hdepth, ?_⟩
  have hissue := (hwarning [⟨"a[b~=c] d e f", [], 1, "a.css"⟩] _ List.mem_cons_self
    (by rw [htext]; decide +kernel)).mpr (by decide)
  rw [hdepth, htext] at hissue
  exact hissue

/-- A single compound selector has depth two, if its attribute is compared with words. -/
theorem nestingDepth_ne_length_compounds :
    ∃ s : ComplexSelector, (∀ q ∈ s.parts, q.IsSimple) ∧ s.text = "a[b~=c]".toList ∧
      s.compounds.length = 1 ∧ nestingDepth s.text = 2 := by
  refine ⟨⟨wordsSelector.first, []⟩, wordsSelector_isSimple, ?_, rfl, ?_⟩
  · decide
  · decide

end SheetAudit.Selector

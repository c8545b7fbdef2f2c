import Mathlib.Data.List.Forall2
import SheetAudit.Proofs.Comments
import SheetAudit.Proofs.Scan

/-!
# Lines of rules

The scanner counts lines in text whose comments are removed.  The layout of that text places the
selector of each rule at an offset into it, and `origin` carries the offset back to the stylesheet,
comments included, without changing the line.

## Key results

- `exists_offsets_rulesFrom`: where the selectors stand in the text of a layout
- `StartsAt.origin`: where they stand in the stylesheet
- `rules_exists_offsets`: every rule is reported on the line of its selector in the stylesheet
-/

namespace SheetAudit.Stylesheet

open SheetAudit.Text

/-- The rule's selector starts with the character at offset `q` of the text, and the rule is on the
    line of that character. -/
structure StartsAt (cs : List Char) (q : Nat) (r : Rule) : Prop where
  /-- The first character of the selector, which is not blank, stands there. -/
  first : ∃ c, isBlank c = false ∧ cs[q]? = some c ∧ r.selector.toList.head? = some c
  /-- The line is counted from one by the line breaks before it. -/
  line_eq : r.line = 1 + (cs.take q).count '\n'

/-! ## Offsets into the text of a layout -/

/-- The rule of a selector, if there is one, starts where the selector does. -/
theorem exists_offsets_styleRules (source : String) (before : List Char) {sel : List Char}
    (hsel : StartsSelector sel) (body rest : List Char) :
    ∃ qs : List Nat, (∀ q ∈ qs, q = before.length) ∧ qs.Pairwise (· < ·) ∧
      List.Forall₂ (StartsAt (before ++ (sel ++ rest))) qs
        (styleRules source (1 + before.count '\n') sel body) := by
  cases sel with
  | nil => exact ⟨[], by simp, .nil, .nil⟩
  | cons c cs =>
    have hc : isBlank c = false := (hsel c rfl).1
    refine ⟨[before.length], by simp, List.pairwise_singleton _ _, .cons ⟨⟨c, hc, ?_, ?_⟩, ?_⟩ .nil⟩
    · simp
    · simp [trim_cons hc]
    · simp

/-- The rules of a layout start at increasing offsets into its text. -/
theorem exists_offsets_rulesFrom (source : String) {items : List Item} {t : Tail}
    (hitems : ∀ i ∈ items, i.Valid) (ht : t.Valid) (before : List Char) :
    ∃ qs : List Nat, (∀ q ∈ qs, before.length ≤ q) ∧ qs.Pairwise (· < ·) ∧
      List.Forall₂ (StartsAt (before ++ (items.flatMap Item.source ++ t.source))) qs
        (rulesFrom source (1 + before.count '\n') items t) := by
  -- on the items; `before` is the text in front of those that are left
  induction items generalizing before with
  | nil =>
    cases t with
    | block sel body =>
      obtain ⟨qs, hqs, hlt, hat⟩ :=
        exists_offsets_styleRules source before ht.1 body ('{' :: body)
      exact ⟨qs, fun q hq => (hqs q hq).ge, hlt, hat⟩
    | nothing => exact ⟨[], by simp, .nil, .nil⟩
    | atHead head => exact ⟨[], by simp, .nil, .nil⟩
    | atBlock head body => exact ⟨[], by simp, .nil, .nil⟩
    | selector text => exact ⟨[], by simp, .nil, .nil⟩
  | cons i items ih =>
    have hi : i.Valid := hitems i (by simp)
    obtain ⟨qs, hqs, hlt, hat⟩ := ih (fun j hj => hitems j (by simp [hj])) (before ++ i.source)
    -- the rule of the item starts where the item does, before all the others
    have hpos := List.length_pos_iff.mpr (Item.source_ne_nil hi)
    have hhead : ∃ ps : List Nat, (∀ p ∈ ps, p = before.length) ∧ ps.Pairwise (· < ·) ∧
        List.Forall₂ (StartsAt (before ++ ((i :: items).flatMap Item.source ++ t.source))) ps
          (i.rules source (1 + before.count '\n')) := by
      cases i with
      | blank text => exact ⟨[], by simp, .nil, .nil⟩
      | atRule head body => exact ⟨[], by simp, .nil, .nil⟩
      | style sel body =>
        have := exists_offsets_styleRules source before hi.1 body
          ('{' :: (body ++ ['}'] ++ (items.flatMap Item.source ++ t.source)))
        simpa [Item.source, Item.rules] using this
    obtain ⟨ps, hps, hplt, hpat⟩ := hhead
    -- the offsets of the other rules lie behind the item, which is not empty
    refine ⟨ps ++ qs, ?_, ?_, ?_⟩
    · intro q hq
      rcases List.mem_append.mp hq with hq | hq
      · exact (hps q hq).ge
      · have := hqs q hq
        rw [List.length_append] at this
        omega
    · refine List.pairwise_append.mpr ⟨hplt, hlt, fun p hp q hq => ?_⟩
      have := hqs q hq
      rw [List.length_append] at this
      rw [hps p hp]
      omega
    · rw [rulesFrom]
      refine List.rel_append hpat ?_
      rw [List.count_append, ← Nat.add_assoc] at hat
      rw [List.flatMap_cons, List.append_assoc, ← List.append_assoc before]
      exact hat

/-! ## Offsets into the stylesheet -/

/-- Where a rule starts in the text without comments, it starts in the stylesheet: outside comments
    and on the same line. -/
theorem StartsAt.origin {cs : List Char} {q : Nat} {r : Rule}
    (h : StartsAt (stripComments cs) q r) :
    inComment (segments cs) (origin (segments cs) q) = false ∧
      StartsAt cs (origin (segments cs) q) r := by
  obtain ⟨c, hc, hget, hhead⟩ := h.first
  -- only line breaks are left of a comment, and a selector does not start with one
  have hne : c ≠ '\n' := by
    rintro rfl
    exact absurd hc (by decide)
  obtain ⟨hget', hout, hcount⟩ := origin_spec hne hget
  rw [source_segments] at hget' hcount
  refine ⟨hout, ⟨c, hc, hget', hhead⟩, ?_⟩
  rw [h.line_eq, hcount]
  rfl

/-! ## Lines -/

/-- The lines of rules are those of their offsets. -/
private theorem map_line_of_startsAt {cs : List Char} {qs : List Nat} {rs : List Rule}
    (h : List.Forall₂ (StartsAt cs) qs rs) :
    rs.map Rule.line = qs.map fun q => 1 + (cs.take q).count '\n' := by
  induction h with
  | nil => rfl
  | cons hq _ ih => rw [List.map_cons, List.map_cons, hq.line_eq, ih]

/-- Rules that start at increasing offsets stand on lines that do not decrease. -/
private theorem pairwise_line_of_startsAt {cs : List Char} {qs : List Nat} {rs : List Rule}
    (hlt : qs.Pairwise (· < ·)) (h : List.Forall₂ (StartsAt cs) qs rs) :
    (rs.map Rule.line).Pairwise (· ≤ ·) := by
  rw [map_line_of_startsAt h]
  refine hlt.map _ fun p q hpq => ?_
  have := (List.take_prefix_take_left (l := cs) hpq.le).sublist.count_le '\n'
  omega

/-- A rule that starts in a text stands on one of its lines. -/
theorem line_le_of_startsAt {cs : List Char} {qs : List Nat} {rs : List Rule}
    (h : List.Forall₂ (StartsAt cs) qs rs) {r : Rule} (hr : r ∈ rs) :
    1 ≤ r.line ∧ r.line ≤ 1 + cs.count '\n' := by
  have hmem : r.line ∈ rs.map Rule.line := List.mem_map_of_mem hr
  rw [map_line_of_startsAt h] at hmem
  obtain ⟨q, -, hq⟩ := List.mem_map.mp hmem
  have := (List.take_sublist q cs).count_le '\n'
  omega

/-- Every rule is reported on the line on which its selector starts in the stylesheet, comments
    included: the selectors start, in order, at increasing offsets outside comments. -/
theorem rules_exists_offsets (text source : String) :
    (∃ qs : List Nat, qs.Pairwise (· < ·) ∧
      List.Forall₂
        (fun q r => inComment (segments text.toList) q = false ∧ StartsAt text.toList q r)
        qs (rules text source)) ∧
      ((rules text source).map Rule.line).Pairwise (· ≤ ·) ∧
      ∀ r ∈ rules text source, 1 ≤ r.line ∧ r.line ≤ 1 + text.toList.count '\n' := by
  obtain ⟨l, hl⟩ := exists_layout (stripComments text.toList)
  obtain ⟨ps, -, hlt, hat⟩ := exists_offsets_rulesFrom source hl.valid.1 hl.valid.2 []
  have hat : List.Forall₂ (StartsAt (stripComments text.toList)) ps (rules text source) := by
    rw [rules_eq_of_layout hl.valid hl.source_eq, ← hl.source_eq]
    exact hat
  -- the offsets are those into the text without comments, carried back to the stylesheet
  have hmap : List.Forall₂
      (fun q r => inComment (segments text.toList) q = false ∧ StartsAt text.toList q r)
      (ps.map (origin (segments text.toList))) (rules text source) := by
    rw [List.forall₂_map_left_iff]
    exact hat.imp fun _ _ h => h.origin
  refine ⟨⟨_, hlt.map _ fun _ _ h => strictMono_origin _ h, hmap⟩,
    pairwise_line_of_startsAt hlt hat, fun r hr => ?_⟩
  rw [← count_newline_stripComments]
  exact line_le_of_startsAt hat hr

end SheetAudit.Stylesheet

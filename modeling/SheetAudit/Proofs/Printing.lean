import SheetAudit.Proofs.Comments
import SheetAudit.Proofs.Declarations
import SheetAudit.Proofs.Scan

/-!
# Printing rules and reading them back

A printer for rules, and the round trip through it: rules that can be written are found again in
what is written, with their declarations, in order, each on the line on which it was written.  What
is printed is laid out by `RuleText.items`, so the round trip is the layout theorem of
`SheetAudit.Proofs.Scan` at that layout.

## Key results

- `valid_items`: the printed form of a rule is a style rule and a line break
- `stripComments_printRules`: no opening mark of a comment comes about where parts meet
- `rules_printRules`: the rules of a printed sheet are the rules that were printed
-/

namespace SheetAudit.Stylesheet

open SheetAudit.Text

/-- A rule to be written. -/
structure RuleText where
  /-- The selector. -/
  selector : String
  /-- The declarations of the block, in order. -/
  declarations : List String
  deriving DecidableEq, Repr

namespace RuleText

/-- The printed form of a rule, on a line of its own if its parts hold no line break. -/
def print (r : RuleText) : String :=
  r.selector ++ " \x7b" ++ "; ".intercalate r.declarations ++ "\x7d\n"

/-- What can be written so that it is read back. -/
structure Printable (r : RuleText) : Prop where
  /-- There is a selector. -/
  selector_ne : r.selector ≠ ""
  /-- It has no blank character at either end. -/
  selector_trimmed : Trimmed r.selector.toList
  /-- It does not start an at-rule. -/
  selector_not_at : r.selector.toList.head? ≠ some '@'
  /-- It opens no block and does not escape what follows it. -/
  selector_isSelector : IsSelector r.selector.toList
  /-- It opens no comment. -/
  selector_no_comment : ¬ commentOpen <:+: r.selector.toList
  /-- Each declaration is one. -/
  isDeclaration : ∀ d ∈ r.declarations, IsDeclaration d
  /-- The braces of each declaration are balanced. -/
  balanced : ∀ d ∈ r.declarations, Balanced d.toList
  /-- No declaration opens a comment. -/
  no_comment : ∀ d ∈ r.declarations, ¬ commentOpen <:+: d.toList

/-- What can be written, as one condition after the other. -/
theorem printable_iff (r : RuleText) :
    r.Printable ↔ r.selector ≠ "" ∧ Trimmed r.selector.toList ∧
      r.selector.toList.head? ≠ some '@' ∧ IsSelector r.selector.toList ∧
      ¬ commentOpen <:+: r.selector.toList ∧ (∀ d ∈ r.declarations, IsDeclaration d) ∧
      (∀ d ∈ r.declarations, Balanced d.toList) ∧
      ∀ d ∈ r.declarations, ¬ commentOpen <:+: d.toList := by
  constructor
  · rintro ⟨h₁, h₂, h₃, h₄, h₅, h₆, h₇, h₈⟩
    exact ⟨h₁, h₂, h₃, h₄, h₅, h₆, h₇, h₈⟩
  · rintro ⟨h₁, h₂, h₃, h₄, h₅, h₆, h₇, h₈⟩
    exact ⟨h₁, h₂, h₃, h₄, h₅, h₆, h₇, h₈⟩

instance (r : RuleText) : Decidable r.Printable :=
  decidable_of_iff' _ (printable_iff r)

end RuleText

/-- The printed form of some rules, one after the other. -/
def printRules (rs : List RuleText) : String :=
  String.join (rs.map RuleText.print)

/-- The printed form of some rules is that of each of them, one after the other. -/
theorem toList_printRules (rs : List RuleText) :
    (printRules rs).toList = rs.flatMap fun r => r.print.toList := by
  rw [printRules, String.toList_join, List.flatMap_map]

namespace RuleText

variable {r : RuleText}

/-- The printed form of a rule, part by part. -/
private theorem toList_print (r : RuleText) :
    r.print.toList =
      r.selector.toList ++ (" \x7b".toList ++ (("; ".intercalate r.declarations).toList ++
        "\x7d\n".toList)) := by
  simp only [print, String.toList_append, List.append_assoc]

/-! ## The layout of a printed rule -/

/-- The items that the printed form of a rule consists of. -/
def items (r : RuleText) : List Item :=
  [.style (r.selector.toList ++ [' ']) ("; ".intercalate r.declarations).toList, .blank ['\n']]

/-- The items of a rule are its printed form. -/
private theorem source_items (r : RuleText) : r.items.flatMap Item.source = r.print.toList := by
  rw [toList_print]
  simp [items, Item.source]

/-- Balanced declarations are balanced when they are joined. -/
private theorem balanced_intercalate {ds : List String} (h : ∀ d ∈ ds, Balanced d.toList) :
    Balanced ("; ".intercalate ds).toList := by
  -- by induction on the declarations, with the separator between the first two
  induction ds with
  | nil => exact ⟨staysOpen_nil 0, rfl⟩
  | cons d ds ih =>
    have hd : Balanced d.toList := h d (by simp)
    cases ds with
    | nil => simpa using hd
    | cons e es =>
      have hsep : Balanced [';', ' '] := by decide
      rw [toList_intercalate_cons_cons]
      exact hd.append (hsep.append (ih fun c hc => h c (by simp [hc])))

/-- The selector of a rule that can be written starts a style rule. -/
private theorem Printable.startsSelector (h : r.Printable) : StartsSelector r.selector.toList := by
  intro c hc
  exact ⟨h.selector_trimmed.1 c hc, fun hat => h.selector_not_at (hat ▸ hc)⟩

/-- The selector of a rule that can be written is not empty. -/
private theorem Printable.toList_ne_nil (h : r.Printable) : r.selector.toList ≠ [] :=
  fun hnil => h.selector_ne (String.toList_inj.mp hnil)

/-- The printed form of a rule is a style rule and a line break. -/
theorem Printable.valid_items (h : r.Printable) : ∀ i ∈ r.items, i.Valid := by
  obtain ⟨c, cs, hsel⟩ := List.exists_cons_of_ne_nil h.toList_ne_nil
  -- the blank in front of the brace is read as the last character of the selector
  have hstart : StartsSelector (r.selector.toList ++ [' ']) := by
    intro d hd
    rw [hsel, List.cons_append] at hd
    exact h.startsSelector d (by rw [hsel]; exact hd)
  have hwhole : IsSelector (r.selector.toList ++ [' ']) := by
    obtain ⟨hbrace, hslash⟩ := h.selector_isSelector
    rw [IsSelector, unescaped_append hslash]
    simp [unescaped, hbrace, hslash]
  intro i hi
  rcases List.mem_cons.mp hi with rfl | hi
  · exact ⟨hstart, hwhole, balanced_intercalate h.balanced⟩
  · rw [List.mem_singleton.mp hi]
    exact ⟨by simp, List.forall_mem_singleton.mpr (by decide)⟩

/-- The layout of a printed rule has that rule, on the line on which it starts. -/
private theorem Printable.rulesFrom_items (h : r.Printable) (source : String) (line : Nat) :
    rulesFrom source line r.items .nothing = [⟨r.selector, r.declarations, line, source⟩] := by
  -- the blank in front of the brace is trimmed off again
  have htrim : trim (r.selector.toList ++ [' ']) = r.selector.toList := by
    rw [trim_append_blank h.selector_trimmed.1 (List.forall_mem_singleton.mpr (by decide)),
      trim_of_trimmed h.selector_trimmed]
  have hrules := splitDeclarations_intercalate h.isDeclaration
  simp only [items, rulesFrom, Item.rules, Tail.rules, styleRules, htrim, hrules]
  simp

/-! ## No comment in what is printed -/

/-- Declarations without an opening mark have none when they are joined. -/
private theorem not_infix_intercalate {ds : List String}
    (h : ∀ d ∈ ds, ¬ commentOpen <:+: d.toList) :
    ¬ commentOpen <:+: ("; ".intercalate ds).toList := by
  -- by induction on the declarations: an opening mark would have to lie across a separator
  induction ds with
  | nil => decide
  | cons d ds ih =>
    have hd : ¬ commentOpen <:+: d.toList := h d (by simp)
    cases ds with
    | nil => simpa using hd
    | cons e es =>
      have ih := ih fun c hc => h c (by simp [hc])
      rw [toList_intercalate_cons_cons]
      refine not_pair_infix_append hd ?_ (by simp)
      exact not_pair_infix_append (u := [';', ' ']) (by decide) ih (by simp)

/-- A printed rule opens no comment, neither in its parts nor where they meet. -/
private theorem Printable.not_infix_print (h : r.Printable) :
    ¬ commentOpen <:+: r.print.toList := by
  rw [toList_print]
  refine not_pair_infix_append h.selector_no_comment ?_ (by simp)
  refine not_pair_infix_append (by decide) ?_ (by simp)
  exact not_pair_infix_append (not_infix_intercalate h.no_comment) (by decide) (by simp)

end RuleText

/-- Comments are not removed from what is printed. -/
theorem stripComments_printRules {rs : List RuleText} (h : ∀ r ∈ rs, r.Printable) :
    stripComments (printRules rs).toList = (printRules rs).toList := by
  apply stripComments_of_not_isInfix
  rw [toList_printRules]
  -- by induction on the rules: no mark lies across two of them
  induction rs with
  | nil => decide
  | cons r rs ih =>
    have hr : r.Printable := h r (by simp)
    -- a printed rule ends in a line break, which is no half of an opening mark
    have hlast : r.print.toList.getLast? = some '\n' := by
      rw [RuleText.toList_print, List.getLast?_append, List.getLast?_append, List.getLast?_append]
      rfl
    refine not_pair_infix_append hr.not_infix_print (ih fun q hq => h q (by simp [hq])) ?_
    rw [hlast]
    simp

/-! ## The round trip -/

/-- The layout of printed rules has those rules, each on the line where it was printed. -/
theorem rulesFrom_flatMap_items {rs : List RuleText} (h : ∀ r ∈ rs, r.Printable)
    (source : String) (line : Nat) :
    rulesFrom source line (rs.flatMap RuleText.items) .nothing =
      rs.mapIdx fun i r => ⟨r.selector, r.declarations,
        line + (printRules (rs.take i)).toList.count '\n', source⟩ := by
  -- by induction on the rules, with the line on which the first is printed
  induction rs generalizing line with
  | nil => rfl
  | cons r rs ih =>
    -- the other rules start below the printed form of the first
    rw [List.flatMap_cons, rulesFrom_append, (h r (by simp)).rulesFrom_items,
      RuleText.source_items, ih fun q hq => h q (by simp [hq]), List.mapIdx_cons]
    simp [toList_printRules, Nat.add_assoc]

/-- Rules that can be written are found again in what is written: the same selectors and
    declarations in order, each rule on the line on which its printed form starts. -/
theorem rules_printRules (rs : List RuleText) (h : ∀ r ∈ rs, r.Printable) (source : String) :
    rules (printRules rs) source =
      rs.mapIdx fun i r =>
        ⟨r.selector, r.declarations, 1 + (printRules (rs.take i)).toList.count '\n', source⟩ := by
  -- any valid layout will do: whether its blank items are maximal does not matter
  have hvalid : (Layout.mk (rs.flatMap RuleText.items) .nothing).Valid := by
    refine ⟨fun i hi => ?_, trivial⟩
    obtain ⟨r, hr, hi⟩ := List.mem_flatMap.mp hi
    exact (h r hr).valid_items i hi
  -- the printed text is the text of the layout, as no comment is removed from it
  have hsource : (Layout.mk (rs.flatMap RuleText.items) .nothing).source =
      stripComments (printRules rs).toList := by
    rw [stripComments_printRules h, toList_printRules, Layout.source, List.flatMap_assoc]
    simp [RuleText.source_items, Tail.source]
  rw [rules_eq_of_layout hvalid hsource]
  exact rulesFrom_flatMap_items h source 1

/-- Rules with an escaped brace, nested braces, a stray closing brace and line breaks. -/
theorem rules_printRules_braces :
    (∀ r ∈ ([⟨"a\\\x7bb", ["color: red", "x: \x7by\x7d"]⟩, ⟨"p,\nq\x7d", []⟩,
      ⟨".c", ["m:\n0"]⟩] : List RuleText), r.Printable) ∧
    rules "a\\\x7bb \x7bcolor: red; x: \x7by\x7d\x7d\np,\nq\x7d \x7b\x7d\n.c \x7bm:\n0\x7d\n"
        "s.css" =
      [⟨"a\\\x7bb", ["color: red", "x: \x7by\x7d"], 1, "s.css"⟩, ⟨"p,\nq\x7d", [], 2, "s.css"⟩,
        ⟨".c", ["m:\n0"], 4, "s.css"⟩] := by
  have h : ∀ r ∈ ([⟨"a\\\x7bb", ["color: red", "x: \x7by\x7d"]⟩, ⟨"p,\nq\x7d", []⟩,
      ⟨".c", ["m:\n0"]⟩] : List RuleText), r.Printable := by
    decide +kernel
  exact ⟨h, rules_printRules _ h "s.css"⟩

end SheetAudit.Stylesheet

import SheetAudit.Proofs.Comments
import SheetAudit.Proofs.Scan

/-!
# Sheets put together

When every construct of a stylesheet is closed, text can be put behind it: the rules of the whole
are those of the sheet and those of the text behind it, further down by the lines of the sheet.
What stands behind may be broken in any way.  The layouts of the two parts, one behind the other,
are a layout of the whole, in which blank items may meet at the seam.

## Key results

- `rulesFrom_add`: rules further down in a sheet
- `rules_append`: the rules of two sheets put together
-/

namespace SheetAudit.Stylesheet

/-- The rule `n` lines further down. -/
def Rule.below (n : Nat) (r : Rule) : Rule :=
  { r with line := r.line + n }

/-- A rule set further down has its rule further down. -/
theorem styleRules_add (source : String) (line n : Nat) (sel body : List Char) :
    styleRules source (line + n) sel body =
      (styleRules source line sel body).map (Rule.below n) := by
  unfold styleRules
  split <;> rfl

/-- An item further down has its rule, if it has one, further down. -/
private theorem Item.rules_add (source : String) (line n : Nat) (i : Item) :
    i.rules source (line + n) = (i.rules source line).map (Rule.below n) := by
  cases i with
  | blank text => rfl
  | atRule head body => rfl
  | style sel body => exact styleRules_add source line n sel body

/-- A sheet that breaks off further down has the rule of its open block further down. -/
private theorem Tail.rules_add (source : String) (line n : Nat) (t : Tail) :
    t.rules source (line + n) = (t.rules source line).map (Rule.below n) := by
  cases t with
  | block sel body => exact styleRules_add source line n sel body
  | _ => rfl

/-- Pieces that start further down have their rules further down. -/
theorem rulesFrom_add (source : String) (line n : Nat) (items : List Item) (t : Tail) :
    rulesFrom source (line + n) items t =
      (rulesFrom source line items t).map (Rule.below n) := by
  -- on the items; each moves the line on for those behind it
  induction items generalizing line with
  | nil => exact t.rules_add source line n
  | cons i items ih =>
    rw [rulesFrom, rulesFrom, List.map_append, ← ih, i.rules_add, Nat.add_right_comm]

/-- The rules of two sheets put together, the first of which leaves nothing open, are the rules of
    the first and, below its lines, those of the second. -/
theorem rules_append (a b source : String) (hopen : ¬ HasOpenComment a.toList)
    (hseam : ¬ (EndsInCode '/' a.toList ∧ b.toList.head? = some '*'))
    (hclosed : (Scanner.start a.toList source).EndsClosed) :
    rules (a ++ b) source =
      rules a source ++ (rules b source).map (Rule.below (a.toList.count '\n')) := by
  obtain ⟨⟨is, t⟩, ha⟩ := exists_layout (stripComments a.toList)
  obtain ⟨⟨js, u⟩, hb⟩ := exists_layout (stripComments b.toList)
  obtain rfl : t = .nothing := tail_eq_nothing_of_endsClosed ha.valid ha.source_eq hclosed
  have hstrip : is.flatMap Item.source = stripComments a.toList := by
    rw [← ha.source_eq]
    exact (List.append_nil _).symm
  -- one layout behind the other; two blank items may meet at the seam
  have hvalid : (Layout.mk (is ++ js) u).Valid := by
    refine ⟨fun i hi => ?_, hb.valid.2⟩
    rcases List.mem_append.mp hi with hi | hi
    · exact ha.valid.1 i hi
    · exact hb.valid.1 i hi
  have hsource : (Layout.mk (is ++ js) u).source = stripComments (a ++ b).toList := by
    rw [String.toList_append, stripComments_append hopen hseam, ← hb.source_eq, ← hstrip]
    simp [Layout.source]
  -- the items of the second part start below all the lines of the first, comments included
  rw [rules_eq_of_layout hvalid hsource, rules_eq_of_layout ha.valid ha.source_eq,
    rules_eq_of_layout hb.valid hb.source_eq, Layout.rules, Layout.rules, Layout.rules,
    rulesFrom_append, hstrip, count_newline_stripComments, rulesFrom_add]

/-- A comment at the seam, whose last character would open a comment with what follows if it stood
    outside, and a sheet behind it that breaks off in a block. -/
theorem rules_append_comment :
    ¬ HasOpenComment "/* x\n*/@m\x7ba\x7b\x7d\x7d\nb\x7bc:d\x7d /**/".toList ∧
    ¬ (EndsInCode '/' "/* x\n*/@m\x7ba\x7b\x7d\x7d\nb\x7bc:d\x7d /**/".toList ∧
      "*\n\x7be:f".toList.head? = some '*') ∧
    (Scanner.start "/* x\n*/@m\x7ba\x7b\x7d\x7d\nb\x7bc:d\x7d /**/".toList "s.css").EndsClosed ∧
    rules ("/* x\n*/@m\x7ba\x7b\x7d\x7d\nb\x7bc:d\x7d /**/" ++ "*\n\x7be:f") "s.css" =
      [⟨"b", ["c:d"], 3, "s.css"⟩, ⟨"*", ["e:f"], 3, "s.css"⟩] := by
  have hopen : ¬ HasOpenComment "/* x\n*/@m\x7ba\x7b\x7d\x7d\nb\x7bc:d\x7d /**/".toList := by
    decide +kernel
  have hseam : ¬ (EndsInCode '/' "/* x\n*/@m\x7ba\x7b\x7d\x7d\nb\x7bc:d\x7d /**/".toList ∧
      "*\n\x7be:f".toList.head? = some '*') := by
    decide +kernel
  have hclosed : (Scanner.start "/* x\n*/@m\x7ba\x7b\x7d\x7d\nb\x7bc:d\x7d /**/".toList
      "s.css").EndsClosed := by
    decide +kernel
  refine ⟨hopen, hseam, hclosed, ?_⟩
  -- the rules are those of the two texts, of which each is read on its own
  rw [rules_append _ _ _ hopen hseam hclosed]
  decide +kernel

end SheetAudit.Stylesheet

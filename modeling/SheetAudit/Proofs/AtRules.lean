import SheetAudit.Proofs.Bundling

/-!
# At-rules are opaque

An at-rule is passed over whole: its head and its block leave nothing behind but their line breaks.
Both an at-rule and a run of line breaks are laid out by items without rules, and text of that kind
between two sheets only moves the rules of the second sheet down.

## Key results

- `not_endsInCode_of_endsClosed`: no comment can start across the end of a sheet that is closed
- `rules_append_append`: text without rules between two sheets
- `rules_atRule_opaque`: an at-rule can be replaced by its line breaks, or by another at-rule that
  has as many of them
-/

namespace SheetAudit.Stylesheet

open SheetAudit.Text

/-! ## Where closed sheets end -/

/-- An item ends in a blank character or in the brace that closes its block. -/
private theorem Item.exists_getLast?_source {i : Item} (hi : i.Valid) :
    ∃ c, i.source.getLast? = some c ∧ (isBlank c = true ∨ c = '}') := by
  -- a blank text ends with a blank, and the other items with their closing brace
  cases i with
  | blank text =>
    obtain ⟨hne, hblank⟩ := hi
    exact ⟨text.getLast hne, List.getLast?_eq_some_getLast hne,
      .inl (hblank _ (List.getLast_mem hne))⟩
  | atRule head body =>
    refine ⟨'}', List.getLast?_eq_some_iff.mpr ⟨'@' :: (head ++ '{' :: body), ?_⟩, .inr rfl⟩
    simp [source]
  | style sel body =>
    refine ⟨'}', List.getLast?_eq_some_iff.mpr ⟨sel ++ '{' :: body, ?_⟩, .inr rfl⟩
    simp [source]

/-- So do items in a row, if there are any. -/
private theorem getLast?_flatMap_source {items : List Item} (hitems : ∀ i ∈ items, i.Valid) :
    ∀ c ∈ (items.flatMap Item.source).getLast?, isBlank c = true ∨ c = '}' := by
  intro c hc
  rcases List.eq_nil_or_concat items with rfl | ⟨is, i, rfl⟩
  · simp at hc
  · obtain ⟨d, hlast, hd⟩ := Item.exists_getLast?_source (hitems i (by simp))
    obtain rfl : d = c := by simpa [List.getLast?_append, hlast] using hc
    exact hd

/-- The last character of a text that ends outside comments stays the last one. -/
theorem getLast?_stripComments {c : Char} {cs : List Char} (h : EndsInCode c cs) :
    (stripComments cs).getLast? = some c := by
  obtain ⟨g, hlast, hcode, hc⟩ := h
  obtain ⟨gs, hgs⟩ := List.getLast?_eq_some_iff.mp hlast
  -- the last segment is code and is kept whole
  cases g with
  | code text =>
    have hc : text.getLast? = some c := hc
    simp [stripComments, hgs, Segment.visible, List.getLast?_append, hc]
  | comment body => simp [Segment.isComment] at hcode

/-- A sheet whose constructs are all closed does not end in the first half of an opening mark. -/
theorem not_endsInCode_of_endsClosed {text : List Char} {source : String}
    (h : (Scanner.start text source).EndsClosed) : ¬ EndsInCode '/' text := by
  intro hslash
  obtain ⟨⟨items, t⟩, hl⟩ := exists_layout (stripComments text)
  -- the sheet is all items, so that its last character is that of an item
  obtain rfl : t = .nothing := tail_eq_nothing_of_endsClosed hl.valid hl.source_eq h
  have hlast := getLast?_stripComments hslash
  rw [← hl.source_eq, Layout.source, Tail.source, List.append_nil] at hlast
  rcases getLast?_flatMap_source hl.valid.1 '/' hlast with hblank | hbrace
  · exact absurd hblank (by decide)
  · exact absurd hbrace (by decide)

/-! ## Text without rules -/

/-- Text that leaves nothing behind but its line breaks: items without rules, in which no comment
    starts. -/
structure Silent (text : List Char) : Prop where
  /-- It is laid out by items without rules. -/
  laid_out : ∃ items : List Item, (∀ i ∈ items, i.Valid) ∧ items.flatMap Item.source = text ∧
    ∀ source line, rulesFrom source line items .nothing = []
  /-- No comment starts in it. -/
  no_comment : ¬ commentOpen <:+: text

/-- Comments behind text without rules are removed as if that text were not there. -/
theorem Silent.stripComments_append {text : List Char} (h : Silent text) (rest : List Char) :
    stripComments (text ++ rest) = text ++ stripComments rest := by
  obtain ⟨items, hitems, rfl, -⟩ := h.laid_out
  have hsegs := segments_of_no_comment (not_firstComment_of_not_isInfix h.no_comment)
  -- without a comment in it the text leaves none open and does not end in half of an opening mark
  have hopen : ¬ HasOpenComment (items.flatMap Item.source) := by
    rintro ⟨g, hg, -, hocc⟩
    obtain rfl : g = .code _ := by simpa [hsegs] using hg
    exact h.no_comment ((occurs_iff_isInfix (by simp [commentOpen])).mp hocc)
  have hend : ¬ EndsInCode '/' (items.flatMap Item.source) := by
    intro hslash
    have hlast := getLast?_stripComments hslash
    rw [stripComments_of_not_isInfix h.no_comment] at hlast
    exact absurd (getLast?_flatMap_source hitems '/' hlast) (by decide)
  rw [Stylesheet.stripComments_append hopen fun hs => hend hs.1,
    stripComments_of_not_isInfix h.no_comment]

/-- Text without rules between two sheets, the first of which leaves nothing open, only moves the
    rules of the second sheet down. -/
theorem rules_append_append {pre mid : String} (suf : String) {source : String}
    (hopen : ¬ HasOpenComment pre.toList) (hclosed : (Scanner.start pre.toList source).EndsClosed)
    (hmid : Silent mid.toList) :
    rules (pre ++ mid ++ suf) source =
      rules pre source ++
        (rules suf source).map (Rule.below (pre.toList.count '\n' + mid.toList.count '\n')) := by
  obtain ⟨⟨is, t⟩, hpre⟩ := exists_layout (stripComments pre.toList)
  obtain ⟨⟨js, u⟩, hsuf⟩ := exists_layout (stripComments suf.toList)
  obtain ⟨ks, hks, hsrc, hsilent⟩ := hmid.laid_out
  obtain rfl : t = .nothing := tail_eq_nothing_of_endsClosed hpre.valid hpre.source_eq hclosed
  have hstrip : is.flatMap Item.source = stripComments pre.toList := by
    rw [← hpre.source_eq]
    exact (List.append_nil _).symm
  -- the three layouts one behind the other; the middle one has no rules
  have hvalid : (Layout.mk (is ++ (ks ++ js)) u).Valid := by
    refine ⟨fun i hi => ?_, hsuf.valid.2⟩
    rcases List.mem_append.mp hi with hi | hi
    · exact hpre.valid.1 i hi
    · rcases List.mem_append.mp hi with hi | hi
      · exact hks i hi
      · exact hsuf.valid.1 i hi
  have hsource : (Layout.mk (is ++ (ks ++ js)) u).source =
      stripComments (pre ++ mid ++ suf).toList := by
    rw [String.toList_append, String.toList_append, List.append_assoc,
      stripComments_append hopen fun hs => not_endsInCode_of_endsClosed hclosed hs.1,
      hmid.stripComments_append, ← hstrip, ← hsrc, ← hsuf.source_eq]
    simp [Layout.source]
  rw [rules_eq_of_layout hvalid hsource, rules_eq_of_layout hpre.valid hpre.source_eq,
    rules_eq_of_layout hsuf.valid hsuf.source_eq, Layout.rules, Layout.rules, Layout.rules,
    rulesFrom_append, rulesFrom_append, hsilent, hstrip, hsrc, count_newline_stripComments,
    List.nil_append, Nat.add_assoc, rulesFrom_add]

/-! ## At-rules and line breaks -/

/-- The text of an at-rule: its head, which stands between `@` and the opening brace, and its
    block. -/
def atRuleText (head body : String) : String :=
  "@" ++ head ++ "\x7b" ++ body ++ "\x7d"

/-- Head and block of an at-rule that is closed and in which no comment starts. -/
structure IsAtRule (head body : String) : Prop where
  /-- The head ends at the first opening brace. -/
  head_no_brace : '{' ∉ head.toList
  /-- The braces of the block are balanced. -/
  body_balanced : Balanced body.toList
  /-- No comment starts in the head. -/
  head_no_comment : ¬ commentOpen <:+: head.toList
  /-- No comment starts in the block. -/
  body_no_comment : ¬ commentOpen <:+: body.toList

/-- The four conditions on an at-rule, by which it can be decided whether a text is one. -/
theorem isAtRule_iff (head body : String) :
    IsAtRule head body ↔ '{' ∉ head.toList ∧ Balanced body.toList ∧
      ¬ commentOpen <:+: head.toList ∧ ¬ commentOpen <:+: body.toList :=
  ⟨fun h => ⟨h.1, h.2, h.3, h.4⟩, fun h => ⟨h.1, h.2.1, h.2.2.1, h.2.2.2⟩⟩

instance (head body : String) : Decidable (IsAtRule head body) :=
  decidable_of_iff' _ (isAtRule_iff head body)

/-- So many line breaks. -/
def lineBreaks (n : Nat) : String :=
  String.ofList (List.replicate n '\n')

/-- The characters of an at-rule, with its two braces apart. -/
private theorem toList_atRuleText (head body : String) :
    (atRuleText head body).toList =
      '@' :: (head.toList ++ '{' :: (body.toList ++ ['}'])) := by
  simp [atRuleText]

/-- The line breaks of an at-rule are those of its head and of its block. -/
private theorem count_newline_atRuleText (head body : String) :
    (atRuleText head body).toList.count '\n' =
      head.toList.count '\n' + body.toList.count '\n' := by
  rw [toList_atRuleText]
  simp [List.count_append]

/-- An at-rule is a single item, and it has no rules. -/
theorem IsAtRule.silent {head body : String} (h : IsAtRule head body) :
    Silent (atRuleText head body).toList where
  laid_out := by
    refine ⟨[.atRule head.toList body.toList], ?_, ?_, fun _ _ => rfl⟩
    · exact List.forall_mem_singleton.mpr ⟨h.head_no_brace, h.body_balanced⟩
    · rw [toList_atRuleText, List.flatMap_singleton, Item.source]
  no_comment := by
    -- neither `@` nor a brace is half of an opening mark
    rw [toList_atRuleText]
    refine not_pair_infix_append (u := ['@']) (by decide) ?_ (by simp)
    refine not_pair_infix_append h.head_no_comment ?_ (by simp)
    refine not_pair_infix_append (u := ['{']) (by decide) ?_ (by simp)
    exact not_pair_infix_append h.body_no_comment (by decide) (by simp)

/-- So many line breaks are counted as so many. -/
private theorem count_newline_lineBreaks (n : Nat) : (lineBreaks n).toList.count '\n' = n := by
  simp [lineBreaks]

/-- Line breaks are one blank item, which has no rules either. -/
private theorem silent_lineBreaks (n : Nat) : Silent (lineBreaks n).toList where
  laid_out := by
    -- blank items are not empty, so that no line break is no item
    cases n with
    | zero => exact ⟨[], by simp, rfl, fun _ _ => rfl⟩
    | succ n =>
      refine ⟨[.blank (List.replicate (n + 1) '\n')], ?_, ?_, fun _ _ => rfl⟩
      · refine List.forall_mem_singleton.mpr ⟨by simp, fun c hc => ?_⟩
        rw [(List.mem_replicate.mp hc).2]
        decide
      · simp [lineBreaks, Item.source]
  no_comment := by
    intro h
    have hmem : '/' ∈ (lineBreaks n).toList := h.subset (by simp [commentOpen])
    simp [lineBreaks] at hmem

/-- Nothing written in an at-rule adds, removes or changes a rule except through its line breaks:
    behind a sheet that leaves nothing open, and whatever follows, an at-rule can be replaced by its
    line breaks, and by every other at-rule with as many of them. -/
theorem rules_atRule_opaque (pre suf source : String) (hopen : ¬ HasOpenComment pre.toList)
    (hclosed : (Scanner.start pre.toList source).EndsClosed) :
    (∀ head body : String, IsAtRule head body →
      rules (pre ++ atRuleText head body ++ suf) source =
        rules (pre ++ lineBreaks (head.toList.count '\n' + body.toList.count '\n') ++ suf)
          source) ∧
      ∀ head body head' body' : String, IsAtRule head body → IsAtRule head' body' →
        head.toList.count '\n' + body.toList.count '\n' =
          head'.toList.count '\n' + body'.toList.count '\n' →
        rules (pre ++ atRuleText head body ++ suf) source =
          rules (pre ++ atRuleText head' body' ++ suf) source := by
  constructor
  · intro head body h
    rw [rules_append_append suf hopen hclosed h.silent,
      rules_append_append suf hopen hclosed (silent_lineBreaks _), count_newline_atRuleText,
      count_newline_lineBreaks]
  · intro head body head' body' h h' hcount
    rw [rules_append_append suf hopen hclosed h.silent,
      rules_append_append suf hopen hclosed h'.silent, count_newline_atRuleText,
      count_newline_atRuleText, hcount]

/-- A comment in the sheet before, a block inside the block, quotes, a backslash and a semicolon in
    the at-rule, and a sheet behind it that opens a comment and breaks off. -/
theorem rules_atRule_opaque_nested :
    ¬ HasOpenComment "/* \x7b */a\x7b\x7d\n".toList ∧
    (Scanner.start "/* \x7b */a\x7b\x7d\n".toList "s.css").EndsClosed ∧
    IsAtRule "media \"\x7d\\\n" "b\x7bc:d;\n@x\x7b'\x7d\x7d" ∧ IsAtRule "\n\n" "" ∧
    rules ("/* \x7b */a\x7b\x7d\n" ++ lineBreaks 2 ++ "e\x7bf:g /*") "s.css" =
      [⟨"a", [], 1, "s.css"⟩, ⟨"e", ["f:g /*"], 4, "s.css"⟩] ∧
    rules ("/* \x7b */a\x7b\x7d\n" ++ atRuleText "media \"\x7d\\\n" "b\x7bc:d;\n@x\x7b'\x7d\x7d" ++
        "e\x7bf:g /*") "s.css" =
      rules ("/* \x7b */a\x7b\x7d\n" ++ lineBreaks 2 ++ "e\x7bf:g /*") "s.css" ∧
    rules ("/* \x7b */a\x7b\x7d\n" ++ atRuleText "media \"\x7d\\\n" "b\x7bc:d;\n@x\x7b'\x7d\x7d" ++
        "e\x7bf:g /*") "s.css" =
      rules ("/* \x7b */a\x7b\x7d\n" ++ atRuleText "\n\n" "" ++ "e\x7bf:g /*") "s.css" := by
  have hopen : ¬ HasOpenComment "/* \x7b */a\x7b\x7d\n".toList := by
    decide +kernel
  have hclosed : (Scanner.start "/* \x7b */a\x7b\x7d\n".toList "s.css").EndsClosed := by
    decide +kernel
  have hat : IsAtRule "media \"\x7d\\\n" "b\x7bc:d;\n@x\x7b'\x7d\x7d" := by
    decide +kernel
  have hat' : IsAtRule "\n\n" "" := by
    decide +kernel
  -- one of the texts is computed, and the two with at-rules are equal to it by the theorem
  obtain ⟨hbreaks, hother⟩ := rules_atRule_opaque _ "e\x7bf:g /*" _ hopen hclosed
  exact ⟨hopen, hclosed, hat, hat', by decide +kernel, hbreaks _ _ hat,
    hother _ _ _ _ hat hat' (by decide +kernel)⟩

end SheetAudit.Stylesheet

import SheetAudit.Proofs.ExitCodes
import SheetAudit.Proofs.MarkupText

/-!
# The lines about the sheets

A report has a line for each sheet, with the name of the sheet in tags.  As the name is read as
markup, it is shown as it is only if it is plain: no tag, no shielded bracket, no backslash at its
end and no emoji code.  All of this is about consoles that read markup as it is meant and are wide
enough for the lines; what a console makes of a line that is wider is not known.

## Key results

- `fileLine_of_isPlainName`: the line about a sheet with a plain name
- `isPlainName_of_fileLine`: a name that is shown as it is is plain
- `getElem?_lines_of_summary`: the lines of a report
- `summary_shows_names`: when a report shows all names
- `summary_hides_name`: a name with a tag in it
-/

namespace SheetAudit.Console

open Markup
open Stylesheet (Source selectorCount)

/-! ## Characters -/

/-- Whether a character is a control character. -/
def isControl (c : Char) : Bool :=
  c.toNat < 32 || (127 ≤ c.toNat && c.toNat < 160)

/-- Only control characters move the cursor. -/
private theorem movesCursor_of_not_isControl {c : Char} (h : isControl c = false) :
    movesCursor c = false := by
  by_contra hmoves
  rw [Bool.not_eq_false, movesCursor, List.contains_iff_mem] at hmoves
  have hsmall : c.toNat < 32 := by
    simp only [List.mem_cons, List.not_mem_nil, or_false] at hmoves
    omega
  simp [isControl, hsmall] at h

/-- A text without control characters that fits into the width of a console is shown in one line. -/
private theorem display_of_not_isControl {screen : Screen} {cs : List Char}
    (h : ∀ c ∈ cs, isControl c = false) (hfits : Text.textWidth cs ≤ screen.width) :
    screen.display cs = cs ++ ['\n'] := by
  have hmoves : cs.filter (!movesCursor ·) = cs := by
    rw [List.filter_eq_self]
    intro c hc
    simp [movesCursor_of_not_isControl (h c hc)]
  have hbreak : '\n' ∉ cs := fun hmem => absurd (h _ hmem) (by decide)
  have htab : '\t' ∉ cs := fun hmem => absurd (h _ hmem) (by decide)
  have hlines : displayLines cs = [cs] := by
    simp [displayLines, hmoves, List.splitOn_eq_singleton hbreak, expandTabs,
      List.splitOn_eq_singleton htab, joinAtStops]
  simp [Screen.display, hlines, Screen.fit, hfits]

/-- Whether a character may be part of a count: it is visible and has no meaning in markup. -/
def isCountChar (c : Char) : Bool :=
  32 ≤ c.toNat && c.toNat < 127 && c != '[' && c != '\\' && c != ':'

/-- No character of a count is a control character. -/
private theorem not_isControl_of_isCountChar {c : Char} (h : isCountChar c = true) :
    isControl c = false := by
  simp only [isCountChar, Bool.and_eq_true, decide_eq_true_eq] at h
  simp only [isControl, Bool.or_eq_false_iff, Bool.and_eq_false_iff, decide_eq_false_iff_not]
  omega

/-- Digits may be part of a count. -/
private theorem isCountChar_of_isDigit {c : Char} (h : c.isDigit = true) :
    isCountChar c = true := by
  have hrange : 48 ≤ c.toNat ∧ c.toNat ≤ 57 := by
    simpa [Char.isDigit, UInt32.le_iff_toNat_le] using h
  -- the three characters with a meaning in markup come behind the digits
  have hne : ∀ d : Char, 57 < d.toNat → c ≠ d := by
    rintro d hd rfl
    omega
  have hvisible : 32 ≤ c.toNat ∧ c.toNat < 127 := by omega
  simp [isCountChar, hvisible, hne '[' (by decide), hne '\\' (by decide), hne ':' (by decide)]

/-- An integer is written with characters of counts. -/
private theorem all_isCountChar_int (n : Int) : (toString n).toList.all isCountChar = true := by
  rw [List.all_eq_true]
  intro c hc
  rcases Text.isDigit_or_eq_dash_of_mem_toString_int hc with h | rfl
  · exact isCountChar_of_isDigit h
  · decide

/-- An amount is written with characters of counts. -/
private theorem all_isCountChar_amount (a : Amount) : a.text.toList.all isCountChar = true := by
  have hwhole := all_isCountChar_int (a.tenths / 10)
  have htenth := all_isCountChar_int (a.tenths % 10)
  rcases a with ⟨tenths, unit⟩
  cases unit <;> simp_all [Amount.text, SizeUnit.symbol, toString] <;> decide

/-- A size is written with characters of counts. -/
private theorem all_isCountChar_size {size : Int} {text : String} (h : shownSize size = .ok text) :
    text.toList.all isCountChar = true := by
  unfold shownSize sizeText at h
  cases ha : Amount.ofSize size with
  | error e =>
    rw [ha] at h
    cases h
  | ok a =>
    rw [ha] at h
    cases h
    exact all_isCountChar_amount a

/-! ## One line -/

/-- A name that is shown as it is. -/
structure IsPlainName (name : List Char) : Prop where
  /-- There is no tag in it. -/
  noTag : NoTag name
  /-- No bracket is shielded by a backslash. -/
  noShield : ¬['\\', '['] <:+: name
  /-- It does not end with a backslash, which would shield the tag behind it. -/
  noEndSlash : name.getLast? ≠ some '\\'
  /-- There is no emoji code in it. -/
  noCode : Emoji.replace name = name

/-- What is counted in a sheet, as it is shown. -/
def countsText (f : FileStats) (size : String) : List Char :=
  s!"({size}, {f.rules} rules, {f.selectors} selectors)".toList

/-- The line about a sheet, with its name as it is. -/
def plainLine (f : FileStats) (size : String) : List Char :=
  "  ".toList ++ f.name.toList ++ ' ' :: countsText f size

/-- The markup of a line, cut where its tags stand. -/
theorem lineMarkup_eq (f : FileStats) (size : String) :
    lineMarkup f size = "  ".toList ++ ('[' :: "cyan".toList ++ ']' :: (f.name.toList ++
      ('[' :: '/' :: "cyan".toList ++ ']' :: ([' '] ++ ('[' :: "dim".toList ++ ']' ::
        (countsText f size ++ ('[' :: '/' :: "dim".toList ++ ']' :: []))))))) := by
  simp [lineMarkup, countsText, toString]

variable {f : FileStats} {size : String}

/-- What is counted in a sheet is written with characters of counts. -/
private theorem all_isCountChar_counts (h : shownSize f.size = .ok size) :
    (countsText f size).all isCountChar = true := by
  have hsize := all_isCountChar_size h
  have hrules := all_isCountChar_int f.rules
  have hselectors := all_isCountChar_int f.selectors
  simp_all [countsText, toString]
  decide

/-- What is counted is shown as it is. -/
private theorem tokensAt_countsText (h : shownSize f.size = .ok size) (position : Nat) :
    tokensAt position [] (countsText f size) = [.text (countsText f size)] := by
  have hall := List.all_eq_true.mp (all_isCountChar_counts h)
  have hbracket : '[' ∉ countsText f size := fun hmem => absurd (hall _ hmem) (by decide)
  have hne : countsText f size ≠ [] := by simp [countsText, toString]
  rw [tokensAt_of_noTag (noTag_of_not_mem hbracket), List.append_nil, plain,
    if_neg (by simpa using hne), List.reverse_reverse,
    unshield_of_not_isInfix fun hin => hbracket (hin.subset (by simp))]

/-- The tokens of the line about a sheet: those of its name, with tags around it. -/
theorem tokens_lineMarkup (hlast : f.name.toList.getLast? ≠ some '\\')
    (h : shownSize f.size = .ok size) :
    ∃ p q r s t, tokens (lineMarkup f size) =
      .text "  ".toList :: .tag p "cyan".toList :: (tokensAt q [] f.name.toList ++
        [.tag r ('/' :: "cyan".toList), .text [' '], .tag s "dim".toList,
          .text (countsText f size), .tag t ('/' :: "dim".toList)]) := by
  have hcyan : IsTag "cyan".toList := ⟨'c', "yan".toList, rfl, rfl, by simp⟩
  have hclosing : IsTag ('/' :: "cyan".toList) := ⟨'/', "cyan".toList, rfl, rfl, by simp⟩
  have hdim : IsTag "dim".toList := isTag_dim
  have hclosingDim : IsTag ('/' :: "dim".toList) := isTag_closing_dim
  have hall := List.all_eq_true.mp (all_isCountChar_counts h)
  -- no backslash stands before the last tag, which would make it text
  have hcounts : (countsText f size).getLast? ≠ some '\\' :=
    fun hmem => absurd (hall _ (List.mem_of_getLast? hmem)) (by decide)
  rw [tokens_eq, lineMarkup_eq, tokensAt_append_tag (by decide) hcyan,
    tokensAt_append_tag hlast hclosing, tokensAt_append_tag (by decide) hdim,
    tokensAt_append_tag hcounts hclosingDim, tokensAt_countsText h, tokensAt_nil]
  exact ⟨_, _, _, _, _, rfl⟩

/-- What is left of the line about a sheet, and what is shown of it. -/
private theorem exists_texts_lineMarkup (hlast : f.name.toList.getLast? ≠ some '\\')
    (h : shownSize f.size = .ok size) :
    ∃ position, rawText (tokens (lineMarkup f size)) =
        "  ".toList ++ rawText (tokensAt position [] f.name.toList) ++ ' ' :: countsText f size ∧
      shownTokens (tokens (lineMarkup f size)) =
        "  ".toList ++ shownTokens (tokensAt position [] f.name.toList) ++
          ' ' :: countsText f size := by
  obtain ⟨p, q, r, s, t, htokens⟩ := tokens_lineMarkup hlast h
  have hall := List.all_eq_true.mp (all_isCountChar_counts h)
  -- what is counted is shown as it is
  have hcounts : shownText (countsText f size) = countsText f size :=
    shownText_eq_self
      (Emoji.replace_of_not_mem fun hmem => absurd (hall _ hmem) (by decide))
      fun c hc => movesCursor_of_not_isControl (not_isControl_of_isCountChar (hall c hc))
  have hblank : shownText [' '] = [' '] := by decide
  have hblanks : shownText "  ".toList = "  ".toList := by decide
  refine ⟨q, ?_, ?_⟩
  · rw [htokens, rawText_text_cons]
    simp
  · rw [htokens, shownTokens_text_cons, hblanks]
    simp [hcounts, hblank]

/-- The line about a sheet with a plain name can be shown. -/
private theorem exists_fileLine_of_isPlainName {screen : Screen} (hmarkup : screen.ReadsMarkup)
    (hname : IsPlainName f.name.toList) (h : shownSize f.size = .ok size) :
    ∃ text, screen.fileLine f = .ok text := by
  obtain ⟨p, q, r, s, t, htokens⟩ := tokens_lineMarkup hname.noEndSlash h
  -- a plain name adds no tags, and those around it pair up
  have htags : tagsOf (tokens (lineMarkup f size)) =
      ["cyan".toList, '/' :: "cyan".toList, "dim".toList, '/' :: "dim".toList] := by
    rw [htokens, tokensAt_of_noTag hname.noTag]
    simp
  rw [fileLine_eq h]
  apply hmarkup.exists_displayMarkup_of_tokens
  rw [htags]
  exact .opening isStyle_cyan (.closing (by simp) (pairUp_styled isStyle_dim))

/-- A line has no control characters if the name has none. -/
private theorem not_isControl_line (hcontrol : ∀ c ∈ f.name.toList, isControl c = false)
    (h : shownSize f.size = .ok size) :
    (∀ c ∈ lineMarkup f size, isControl c = false) ∧
      ∀ c ∈ plainLine f size, isControl c = false := by
  have hname : f.name.toList.all (!isControl ·) = true := by simpa using hcontrol
  have hcounts : (countsText f size).all (!isControl ·) = true := by
    rw [List.all_eq_true]
    intro c hc
    have hcount := List.all_eq_true.mp (all_isCountChar_counts h) c hc
    simp [not_isControl_of_isCountChar hcount]
  -- all that is not the name is fixed or counted
  have hmarkup : (lineMarkup f size).all (!isControl ·) = true := by
    rw [lineMarkup_eq]
    simp only [List.all_append, List.all_cons, hname, hcounts]
    decide
  have hplain : (plainLine f size).all (!isControl ·) = true := by
    rw [plainLine]
    simp only [List.all_append, List.all_cons, hname, hcounts]
    decide
  exact ⟨by simpa using hmarkup, by simpa using hplain⟩

/-- Whether what is shown of the line about a sheet fits into the width of a console. -/
def Screen.Fits (screen : Screen) (f : FileStats) (size : String) : Prop :=
  ∀ marked, screen.checkedMarkup (lineMarkup f size) = .ok marked →
    Text.textWidth marked.text ≤ screen.width

/-- A line that fits is written as it is shown, if it has no control characters. -/
private theorem text_of_fileLine {screen : Screen} (hmarkup : screen.ReadsMarkup) {text : List Char}
    (h : shownSize f.size = .ok size) (hfits : screen.Fits f size)
    (htext : screen.fileLine f = .ok text)
    (hcontrol : ∀ c ∈ shownTokens (tokens (lineMarkup f size)), isControl c = false) :
    text = shownTokens (tokens (lineMarkup f size)) ++ ['\n'] := by
  rw [fileLine_eq h] at htext
  obtain ⟨marked, hmarked, hshown, rfl⟩ := hmarkup.eq_display_of_displayMarkup htext
  have hwidth := hfits marked hmarked
  rw [hshown] at hwidth ⊢
  exact display_of_not_isControl hcontrol hwidth

/-- The line about a sheet with a plain name shows the name as it is. -/
theorem fileLine_of_isPlainName {screen : Screen} (hmarkup : screen.ReadsMarkup)
    (hname : IsPlainName f.name.toList) (hcontrol : ∀ c ∈ f.name.toList, isControl c = false)
    (h : shownSize f.size = .ok size) (hfits : screen.Fits f size) :
    screen.fileLine f = .ok (plainLine f size ++ ['\n']) := by
  obtain ⟨text, htext⟩ := exists_fileLine_of_isPlainName hmarkup hname h
  obtain ⟨position, -, hshown⟩ := exists_texts_lineMarkup hname.noEndSlash h
  have hmoves : ∀ c ∈ f.name.toList, movesCursor c = false :=
    fun c hc => movesCursor_of_not_isControl (hcontrol c hc)
  -- the name is one token, in which nothing is replaced
  rw [tokensAt_of_noTag hname.noTag, shownTokens_plain, List.append_nil, List.reverse_reverse,
    unshield_of_not_isInfix hname.noShield, shownText_eq_self hname.noCode hmoves] at hshown
  have hline := text_of_fileLine hmarkup h hfits htext
  rw [hshown] at hline
  rw [htext, hline (not_isControl_line hcontrol h).2, plainLine]

/-- A backslash at the end of a name shields the tag behind it. -/
private theorem shielded_infix_lineMarkup (size : String) (h : f.name.toList.getLast? = some '\\') :
    ['\\', '['] <:+: lineMarkup f size := by
  rw [lineMarkup_eq]
  refine .trans ?_ (List.suffix_append _ _).isInfix
  refine .trans ?_ (List.suffix_append _ _).isInfix
  refine .trans ?_ (List.suffix_cons _ _).isInfix
  exact Text.pair_infix_append_iff.mpr (.inr (.inr ⟨h, rfl⟩))

/-- Of the characters that have a meaning in names, a line has those of the name. -/
private theorem count_lineMarkup (h : shownSize f.size = .ok size) {d : Char}
    (hd : d = ':' ∨ d = '\\') :
    (lineMarkup f size).count d = f.name.toList.count d ∧
      (plainLine f size).count d = f.name.toList.count d := by
  have hcounts : (countsText f size).count d = 0 := by
    rw [List.count_eq_zero]
    intro hmem
    have hcount := List.all_eq_true.mp (all_isCountChar_counts h) d hmem
    rcases hd with rfl | rfl <;> exact absurd hcount (by decide)
  rw [lineMarkup_eq, plainLine]
  rcases hd with rfl | rfl <;> simp [hcounts]

/-- The line about a sheet whose name has at most one colon is one line, and a name that it shows as
    it is is plain. -/
theorem isPlainName_of_fileLine {screen : Screen} (hmarkup : screen.ReadsMarkup)
    {text : List Char}
    (hcontrol : ∀ c ∈ f.name.toList, isControl c = false) (hcolon : f.name.toList.count ':' ≤ 1)
    (h : shownSize f.size = .ok size) (hfits : screen.Fits f size)
    (htext : screen.fileLine f = .ok text) :
    ∃ line, text = line ++ ['\n'] ∧ '\n' ∉ line ∧
      (line = plainLine f size → IsPlainName f.name.toList) := by
  have hsub := rawText_tokens_sublist (lineMarkup f size)
  have hcontrol' : ∀ c ∈ rawText (tokens (lineMarkup f size)), isControl c = false :=
    fun c hc => (not_isControl_line hcontrol h).1 c (hsub.subset hc)
  -- with one colon at most nothing is replaced, so that what is left of the line is shown
  have hshown : shownTokens (tokens (lineMarkup f size)) =
      rawText (tokens (lineMarkup f size)) := by
    refine shownTokens_eq_rawText ?_ fun c hc => movesCursor_of_not_isControl (hcontrol' c hc)
    calc (rawText (tokens (lineMarkup f size))).count ':'
        ≤ (lineMarkup f size).count ':' := hsub.count_le ':'
      _ = f.name.toList.count ':' := (count_lineMarkup h (.inl rfl)).1
      _ ≤ 1 := hcolon
  refine ⟨rawText (tokens (lineMarkup f size)), ?_,
    fun hmem => absurd (hcontrol' _ hmem) (by decide), fun hline => ?_⟩
  · have hline := text_of_fileLine hmarkup h hfits htext
    rw [hshown] at hline
    exact hline hcontrol'
  · have hlast : f.name.toList.getLast? ≠ some '\\' := by
      intro hlast
      -- the backslash would be lost
      have hlt := count_rawText_tokens_lt (shielded_infix_lineMarkup size hlast)
      obtain ⟨hmarkup, hplain⟩ := count_lineMarkup h (d := '\\') (.inr rfl)
      rw [hline, hmarkup, hplain] at hlt
      exact lt_irrefl _ hlt
    obtain ⟨position, hraw, -⟩ := exists_texts_lineMarkup hlast h
    have hname : rawText (tokensAt position [] f.name.toList) = f.name.toList := by
      rw [hline, plainLine] at hraw
      exact (List.append_cancel_left (List.append_cancel_right hraw)).symm
    obtain ⟨htag, hshield⟩ := rawText_tokensAt_eq_iff.mp hname
    exact ⟨htag, hshield, hlast, Emoji.replace_of_count_le_one hcolon⟩

/-! ## The lines of a report -/

/-- What is written without a fault is the texts of the pieces. -/
theorem texts_of_write {pieces : List Piece} {text : List Char} (h : write pieces = ⟨text, none⟩) :
    ∃ texts : List (List Char), pieces = texts.map .ok ∧ text = texts.flatten := by
  -- by induction on the pieces: an error would have been written
  induction pieces generalizing text with
  | nil =>
    obtain rfl : [] = text := (Written.mk.inj h).1
    exact ⟨[], rfl, rfl⟩
  | cons p pieces ih =>
    cases p with
    | error e =>
      rw [write_error] at h
      cases h
    | ok t =>
      rw [write_ok] at h
      obtain ⟨rfl, herror⟩ := Written.mk.inj h
      rcases hwrite : write pieces with ⟨written, error⟩
      rw [hwrite] at herror
      obtain rfl : error = none := herror
      obtain ⟨texts, rfl, hwritten⟩ := ih hwrite
      exact ⟨t :: texts, rfl, by simp [hwritten]⟩

/-- A report that can be shown is the texts of its pieces. -/
theorem texts_of_summary {screen : Screen} {r : Report} {verbose : Bool} {text : List Char}
    (h : screen.summary r verbose = .ok text) :
    ∃ texts : List (List Char),
      screen.summaryPieces r verbose = texts.map .ok ∧ text = texts.flatten := by
  apply texts_of_write
  unfold Screen.summary at h
  split at h
  · next written hwrite =>
    obtain rfl := Except.ok.inj h
    exact hwrite
  · cases h

/-- Lines are found again in the text that they make up. -/
private theorem splitOn_flatMap_lines {lines : List (List Char)} (h : ∀ line ∈ lines, '\n' ∉ line)
    (rest : List Char) :
    (lines.flatMap (· ++ ['\n']) ++ rest).splitOn '\n' = lines ++ rest.splitOn '\n' := by
  -- by induction on the lines, each of which ends at its own line break
  induction lines with
  | nil => rfl
  | cons line lines ih =>
    obtain ⟨hline, hlines⟩ := List.forall_mem_cons.mp h
    rw [List.flatMap_cons, List.append_assoc, List.append_assoc, List.singleton_append,
      List.splitOn_append_cons_self, List.splitOn_eq_singleton hline, ih hlines]
    rfl

/-- Each line about a sheet stands in the report, behind the heading and the lines before it. -/
theorem getElem?_lines_of_summary {screen : Screen} {r : Report} {verbose : Bool}
    {text : List Char} {line : FileStats → List Char} (hwidth : 15 ≤ screen.width)
    (h : screen.summary r verbose = .ok text)
    (hlines : ∀ f ∈ r.files, screen.fileLine f = .ok (line f ++ ['\n']) ∧ '\n' ∉ line f) {i : Nat}
    (hi : i < r.files.length) : (text.splitOn '\n')[i + 1]? = r.files[i]?.map line := by
  obtain ⟨texts, hpieces, rfl⟩ := texts_of_summary h
  -- the pieces for the sheets are their lines
  have hmap : r.files.map screen.fileLine = (r.files.map fun f => line f ++ ['\n']).map .ok := by
    rw [List.map_map]
    exact List.map_congr_left fun f hf => (hlines f hf).1
  -- the pieces are the heading, the lines about the sheets and the rest, in this order
  rw [Screen.summaryPieces, List.cons_append, hmap] at hpieces
  obtain ⟨heading, tail, rfl, hheading, htail⟩ := List.map_eq_cons_iff.mp hpieces.symm
  obtain ⟨shown, rest, rfl, hshown, -⟩ := List.map_eq_append_iff.mp htail
  obtain rfl : shown = r.files.map fun f => line f ++ ['\n'] :=
    List.map_injective_iff.mpr (fun _ _ h => Except.ok.inj h) hshown
  have hbreak : heading = "Files Analyzed:".toList ++ ['\n'] := by
    have hcolumns : Text.textWidth "Files Analyzed:".toList = 15 := by decide +kernel
    have hcontrol : "Files Analyzed:".toList.all (!isControl ·) = true := by decide +kernel
    rw [Except.ok.inj hheading]
    exact display_of_not_isControl (by simpa using hcontrol) (hcolumns.trans_le hwidth)
  have htext : (heading :: ((r.files.map fun f => line f ++ ['\n']) ++ rest)).flatten =
      ("Files Analyzed:".toList :: r.files.map line).flatMap (· ++ ['\n']) ++ rest.flatten := by
    rw [hbreak]
    simp [List.flatMap, Function.comp_def]
  have hnone : ∀ l ∈ "Files Analyzed:".toList :: r.files.map line, '\n' ∉ l := by
    refine List.forall_mem_cons.mpr ⟨by decide, ?_⟩
    simpa using fun f hf => (hlines f hf).2
  rw [htext, splitOn_flatMap_lines hnone, List.cons_append, List.getElem?_cons_succ,
    List.getElem?_append_left (by simpa using hi), List.getElem?_map]

/-- A report can be shown if the lines about its sheets can. -/
private theorem exists_summary {screen : Screen} {r : Report} {k : Nat}
    (hlines : ∀ f ∈ r.files, ∃ text, screen.fileLine f = .ok text)
    (htotal : |r.totals.size| ≤ 2 ^ k) (hk : k ≤ 1022)
    (hscores : ∀ row ∈ scoreRows r.scores, |(row.2 : ℚ)| ≤ 100) (verbose : Bool) :
    ∃ text, screen.summary r verbose = .ok text := by
  have herror := error_write_summaryPieces hlines htotal hk hscores verbose
  rcases hwrite : write (screen.summaryPieces r verbose) with ⟨text, error⟩
  rw [hwrite] at herror
  obtain rfl : error = none := herror
  exact ⟨text, by rw [Screen.summary, hwrite]⟩

/-- In a report that can be shown, the line about each sheet can. -/
private theorem exists_fileLine_of_summary {screen : Screen} {r : Report} {verbose : Bool}
    {text : List Char} (h : screen.summary r verbose = .ok text) :
    ∀ f ∈ r.files, ∃ line, screen.fileLine f = .ok line := by
  obtain ⟨texts, hpieces, -⟩ := texts_of_summary h
  intro f hf
  have hmem : screen.fileLine f ∈ texts.map Except.ok := by
    rw [← hpieces, Screen.summaryPieces]
    simp [List.mem_map_of_mem hf]
  obtain ⟨line, -, hline⟩ := List.mem_map.mp hmem
  exact ⟨line, hline.symm⟩

/-- Whether a console shows each sheet of a report under its name, and with what was counted in
it. -/
def Screen.ShowsNames (screen : Screen) (sources : List Source) (r : Report) (verbose : Bool) :
    Prop :=
  ∃ text, screen.summary r verbose = .ok text ∧ ∀ i s, sources[i]? = some s →
    ∃ size, shownSize s.content.utf8ByteSize = .ok size ∧
      (text.splitOn '\n')[i + 1]? = some (plainLine (FileStats.of s s.rules) size)

/-- Whether a console is wide enough for the lines about sheets and for the heading over them. -/
structure Screen.IsWideFor (screen : Screen) (sources : List Source) : Prop where
  /-- The heading fits. -/
  heading : 15 ≤ screen.width
  /-- What is shown of the line about each sheet fits. -/
  lines : ∀ s ∈ sources, ∀ size, shownSize s.content.utf8ByteSize = .ok size →
    screen.Fits (FileStats.of s s.rules) size

variable {screen : Screen} {sources : List Source} {r : Report} {verbose : Bool}

section Files

variable (hmarkup : screen.ReadsMarkup)
  (hfiles : r.files = sources.map fun s => FileStats.of s s.rules)
  (hcontrol : ∀ s ∈ sources, ∀ c ∈ s.name.toList, isControl c = false)
  (hwide : screen.IsWideFor sources)
include hmarkup hfiles hcontrol hwide

/-- Plain names are shown. -/
theorem showsNames_of_isPlainName
    (hsizes : ∀ s ∈ sources, ∃ size, shownSize s.content.utf8ByteSize = .ok size)
    (hsummary : (∀ f ∈ r.files, ∃ text, screen.fileLine f = .ok text) →
      ∃ text, screen.summary r verbose = .ok text)
    (hnames : ∀ s ∈ sources, IsPlainName s.name.toList) :
    screen.ShowsNames sources r verbose := by
  have hlines : ∀ f ∈ r.files, ∃ line, screen.fileLine f = .ok (line ++ ['\n']) ∧ '\n' ∉ line ∧
      ∃ size, shownSize f.size = .ok size ∧ line = plainLine f size := by
    intro f hf
    obtain ⟨s, hs, rfl⟩ := List.mem_map.mp (hfiles ▸ hf)
    obtain ⟨size, hsize⟩ := hsizes s hs
    refine ⟨_, fileLine_of_isPlainName hmarkup (hnames s hs) (hcontrol s hs) hsize
      (hwide.lines s hs size hsize), fun hmem => ?_, size, hsize, rfl⟩
    have hline := not_isControl_line (f := FileStats.of s s.rules) (hcontrol s hs) hsize
    exact absurd (hline.2 _ hmem) (by decide)
  -- the lines of the sheets are put together to the lines of the report
  choose! line hline using hlines
  obtain ⟨text, htext⟩ := hsummary fun f hf => ⟨_, (hline f hf).1⟩
  refine ⟨text, htext, fun i s hs => ?_⟩
  have hfile : r.files[i]? = some (FileStats.of s s.rules) := by
    rw [hfiles, List.getElem?_map, hs, Option.map_some]
  obtain ⟨-, -, size, hsize, hplain⟩ := hline _ (List.mem_of_getElem? hfile)
  refine ⟨size, hsize, ?_⟩
  rw [getElem?_lines_of_summary hwide.heading htext
    (fun f hf => ⟨(hline f hf).1, (hline f hf).2.1⟩)
    (List.getElem?_eq_some_iff.mp hfile).1, hfile, Option.map_some, hplain]

/-- Names with at most one colon that are shown are plain. -/
theorem isPlainName_of_showsNames (hcolons : ∀ s ∈ sources, s.name.toList.count ':' ≤ 1)
    (h : screen.ShowsNames sources r verbose) : ∀ s ∈ sources, IsPlainName s.name.toList := by
  obtain ⟨text, htext, hnames⟩ := h
  -- each line that is shown tells whether its name is plain
  have hlines : ∀ f ∈ r.files, ∃ line, screen.fileLine f = .ok (line ++ ['\n']) ∧ '\n' ∉ line ∧
      ∀ size, shownSize f.size = .ok size → line = plainLine f size →
        IsPlainName f.name.toList := by
    intro f hf
    obtain ⟨s, hs, rfl⟩ := List.mem_map.mp (hfiles ▸ hf)
    obtain ⟨i, hi⟩ := List.mem_iff_getElem?.mp hs
    obtain ⟨size, hsize, -⟩ := hnames i s hi
    obtain ⟨shown, hshown⟩ := exists_fileLine_of_summary htext _ hf
    obtain ⟨line, rfl, hbreak, hplain⟩ :=
      isPlainName_of_fileLine (f := FileStats.of s s.rules) hmarkup (hcontrol s hs)
        (hcolons s hs) hsize (hwide.lines s hs size hsize) hshown
    refine ⟨line, hshown, hbreak, fun size' hsize' hline => hplain ?_⟩
    obtain rfl := Except.ok.inj (hsize.symm.trans hsize')
    exact hline
  -- the line that is shown for a sheet is the one at its place, so it is the plain one
  choose! line hline using hlines
  intro s hs
  obtain ⟨i, hi⟩ := List.mem_iff_getElem?.mp hs
  have hfile : r.files[i]? = some (FileStats.of s s.rules) := by
    rw [hfiles, List.getElem?_map, hi, Option.map_some]
  obtain ⟨size, hsize, hshown⟩ := hnames i s hi
  rw [getElem?_lines_of_summary hwide.heading htext
    (fun f hf => ⟨(hline f hf).1, (hline f hf).2.1⟩)
    (List.getElem?_eq_some_iff.mp hfile).1, hfile, Option.map_some] at hshown
  exact (hline _ (List.mem_of_getElem? hfile)).2.2 size hsize (Option.some.inj hshown)

end Files

/-! ## Reports of audits -/

/-- The report of sheets that are not too large can be shown, on any console, if the lines about
    them can. -/
private theorem exists_report (hne : sources ≠ [])
    (hselectors : selectorCount (sources.flatMap Source.rules) < 2 ^ 1000)
    (hsizes : (sources.map (·.content.utf8ByteSize)).sum ≤ 2 ^ 1000) (threshold : Int)
    (verbose : Bool) :
    ∃ report, audit sources threshold = .ok report ∧
      report.files = (sources.map fun s => FileStats.of s s.rules) ∧
      ∀ screen : Screen, (∀ f ∈ report.files, ∃ text, screen.fileLine f = .ok text) →
        ∃ text, screen.summary report verbose = .ok text := by
  -- few selectors have scores, and small sheets a total
  obtain ⟨scores, hscores⟩ := exists_scores_eq_ok hselectors _
  have htotal :
      |(Totals.ofFiles (sources.map fun s => FileStats.of s s.rules)).size| ≤ 2 ^ 1000 := by
    rw [size_totals_ofFiles]
    exact abs_natCast_le hsizes
  refine ⟨_, by rw [audit_eq hne, hscores], rfl, fun screen hlines => ?_⟩
  exact exists_summary hlines htotal (by norm_num) (abs_le_of_scores hscores) verbose

/-- A report shows each sheet under its name, with what was counted in it, if the names are plain.
    Names with at most one colon are shown only if they are plain: a report that shows them all has
    none with a tag, a shielded bracket or a backslash at its end.  The console may be any
    that reads markup: its width is one into which the lines about the sheets fit, and it may do
    anything with other lines.  If the names are plain, the report is shown whether the lines fit or
    not. -/
theorem summary_shows_names (screen : Screen) (hmarkup : screen.ReadsMarkup)
    (sources : List Source) (threshold : Int) (verbose : Bool) (hne : sources ≠ [])
    (hselectors : selectorCount (sources.flatMap Source.rules) < 2 ^ 1000)
    (hsizes : (sources.map (·.content.utf8ByteSize)).sum ≤ 2 ^ 1000)
    (hcontrol : ∀ s ∈ sources, ∀ c ∈ s.name.toList, isControl c = false) :
    ∃ report, audit sources threshold = .ok report ∧
      ((∀ s ∈ sources, IsPlainName s.name.toList) →
        (∃ text, screen.summary report verbose = .ok text) ∧
        (screen.IsWideFor sources → screen.ShowsNames sources report verbose)) ∧
      ((∀ s ∈ sources, s.name.toList.count ':' ≤ 1) → screen.IsWideFor sources →
        screen.ShowsNames sources report verbose → ∀ s ∈ sources, IsPlainName s.name.toList) := by
  -- no sheet is larger than all of them together
  have hshownSizes : ∀ s ∈ sources, ∃ size, shownSize s.content.utf8ByteSize = .ok size := by
    intro s hs
    have hmem := List.mem_map_of_mem (f := fun s : Source => s.content.utf8ByteSize) hs
    have hle := (List.single_le_sum (fun _ _ => Nat.zero_le _) _ hmem).trans hsizes
    obtain ⟨size, hsize, -⟩ := exists_shownSize (abs_natCast_le hle) (by norm_num)
    exact ⟨size, hsize⟩
  obtain ⟨report, haudit, hfiles, hsummary⟩ := exists_report hne hselectors hsizes threshold verbose
  refine ⟨report, haudit, fun hnames => ⟨hsummary screen fun f hf => ?_, fun hwide => ?_⟩,
    fun hcolons hwide => isPlainName_of_showsNames hmarkup hfiles hcontrol hwide hcolons⟩
  · obtain ⟨s, hs, rfl⟩ := List.mem_map.mp (hfiles ▸ hf)
    obtain ⟨size, hsize⟩ := hshownSizes s hs
    exact exists_fileLine_of_isPlainName (f := FileStats.of s s.rules) hmarkup (hnames s hs) hsize
  · exact showsNames_of_isPlainName hmarkup hfiles hcontrol hwide hshownSizes (hsummary screen)
      hnames

/-- Small sheets are far below the limits. -/
private theorem lt_two_pow_of_lt_eight {n k : Nat} (hn : n < 2 ^ 3) (hk : 3 ≤ k) : n < 2 ^ k :=
  lt_of_lt_of_le hn (Nat.pow_le_pow_right (by decide) hk)

/-- Two sheets with plain names, one with brackets in it, the other with a colon and a backslash, on
    a console of 80 columns. -/
theorem summary_shows_names_brackets :
    ∃ screen : Screen, screen.width = 80 ∧ ∃ report text,
      audit [⟨"a[0].css", "a\x7b\x7d"⟩, ⟨"C:\\b.css", "b\x7b\x7d"⟩] 60 = .ok report ∧
      screen.summary report false = .ok text ∧
      (text.splitOn '\n')[1]? = some "  a[0].css (3 B, 1 rules, 1 selectors)".toList ∧
      (text.splitOn '\n')[2]? = some "  C:\\b.css (3 B, 1 rules, 1 selectors)".toList := by
  let screen : Screen := { Screen.wide with width := 80 }
  have hmarkup : screen.ReadsMarkup := readsMarkup_of_render rfl rfl
  let sources : List Source := [⟨"a[0].css", "a\x7b\x7d"⟩, ⟨"C:\\b.css", "b\x7b\x7d"⟩]
  have hselectors : selectorCount (sources.flatMap Source.rules) = 2 := by decide +kernel
  have hsizes : (sources.map (·.content.utf8ByteSize)).sum = 6 := by decide +kernel
  have hcontrol : ∀ s ∈ sources, ∀ c ∈ s.name.toList, isControl c = false := by
    have hall : sources.all (fun s => s.name.toList.all (!isControl ·)) = true := by decide +kernel
    simpa using hall
  -- both names come out as they are, so they are plain
  have hplain : ∀ s ∈ sources, IsPlainName s.name.toList := by
    have hraw : ∀ s ∈ sources, rawText (tokensAt 0 [] s.name.toList) = s.name.toList ∧
        s.name.toList.getLast? ≠ some '\\' ∧ s.name.toList.count ':' ≤ 1 := by
      decide +kernel
    intro s hs
    obtain ⟨hraw, hlast, hcolon⟩ := hraw s hs
    obtain ⟨htag, hshield⟩ := rawText_tokensAt_eq_iff.mp hraw
    exact ⟨htag, hshield, hlast, Emoji.replace_of_count_le_one hcolon⟩
  have hsize : shownSize 3 = .ok "3 B" := rfl
  -- both lines fit into 80 columns
  have hwide : screen.IsWideFor sources := by
    have hwidths : ∀ s ∈ sources, s.content.utf8ByteSize = 3 ∧
        Text.textWidth (shownTokens (tokens (lineMarkup (FileStats.of s s.rules) "3 B"))) ≤ 80 := by
      decide +kernel
    refine ⟨by decide, fun s hs size hsize' marked hmarked => ?_⟩
    obtain ⟨hbytes, hwidth⟩ := hwidths s hs
    rw [hbytes] at hsize'
    obtain rfl : "3 B" = size := Except.ok.inj (hsize.symm.trans hsize')
    rw [hmarkup.text_of_checkedMarkup hmarked]
    exact hwidth
  obtain ⟨report, haudit, hshows, -⟩ := summary_shows_names screen hmarkup sources 60
    false (by simp [sources]) (lt_two_pow_of_lt_eight (by rw [hselectors]; decide) (by decide))
    (lt_two_pow_of_lt_eight (by rw [hsizes]; decide) (by decide)).le hcontrol
  obtain ⟨text, htext, hlines⟩ := (hshows hplain).2 hwide
  refine ⟨screen, rfl, report, text, haudit, htext, ?_, ?_⟩
  · obtain ⟨size, hsize', hline⟩ := hlines 0 _ rfl
    obtain rfl : "3 B" = size := Except.ok.inj (hsize.symm.trans hsize')
    rw [hline]
    decide +kernel
  · obtain ⟨size, hsize', hline⟩ := hlines 1 _ rfl
    obtain rfl : "3 B" = size := Except.ok.inj (hsize.symm.trans hsize')
    rw [hline]
    decide +kernel

/-- The line about a sheet whose name starts with a tag, on a console into which it fits. -/
private theorem fileLine_opening {screen : Screen} (hmarkup : screen.ReadsMarkup)
    (hwidth : 34 ≤ screen.width) {f : FileStats} (hf : f = ⟨"[dim].css", 3, 1, 1⟩) :
    screen.fileLine f = .ok ("  .css (3 B, 1 rules, 1 selectors)".toList ++ ['\n']) := by
  have hsize : shownSize f.size = .ok "3 B" := by
    rw [hf]
    rfl
  let line := "  [cyan][dim].css[/cyan] [dim](3 B, 1 rules, 1 selectors)[/dim]".toList
  have hline : lineMarkup f "3 B" = line := by
    rw [hf]
    decide +kernel
  -- the name makes a tag of its own between those of the line
  have htags : tagsOf (tokens line) = ["cyan".toList, "dim".toList, '/' :: "cyan".toList,
      "dim".toList, '/' :: "dim".toList] := by
    decide +kernel
  have hshown : shownTokens (tokens line) = "  .css (3 B, 1 rules, 1 selectors)".toList := by
    decide +kernel
  have hcontrol : "  .css (3 B, 1 rules, 1 selectors)".toList.all (!isControl ·) = true := by
    decide +kernel
  have hcolumns : Text.textWidth "  .css (3 B, 1 rules, 1 selectors)".toList = 34 := by
    decide +kernel
  -- the tag of the name stays open
  have hpairs : PairUp [] (tagsOf (tokens line)) ["dim".toList] := by
    rw [htags]
    refine .opening isStyle_cyan (.opening isStyle_dim (.closing (by simp) ?_))
    exact .opening isStyle_dim (.closing (by simp) (.stop _))
  obtain ⟨text, htext⟩ := hmarkup.exists_displayMarkup_of_tokens hpairs
  obtain ⟨marked, -, hmarked, rfl⟩ := hmarkup.eq_display_of_displayMarkup htext
  rw [fileLine_eq hsize, hline, htext, hmarked, hshown,
    display_of_not_isControl (by simpa using hcontrol) (hcolumns.trans_le hwidth)]

/-- A sheet whose name starts with a tag is shown without it, and a name that starts with a closing
    tag is a fault. -/
theorem summary_hides_name :
    (∃ report text, audit [⟨"[dim].css", "a\x7b\x7d"⟩] 60 = .ok report ∧
      summary report false = .ok text ∧
      (text.splitOn '\n')[1]? = some "  .css (3 B, 1 rules, 1 selectors)".toList) ∧
    ∃ report, audit [⟨"[/dim].css", "a\x7b\x7d"⟩] 60 = .ok report ∧
      summary report false = .error (.markup (.unmatched "[/dim]" 8)) := by
  -- both sheets have a report; it is shown if the line about the sheet is
  have hsheet : ∀ name ∈ ["[dim].css", "[/dim].css"], ∃ report,
      audit [⟨name, "a\x7b\x7d"⟩] 60 = .ok report ∧ report.files = [⟨name, 3, 1, 1⟩] ∧
      ((∀ f ∈ report.files, ∃ text, Screen.wide.fileLine f = .ok text) →
        ∃ text, summary report false = .ok text) := by
    intro name hname
    obtain ⟨hselectors, hsizes, hstats⟩ :
        selectorCount ([⟨name, "a\x7b\x7d"⟩].flatMap Source.rules) = 1 ∧
        ([⟨name, "a\x7b\x7d"⟩].map fun s : Source => s.content.utf8ByteSize).sum = 3 ∧
        [⟨name, "a\x7b\x7d"⟩].map (fun s : Source => FileStats.of s s.rules) =
          [⟨name, 3, 1, 1⟩] := by
      rcases List.mem_pair.mp hname with rfl | rfl <;> decide +kernel
    obtain ⟨report, haudit, hfiles, hsummary⟩ := exists_report (List.cons_ne_nil _ _)
      (lt_two_pow_of_lt_eight (by rw [hselectors]; decide) (by decide))
      (lt_two_pow_of_lt_eight (by rw [hsizes]; decide) (by decide)).le 60 false
    exact ⟨report, haudit, hfiles.trans hstats, hsummary .wide⟩
  constructor
  -- a tag that opens a style vanishes, and the line is shown without it
  · obtain ⟨report, haudit, hfiles, hsummary⟩ := hsheet "[dim].css" (by simp)
    have hlines : ∀ f ∈ report.files, Screen.wide.fileLine f =
        .ok ("  .css (3 B, 1 rules, 1 selectors)".toList ++ ['\n']) := by
      rw [hfiles]
      simpa using fileLine_opening readsMarkup_wide (by decide) rfl
    obtain ⟨text, htext⟩ := hsummary fun f hf => ⟨_, hlines f hf⟩
    refine ⟨report, text, haudit, htext, ?_⟩
    rw [getElem?_lines_of_summary (by decide) htext (fun f hf => ⟨hlines f hf, by decide⟩)
      (by simp [hfiles]), hfiles]
    rfl
  -- a tag that closes what is not open ends the summary
  · obtain ⟨report, haudit, hfiles, -⟩ := hsheet "[/dim].css" (by simp)
    refine ⟨report, haudit, ?_⟩
    simp [summary, Screen.summary, Screen.summaryPieces, hfiles,
      Command.fileLine_closing readsMarkup_wide rfl]

end SheetAudit.Console

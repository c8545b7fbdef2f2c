import SheetAudit.Command.Run
import SheetAudit.Proofs.Numerals
import SheetAudit.Proofs.Scoring
import SheetAudit.Proofs.Rendering

/-!
# What a scan writes can be shown

The texts of a scan in which names from outside are put: the complaint about a path, the panel with
the path and the line about a sheet.  Each of them can be shown if no tag starts in the name, and so
can the rest of a report, in which only numbers vary.

## Key results

- `isStyle_cyan` / `isStyle_boldRed`: the styles of the texts, with colours from a long table
- `exists_fileLine`: the line about a sheet
- `exists_scoreTable`: the table of scores
- `error_write_summaryPieces`: a report
- `exists_complaint` / `error_write_heading`: the texts with a path
-/

namespace SheetAudit.Console

open Markup
open Number

/-! ## Styles -/

namespace Style

/-- The colours that are named first. -/
def firstColours : String :=
  "default black red green yellow blue magenta cyan white bright_black bright_red bright_green"

/-- What a text starts with, it still does with more behind it. -/
private theorem toList_prefix_append {cs : List Char} {u : String} (h : cs <+: u.toList)
    (v : String) :
    cs <+: (u ++ v).toList := by
  rw [String.toList_append]
  exact h.trans (List.prefix_append _ _)

/-- The colours that are named first are colours. -/
private theorem contains_colourNames {name : List Char}
    (h : name ∈ firstColours.toList.splitOn ' ') :
    colourNames.contains (String.ofList name) = true := by
  -- the table is too long to be evaluated, so only its first line is looked at
  obtain ⟨text, htext, rest, hrest⟩ : ∃ text : String,
      colourNames = (text.toList.splitOn ' ').map String.ofList ∧
        firstColours.toList ++ [' '] <+: text.toList := by
    refine ⟨_, rfl, ?_⟩
    have hblank : firstColours.toList ++ [' '] = (firstColours ++ " ").toList := by simp
    rw [hblank]
    repeat with_reducible apply toList_prefix_append
    refine ⟨[], (List.append_nil _).trans (congrArg String.toList ?_)⟩
    decide +kernel
  rw [List.append_assoc, List.singleton_append] at hrest
  rw [List.contains_iff_mem, htext, ← hrest, List.splitOn_append_cons_self, List.map_append]
  exact List.mem_append_left _ (List.mem_map_of_mem h)

/-- Reads a word that is the name of a colour and nothing else. -/
private theorem describe?_colour {word : List Char}
    (hcolour : colourNames.contains (String.ofList word) = true)
    (hsmall : Text.lowerCase word = word) (hon : word ≠ "on".toList) (hnot : word ≠ "not".toList)
    (hlink : word ≠ "link".toList) (hattribute : attribute? (String.ofList word) = none)
    (d : Description) (rest : List (List Char)) :
    describe? d (word :: rest) = describe? { d with colour := some word } rest := by
  have hisColour : isColour word = .ok true := by
    unfold isColour
    exact if_pos hcolour
  rw [describe?.eq_def]
  dsimp only
  rw [hsmall, if_neg hon, if_neg hnot, if_neg hlink, hattribute]
  dsimp only
  rw [hisColour]
  rfl

end Style

/-- The name of the style for lesser text is a tag. -/
theorem isTag_dim : IsTag "dim".toList :=
  ⟨'d', "im".toList, rfl, rfl, by simp⟩

/-- The end of lesser text is a tag. -/
theorem isTag_closing_dim : IsTag ('/' :: "dim".toList) :=
  ⟨'/', "dim".toList, rfl, rfl, by simp⟩

/-- Lesser text is a style. -/
theorem isStyle_dim : IsStyle "dim".toList :=
  ⟨by decide, by decide, by decide, by decide +kernel, by decide +kernel⟩

/-- A name that can be described in words is a style, if the words are those of the name. -/
private theorem isStyle_of_describe? {name : List Char} {d : Style.Description}
    (hargument : '=' ∉ name)
    (hhead : name.head? ≠ some '/' ∧ name.head? ≠ some '@') (hblank : Text.trim name ≠ [])
    (hdescribe : Style.describe? {} (Text.words name) = .ok (some d))
    (hwords : d.words ≠ []) (hname : [' '].intercalate d.words = name) : IsStyle name := by
  refine ⟨hargument, hhead, hblank, ?_, ?_⟩
  · simp only [Style.normalize, hdescribe, bind, Except.bind, List.isEmpty_eq_false_iff.mpr hwords,
      Bool.false_eq_true, if_false, hname]
    rfl
  · simp only [Style.check, hdescribe]
    rfl

/-- The colour of names is a style. -/
theorem isStyle_cyan : IsStyle "cyan".toList := by
  have hwords : Text.words "cyan".toList = ["cyan".toList] := by decide +kernel
  refine isStyle_of_describe? (by decide) (by decide) (by decide)
    (d := { colour := some "cyan".toList }) ?_ (by decide +kernel) (by decide +kernel)
  rw [hwords, Style.describe?_colour (Style.contains_colourNames (by decide +kernel))
    (by decide +kernel) (by decide) (by decide) (by decide) (by decide +kernel)]
  rfl

/-- The bold red of complaints is a style. -/
theorem isStyle_boldRed : IsStyle "bold red".toList := by
  have hwords : Text.words "bold red".toList = ["bold".toList, "red".toList] := by decide +kernel
  -- the first word is an attribute, and the second a colour
  have hbold : ∀ rest, Style.describe? {} ("bold".toList :: rest) =
      Style.describe? { attributes := [("bold", true)] } rest := by
    intro rest
    have hsmall : Text.lowerCase "bold".toList = "bold".toList := by decide +kernel
    have hattribute : Style.attribute? (String.ofList "bold".toList) = some "bold" := by
      decide +kernel
    rw [Style.describe?.eq_def]
    dsimp only
    rw [hsmall, if_neg (by decide), if_neg (by decide), if_neg (by decide), hattribute]
  refine isStyle_of_describe? (by decide) (by decide) (by decide)
    (d := { attributes := [("bold", true)], colour := some "red".toList }) ?_ (by decide +kernel)
    (by decide +kernel)
  rw [hwords, hbold, Style.describe?_colour (Style.contains_colourNames (by decide +kernel))
    (by decide +kernel) (by decide) (by decide) (by decide) (by decide +kernel)]
  rfl

/-! ## Texts with tags of their own -/

/-- No tag starts where a text without brackets goes on with one in which none starts. -/
theorem freeOfTags_append {u v : List Char} (hu : '[' ∉ u) (hv : FreeOfTags v) :
    FreeOfTags (u ++ v) := by
  intro c hc hinfix
  rcases Text.pair_infix_append_iff.mp hinfix with h | h | ⟨h, -⟩
  · exact hu (h.subset List.mem_cons_self)
  · exact hv c hc h
  · exact hu (List.mem_of_getLast? h)

/-- A text in tags of a style, without backslashes, and what follows it. -/
private theorem hasTags_styled {style text rest : List Char} {tags : List (List Char)}
    (hstyle : IsTag style) (hclosing : IsTag ('/' :: style)) (htext : '[' ∉ text)
    (hlast : text.getLast? ≠ some '\\') (hrest : HasTags rest tags) :
    HasTags ('[' :: style ++ ']' :: (text ++ ('[' :: '/' :: style ++ ']' :: rest)))
      (style :: ('/' :: style) :: tags) :=
  HasTags.append_tag (u := []) (freeOfTags_of_not_mem (by simp)) (by simp) hstyle
    (hrest.append_tag (freeOfTags_of_not_mem htext) hlast hclosing)

/-- A label in tags of a style, and a subject in which no tag starts. -/
private theorem hasTags_label {style label subject : List Char} (hstyle : IsTag style)
    (hclosing : IsTag ('/' :: style)) (hlabel : '[' ∉ label) (hlast : label.getLast? ≠ some '\\')
    (hsubject : FreeOfTags subject) :
    HasTags ('[' :: style ++ ']' :: (label ++ ('[' :: '/' :: style ++ ']' :: ' ' :: subject)))
      [style, '/' :: style] :=
  hasTags_styled hstyle hclosing hlabel hlast
    (hasTags_of_freeOfTags (freeOfTags_append (u := [' ']) (by simp) hsubject))

/-- A style that is opened and closed. -/
theorem pairUp_styled {style : List Char} (h : IsStyle style) :
    PairUp [] [style, '/' :: style] [] := by
  refine .opening h (.closing (by simp) ?_)
  rw [List.erase_cons_head]
  exact .stop []

/-! ## Sizes and lines about sheets -/

/-- There is no bracket in the digits of an integer. -/
private theorem bracket_notMem_toString_int (n : Int) : '[' ∉ (toString n).toList :=
  Text.notMem_toString_int (by decide) (by decide) n

/-- There is no bracket in the text of an amount. -/
private theorem bracket_notMem_text (a : Amount) : '[' ∉ a.text.toList := by
  have hwhole := bracket_notMem_toString_int (a.tenths / 10)
  have htenth := bracket_notMem_toString_int (a.tenths % 10)
  rcases a with ⟨tenths, unit⟩
  cases unit <;> simp_all [Amount.text, SizeUnit.symbol, toString]

/-- A size that is not above `2 ^ 1022` has an amount. -/
private theorem exists_amount_ofSize {size : Int} {k : Nat} (h : |size| ≤ 2 ^ k) (hk : k ≤ 1022) :
    ∃ a, Amount.ofSize size = .ok a := by
  have hbound : |(size : ℚ)| ≤ 2 ^ 1022 := by
    have hcast : |(size : ℚ)| ≤ 2 ^ k := by exact_mod_cast h
    exact hcast.trans (pow_le_pow_right₀ one_le_two hk)
  unfold Amount.ofSize
  -- whatever the unit is, its factor makes the size no larger
  generalize SizeUnit.ofSize size = unit
  have hfactor : 1 ≤ unit.factor := by cases unit <;> decide
  obtain ⟨v, hv⟩ := Binary64.exists_quotient_eq_finite hfactor
    (hbound.trans (le_mul_of_one_le_right (by positivity) (by exact_mod_cast hfactor)))
  cases unit with
  | bytes => exact ⟨_, rfl⟩
  | kilobytes =>
    refine ⟨⟨roundEven (v * 10), .kilobytes⟩, ?_⟩
    simp only [hv, Binary64.value, bind, Except.bind, pure, Except.pure]
  | megabytes =>
    refine ⟨⟨roundEven (v * 10), .megabytes⟩, ?_⟩
    simp only [hv, Binary64.value, bind, Except.bind, pure, Except.pure]

/-- The text of a size has no brackets. -/
theorem exists_shownSize {size : Int} {k : Nat} (h : |size| ≤ 2 ^ k) (hk : k ≤ 1022) :
    ∃ text, shownSize size = .ok text ∧ '[' ∉ text.toList := by
  obtain ⟨a, ha⟩ := exists_amount_ofSize h hk
  refine ⟨a.text, ?_, bracket_notMem_text a⟩
  unfold shownSize sizeText
  rw [ha]
  rfl

/-- The markup of the line about a sheet, with the text of its size. -/
def lineMarkup (f : FileStats) (size : String) : List Char :=
  s!"  [cyan]{f.name}[/cyan] [dim]({size}, {f.rules} rules, {f.selectors} selectors)[/dim]".toList

/-- The line about a sheet is its markup, as a console shows it. -/
theorem fileLine_eq {f : FileStats} {size : String} (h : shownSize f.size = .ok size)
    (screen : Screen) : screen.fileLine f = screen.displayMarkup (lineMarkup f size) := by
  simp only [Screen.fileLine, h, bind, Except.bind, lineMarkup]

/-- The line about a sheet can be shown if no tag starts in the name of the sheet. -/
theorem exists_fileLine {screen : Screen} (hmarkup : screen.ReadsMarkup) {f : FileStats} {k : Nat}
    (hname : FreeOfTags f.name.toList) (hsize : |f.size| ≤ 2 ^ k) (hk : k ≤ 1022) :
    ∃ text, screen.fileLine f = .ok text := by
  obtain ⟨size, hshown, hsizeText⟩ := exists_shownSize hsize hk
  let counts := s!"({size}, {f.rules} rules, {f.selectors} selectors".toList ++ [')']
  have hcounts : '[' ∉ counts := by
    have hrules := bracket_notMem_toString_int f.rules
    have hselectors := bracket_notMem_toString_int f.selectors
    simp_all [counts, toString]
  -- the line is cut where its own tags stand
  have htext : lineMarkup f size =
      "  ".toList ++ ('[' :: "cyan".toList ++ ']' :: (f.name.toList ++
        ('[' :: '/' :: "cyan".toList ++ ']' :: ([' '] ++ ('[' :: "dim".toList ++ ']' ::
          (counts ++ ('[' :: '/' :: "dim".toList ++ [']']))))))) := by
    simp [lineMarkup, counts, toString]
  -- behind the name stand a blank and the counts, which hold no bracket
  have hrest : HasTags ([' '] ++ ('[' :: "dim".toList ++ ']' ::
      (counts ++ ('[' :: '/' :: "dim".toList ++ [']'])))) ["dim".toList, '/' :: "dim".toList] := by
    refine HasTags.append (freeOfTags_of_not_mem (by decide)) (by decide) (by simp [isTagStart]) ?_
    exact hasTags_styled isTag_dim isTag_closing_dim hcounts (by simp [counts]) hasTags_nil
  have hcyan : IsTag "cyan".toList := ⟨'c', "yan".toList, rfl, rfl, by simp⟩
  have hclosing : IsTag ('/' :: "cyan".toList) := ⟨'/', "cyan".toList, rfl, rfl, by simp⟩
  rw [fileLine_eq hshown, htext]
  -- a backslash at the end of the name takes the closing tag away
  rcases hrest.append_tag_or hname hclosing with h | h
  · exact hmarkup.exists_displayMarkup
      (h.append_tag (freeOfTags_of_not_mem (by decide)) (by decide) hcyan)
      (.opening isStyle_cyan (.closing (by simp) (pairUp_styled isStyle_dim)))
  · exact hmarkup.exists_displayMarkup
      (h.append_tag (freeOfTags_of_not_mem (by decide)) (by decide) hcyan)
      (.opening isStyle_cyan (.opening isStyle_dim (.closing (by simp) (.stop _))))

/-! ## The table of scores -/

section ScoreTable

open Score Binary64

/-- No score is larger than 100. -/
theorem abs_le_of_scores {rules : List Stylesheet.Rule} {issues : List Issue} {bytes : Int}
    {s : Scores} (h : scores rules issues bytes = .ok s) :
    ∀ row ∈ scoreRows s, |(row.2 : ℚ)| ≤ 100 := by
  obtain ⟨hoverall, hspecificity, hduplicates, himportant, hfileSize⟩ := inRange_of_scores h
  have hone : ∀ {n : Int}, 0 ≤ n → n ≤ 100 → |(n : ℚ)| ≤ 100 := by
    intro n hlow hhigh
    rw [abs_of_nonneg (by exact_mod_cast hlow)]
    exact_mod_cast hhigh
  simp only [scoreRows, List.forall_mem_cons, List.not_mem_nil, false_implies, implies_true,
    and_true]
  exact ⟨hone (by omega) hoverall.2, hone hspecificity.1 hspecificity.2,
    hone hduplicates.1 hduplicates.2, hone himportant.1 himportant.2,
    hone hfileSize.1 hfileSize.2⟩

/-- A score of at most 100 has a bar. -/
private theorem exists_scoreBar {score : Int} (h : |(score : ℚ)| ≤ 100) :
    ∃ bar, scoreBar score barWidth = .ok bar := by
  -- both factors are small, so that their product stays finite
  have hshare : |mkRat score 100| ≤ 1 := by
    rw [Rat.mkRat_eq_div, abs_div, div_le_iff₀ (by norm_num)]
    norm_num
    exact h
  obtain ⟨v, hv, hv'⟩ := within_ofRat hshare (by norm_num)
  have hwidth : |((barWidth : Int) : ℚ)| ≤ 20 := by norm_num [barWidth]
  obtain ⟨w, hw, hw'⟩ := within_ofRat hwidth (by norm_num)
  obtain ⟨x, hx, -⟩ := Within.mul ⟨v, hv, hv'⟩ ⟨w, hw, hw'⟩ (by norm_num)
  rw [hv, hw] at hx
  have hfilled : filledBlocks score barWidth = .ok (roundEven x) := by
    simp only [filledBlocks, quotient, ofInt, hv, hw, bind, Except.bind, hx]
    rfl
  exact ⟨_, by rw [scoreBar, hfilled]; rfl⟩

/-- Steps that all succeed, and one behind them, succeed together. -/
private theorem exists_mapM_bind_eq_ok {ε α β γ : Type} {f : α → Except ε β}
    {g : List β → Except ε γ}
    {xs : List α} (hf : ∀ x ∈ xs, ∃ y, f x = .ok y) (hg : ∀ ys, ∃ z, g ys = .ok z) :
    ∃ z, (xs.mapM f >>= g) = .ok z := by
  obtain ⟨ys, hys⟩ : ∃ ys, xs.mapM f = .ok ys := by
    -- the list alone is what the induction is on
    clear hg
    induction xs with
    | nil => exact ⟨[], rfl⟩
    | cons x xs ih =>
      obtain ⟨y, hy⟩ := hf x List.mem_cons_self
      obtain ⟨ys, hys⟩ := ih fun x' hx' => hf x' (List.mem_cons_of_mem x hx')
      exact ⟨y :: ys, by rw [List.mapM_cons, hy, hys]; rfl⟩
  obtain ⟨z, hz⟩ := hg ys
  exact ⟨z, bind_eq_ok_iff.mpr ⟨ys, hys, hz⟩⟩

/-- The table of scores can be shown. -/
theorem exists_scoreTable {s : Scores} (h : ∀ row ∈ scoreRows s, |(row.2 : ℚ)| ≤ 100)
    (screen : Screen) : ∃ text, screen.scoreTable s = .ok text := by
  unfold Screen.scoreTable
  refine exists_mapM_bind_eq_ok (fun row hrow => ?_) fun rows => ⟨_, rfl⟩
  obtain ⟨bar, hbar⟩ := exists_scoreBar (h row hrow)
  exact ⟨(row.1.toList, Styled.plain bar), by simp only [hbar]⟩

end ScoreTable

/-! ## Reports -/

/-- Pieces that can all be shown are written without an error. -/
theorem error_write {pieces : List Piece} (h : ∀ p ∈ pieces, ∃ text, p = .ok text) :
    (write pieces).error = none := by
  -- by induction on the pieces, none of which is an error
  induction pieces with
  | nil => simp
  | cons p pieces ih =>
    obtain ⟨text, rfl⟩ := h p List.mem_cons_self
    rw [write_ok]
    exact ih fun q hq => h q (List.mem_cons_of_mem _ hq)

/-- The reported sizes of sheets add up to the total. -/
theorem size_totals_ofFiles (sources : List Stylesheet.Source) :
    (Totals.ofFiles (sources.map fun s => FileStats.of s s.rules)).size =
      ((sources.map (·.content.utf8ByteSize)).sum : Nat) := by
  induction sources with
  | nil => rfl
  | cons s sources ih =>
    simp only [Totals.ofFiles, List.map_cons, List.foldr_cons, List.sum_cons] at ih ⊢
    rw [ih, Nat.cast_add]
    rfl

/-- A count that is not too large is a number that is not. -/
theorem abs_natCast_le {n k : Nat} (h : n ≤ 2 ^ k) : |(n : Int)| ≤ 2 ^ k := by
  rw [Nat.abs_cast]
  exact_mod_cast h

/-- A report can be shown if the lines about its sheets can. -/
theorem error_write_summaryPieces {screen : Screen} {r : Report} {k : Nat}
    (hlines : ∀ f ∈ r.files, ∃ text, screen.fileLine f = .ok text)
    (htotal : |r.totals.size| ≤ 2 ^ k) (hk : k ≤ 1022)
    (hscores : ∀ row ∈ scoreRows r.scores, |(row.2 : ℚ)| ≤ 100) (verbose : Bool) :
    (write (screen.summaryPieces r verbose)).error = none := by
  have htotals : ∃ text, screen.totalsLines r.totals = .ok text := by
    obtain ⟨size, hsize, -⟩ := exists_shownSize htotal hk
    exact ⟨_, bind_eq_ok_iff.mpr ⟨size, hsize, rfl⟩⟩
  refine error_write ?_
  simp only [Screen.summaryPieces, List.cons_append, List.forall_mem_cons, List.forall_mem_append,
    List.not_mem_nil, false_implies, implies_true, and_true, List.forall_mem_map]
  exact ⟨⟨_, rfl⟩, hlines, htotals, exists_scoreTable hscores screen, ⟨_, rfl⟩, ⟨_, rfl⟩⟩

end SheetAudit.Console

namespace SheetAudit.Command

open Console Console.Markup

/-- A complaint can be shown if no tag starts in it. -/
theorem exists_complaint {screen : Screen} (hmarkup : screen.ReadsMarkup) {message : String}
    (h : FreeOfTags message.toList) : ∃ text, complaint screen message = .ok text := by
  have htext : s!"[bold red]Error:[/bold red] {message}".toList =
      '[' :: "bold red".toList ++ ']' :: ("Error:".toList ++
        ('[' :: '/' :: "bold red".toList ++ ']' :: ' ' :: message.toList)) := by
    rw [String.toList_append]
    rfl
  refine hmarkup.exists_displayMarkup ?_ (pairUp_styled isStyle_boldRed)
  rw [htext]
  exact hasTags_label ⟨'b', "old red".toList, rfl, rfl, by simp⟩
    ⟨'/', "bold red".toList, rfl, rfl, by simp⟩ (by decide) (by decide) h

/-- The panel over a scan can be shown if no tag starts in its subject. -/
theorem error_write_heading {screen : Screen} (hmarkup : screen.ReadsMarkup)
    {label subject : String} (hlabel : '[' ∉ label.toList) (h : FreeOfTags subject.toList) :
    (write (heading screen label subject)).error = none := by
  -- the label is in tags of its own, and the subject stands behind them
  have htext : s!"[dim]{label}:[/dim] {subject}".toList =
      '[' :: "dim".toList ++ ']' :: ((label.toList ++ [':']) ++
        ('[' :: '/' :: "dim".toList ++ ']' :: ' ' :: subject.toList)) := by
    simp [toString]
  have htags : HasTags s!"[dim]{label}:[/dim] {subject}".toList
      ["dim".toList, '/' :: "dim".toList] := by
    rw [htext]
    exact hasTags_label isTag_dim isTag_closing_dim (by simp [hlabel]) (by simp) h
  obtain ⟨marked, hmarked⟩ := hmarkup.exists_checkedMarkup htags (pairUp_styled isStyle_dim)
  simp only [heading, Screen.panel, hmarked]
  rfl

end SheetAudit.Command

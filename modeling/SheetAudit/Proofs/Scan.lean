import SheetAudit.Proofs.Layout
import SheetAudit.Proofs.Trim

/-!
# The scanner follows the layout

A scan that stands between rules takes one item of the layout after the other: the steps it makes
for an item lead to a scan between rules with the item's text behind it and the item's rule found.
What other fields hold by then has no influence on what is found, so that `run_layout` is an
induction over the items.

## Key results

- `exists_after_item`: the steps made for one item
- `run_layout`: a scan finds the rules of any layout of its text, maximal or not
- `tail_eq_nothing_of_endsClosed`: a scan that ends between rules with no brace open leaves no tail
- `rules_existsUnique_layout`: the rules of a stylesheet are those of its only layout
-/

namespace SheetAudit.Stylesheet

open SheetAudit.Text

/-! ## The rules of a layout -/

/-- The rule of a selector and a block whose selector starts on `line`; an empty selector has
    none. -/
def styleRules (source : String) (line : Nat) (sel body : List Char) : List Rule :=
  if sel = [] then []
  else [⟨String.ofList (trim sel), splitDeclarations body, line, source⟩]

/-- The rules of an item that starts on `line`. -/
def Item.rules (source : String) (line : Nat) : Item → List Rule
  | .blank _ => []
  | .atRule _ _ => []
  | .style sel body => styleRules source line sel body

/-- The rules of a tail that starts on `line`: a block that is not closed still has its rule. -/
def Tail.rules (source : String) (line : Nat) : Tail → List Rule
  | .block sel body => styleRules source line sel body
  | _ => []

/-- The rules of some items and a tail, the first of which starts on `line`. -/
def rulesFrom (source : String) (line : Nat) : List Item → Tail → List Rule
  | [], t => t.rules source line
  | i :: items, t =>
    i.rules source line ++ rulesFrom source (line + i.source.count '\n') items t

/-- The rules of a layout: each starts on the line given by the line breaks before it. -/
def Layout.rules (source : String) (l : Layout) : List Rule :=
  rulesFrom source 1 l.items l.tail

/-- The rules of items in a row are those of the first part and, further down, of the second. -/
theorem rulesFrom_append (source : String) (line : Nat) (is js : List Item) (t : Tail) :
    rulesFrom source line (is ++ js) t =
      rulesFrom source line is .nothing ++
        rulesFrom source (line + (is.flatMap Item.source).count '\n') js t := by
  -- by induction on the first part, which moves the line of the second down
  induction is generalizing line with
  | nil => rfl
  | cons i is ih =>
    rw [List.cons_append, rulesFrom, rulesFrom, ih, List.flatMap_cons, List.count_append,
      List.append_assoc, Nat.add_assoc]

namespace Scanner

variable {s s' : Scanner}

/-! ## Runs and traces, one step at a time -/

/-- A scan that is not done goes on behind its next step. -/
theorem run_of_phase_ne (h : s.phase ≠ .done) : s.run = s.step.run := by
  rw [run, if_neg h]

/-- A scan that is done stays as it is. -/
theorem run_of_phase_eq (h : s.phase = .done) : s.run = s := by
  rw [run, if_pos h]

/-- The states already seen only go in front of a trace. -/
theorem traceFrom_eq_append (past : List Scanner) (s : Scanner) :
    traceFrom past s = past.reverse ++ s.trace := by
  rw [trace]
  by_cases h : s.phase = .done
  · rw [traceFrom, if_pos h, traceFrom, if_pos h]
    simp
  -- both sides go on with the next step, from which the measure is smaller
  · have hlt := measure_step_lt h
    rw [traceFrom, if_neg h, traceFrom_eq_append, traceFrom, if_neg h, traceFrom_eq_append [s.step]]
    simp
termination_by s.measure

/-- The trace of a scan that is not done is its next state and the trace from there. -/
theorem trace_of_phase_ne (h : s.phase ≠ .done) : s.trace = s.step :: s.step.trace := by
  rw [trace, traceFrom, if_neg h, traceFrom_eq_append]
  rfl

/-- A scan that is done goes nowhere. -/
theorem trace_of_phase_eq (h : s.phase = .done) : s.trace = [] := by
  rw [trace, traceFrom, if_pos h]
  rfl

/-- The scan comes to its end between rules and with no brace open: every construct is closed. -/
def EndsClosed (s : Scanner) : Prop :=
  ∃ e ∈ s :: s.trace, e.phase = .betweenRules ∧ e.step.phase = .done ∧ e.step.depth = 0

instance (s : Scanner) : Decidable s.EndsClosed :=
  inferInstanceAs (Decidable (∃ e ∈ _, _))

/-- A scan that is done does not come to an end between rules. -/
private theorem not_endsClosed_of_phase_eq (h : s.phase = .done) : ¬ s.EndsClosed := by
  rintro ⟨e, he, hp, -⟩
  rw [trace_of_phase_eq h, List.mem_singleton] at he
  rw [he, h] at hp
  exact nomatch hp

/-- How a scan ends is decided by its next step, or else by the scan after that step. -/
theorem endsClosed_iff (hs : s.phase ≠ .done) :
    s.EndsClosed ↔
      (s.phase = .betweenRules ∧ s.step.phase = .done ∧ s.step.depth = 0) ∨ s.step.EndsClosed := by
  rw [EndsClosed, trace_of_phase_ne hs, List.exists_mem_cons_iff]
  rfl

/-! ## Scans with the same outcome -/

/-- Two scans that find the same and end alike. -/
structure SameOutcome (s s' : Scanner) : Prop where
  /-- They end in the same state. -/
  run_eq : s.run = s'.run
  /-- They reach it in the same way. -/
  endsClosed_iff : s.EndsClosed ↔ s'.EndsClosed

/-- Scans with the outcome of a third have the same outcome. -/
theorem SameOutcome.trans {s'' : Scanner} (h : SameOutcome s s') (h' : SameOutcome s' s'') :
    SameOutcome s s'' :=
  ⟨h.run_eq.trans h'.run_eq, h.endsClosed_iff.trans h'.endsClosed_iff⟩

/-- A step leads to the same outcome, unless it ends a scan between rules. -/
private theorem sameOutcome_step (hs : s.phase ≠ .done)
    (h : s.phase = .betweenRules → s.step.phase ≠ .done) : SameOutcome s s.step := by
  refine ⟨run_of_phase_ne hs, ?_⟩
  rw [endsClosed_iff hs]
  -- the step itself does not end the scan, so the end is among the later states
  exact or_iff_right fun hend => h hend.1 hend.2.1

/-- Scans between rules whose next states agree have the same outcome. -/
private theorem sameOutcome_of_step_eq (hs : s.phase = .betweenRules)
    (hs' : s'.phase = .betweenRules) (h : s.step = s'.step) : SameOutcome s s' := by
  have hne : s.phase ≠ .done := by rw [hs]; decide
  have hne' : s'.phase ≠ .done := by rw [hs']; decide
  -- how a scan ends depends only on the phase and on the next state
  constructor
  · rw [run_of_phase_ne hne, run_of_phase_ne hne', h]
  · rw [endsClosed_iff hne, endsClosed_iff hne', hs, hs', h]

/-! ## Between rules -/

/-- Passing over nothing leads nowhere. -/
private theorem advance_nil (s : Scanner) : s.advance [] s.rest = s := by
  simp [advance]

/-- Passing over two texts one after the other is passing over them at once. -/
private theorem advance_advance (s : Scanner) (u v r r' : List Char) :
    (s.advance u r).advance v r' = s.advance (u ++ v) r' := by
  simp [advance, Nat.add_assoc]

/-- Between rules the next step is the one for that phase. -/
theorem step_betweenRules (hs : s.phase = .betweenRules) : s.step = s.stepBetweenRules := by
  rw [step, hs]

/-- Blank text in front of a scan between rules is passed over by its next step. -/
private theorem step_blank (hs : s.phase = .betweenRules) {w rest : List Char}
    (hr : s.rest = w ++ rest)
    (hw : ∀ c ∈ w, isBlank c = true) : s.step = (s.advance w rest).step := by
  have hs' : (s.advance w rest).phase = .betweenRules := hs
  -- a step skips all blank text before it, whether or not `w` is skipped first
  have hadv : s.advance (s.rest.takeWhile isBlank) (s.rest.dropWhile isBlank) =
      (s.advance w rest).advance (rest.takeWhile isBlank) (rest.dropWhile isBlank) := by
    rw [advance_advance, hr, List.takeWhile_append_of_pos hw, List.dropWhile_append_of_pos hw]
  rw [step_betweenRules hs, step_betweenRules hs', stepBetweenRules, hadv]
  rfl

/-- Text that does not start with a blank character is where the scan looks next. -/
private theorem advance_takeWhile_of_head (h : ∀ c ∈ s.rest.head?, isBlank c = false) :
    s.advance (s.rest.takeWhile isBlank) (s.rest.dropWhile isBlank) = s := by
  have hdrop : s.rest.dropWhile isBlank = s.rest := trimLeft_of_head h
  have htake : s.rest.takeWhile isBlank = [] := by
    have := s.rest.takeWhile_append_dropWhile (p := isBlank)
    rw [hdrop] at this
    simpa using this
  rw [hdrop, htake, advance_nil]

/-- At the end of the text the scan is done. -/
private theorem step_end (hs : s.phase = .betweenRules) (hr : s.rest = []) :
    s.step = { s with phase := .done } := by
  have hadv := advance_takeWhile_of_head (s := s) (by simp [hr])
  rw [step_betweenRules hs, stepBetweenRules, hadv]
  simp only [hr]

/-- An at sign starts an at-rule. -/
private theorem step_at (hs : s.phase = .betweenRules) {cs : List Char} (hr : s.rest = '@' :: cs) :
    s.step = { s with phase := .atRulePrelude } := by
  have hadv := advance_takeWhile_of_head (s := s) (by simp [hr]; decide)
  rw [step_betweenRules hs, stepBetweenRules, hadv]
  simp only [hr]

/-- Any other character that is not blank starts a selector. -/
private theorem step_selector (hs : s.phase = .betweenRules) {c : Char} {cs : List Char}
    (hr : s.rest = c :: cs) (hc : isBlank c = false) (hat : c ≠ '@') :
    s.step = { s with phase := .selector, selector := [], selectorLine := s.line } := by
  have hadv := advance_takeWhile_of_head (s := s) (by simp [hr, hc])
  rw [step_betweenRules hs, stepBetweenRules, hadv]
  simp only [hr]
  split
  · next h => exact absurd h (List.cons_ne_nil c cs)
  · next h => exact absurd (List.cons.inj h).1 hat
  · rfl

/-! ## At-rules and style rules -/

/-- The first two steps of a construct: its start is seen, and its head is read. -/
private theorem sameOutcome_head (hs : s.phase = .betweenRules)
    (h₁ : s.step.phase = .atRulePrelude ∨ s.step.phase = .selector) :
    SameOutcome s s.step.step := by
  have s₁ : SameOutcome s s.step := by
    refine sameOutcome_step (by rw [hs]; decide) fun _ => ?_
    rcases h₁ with h | h <;> rw [h] <;> decide
  have s₂ : SameOutcome s.step s.step.step := by
    apply sameOutcome_step <;> rcases h₁ with h | h <;> rw [h] <;> simp
  exact s₁.trans s₂

/-- A construct whose head ends in an opening brace takes a third step, which reads its block. -/
private theorem sameOutcome_construct (hs : s.phase = .betweenRules)
    (h₁ : s.step.phase = .atRulePrelude ∨ s.step.phase = .selector)
    (h₂ : s.step.step.phase = .atRuleBlock ∨ s.step.step.phase = .declarations) :
    SameOutcome s s.step.step.step := by
  have s₃ : SameOutcome s.step.step s.step.step.step := by
    apply sameOutcome_step <;> rcases h₂ with h | h <;> rw [h] <;> simp
  exact (sameOutcome_head hs h₁).trans s₃

/-- The state behind an at-rule whose block has been read. -/
def afterAtRule (s : Scanner) (head : List Char) (b : BlockText) : Scanner :=
  { s.advance ('@' :: (head ++ '{' :: b.taken)) b.rest with depth := b.depth }

/-- The state behind a style rule whose block has been read. -/
def afterStyle (s : Scanner) (sel : List Char) (b : BlockText) : Scanner :=
  emit { s.advance (sel ++ '{' :: b.taken) b.rest with
    selector := sel, selectorLine := s.line, block := b.body, depth := b.depth }

/-- The steps made for an at-rule with an opening brace. -/
private theorem sameOutcome_afterAtRule (hs : s.phase = .betweenRules) {head inside : List Char}
    (hr : s.rest = '@' :: (head ++ '{' :: inside)) (hhead : '{' ∉ head) :
    SameOutcome s (s.afterAtRule head (readBlock inside)) := by
  have hcut : cut? ['{'] s.rest = some ('@' :: head, inside) := by
    rw [cut?_singleton_eq_some_iff, hr]
    exact ⟨rfl, by simp [hhead]⟩
  -- three steps: to the prelude, to the block behind the brace, and past the block
  have h₁ := step_at hs hr
  have h₂ : s.step.step =
      { s.advance ('@' :: head ++ ['{']) inside with phase := .atRuleBlock, depth := 1 } := by
    rw [h₁, step, stepAtRulePrelude]
    simp only [hcut]
    rfl
  have h₃ : s.step.step.step = s.afterAtRule head (readBlock inside) := by
    rw [h₂, step, stepAtRuleBlock]
    simp [advance, afterAtRule, hs, Nat.add_assoc, Nat.add_comm 2]
  exact h₃ ▸ sameOutcome_construct hs (.inl (by rw [h₁])) (.inl (by rw [h₂]))

/-- The steps made for a selector with an opening brace and its block. -/
private theorem sameOutcome_afterStyle (hs : s.phase = .betweenRules) {sel inside : List Char}
    (hr : s.rest = sel ++ '{' :: inside) (hstart : StartsSelector sel) (hsel : IsSelector sel) :
    SameOutcome s (s.afterStyle sel (readBlock inside)) := by
  obtain ⟨c, cs, heq, hc, hat⟩ := hstart.append inside
  have h₁ := step_selector hs (hr.trans heq) hc hat
  have h₂ : s.step.step =
      { s.advance (sel ++ ['{']) inside with
        phase := .declarations, selector := sel, selectorLine := s.line, block := [],
        depth := 1 } := by
    rw [h₁, step, stepSelector]
    simp only [hr, readSelector_append hsel, if_true]
    rfl
  -- the selector and the block are advanced over one after the other, so their line breaks add up
  have h₃ : s.step.step.step = s.afterStyle sel (readBlock inside) := by
    rw [h₂, step, stepDeclarations, afterStyle]
    simp [advance, hs, Nat.add_assoc, Nat.add_comm 1]
  exact h₃ ▸ sameOutcome_construct hs (.inr (by rw [h₁])) (.inr (by rw [h₂]))

/-- Recording a rule keeps the name of the sheet. -/
@[simp] theorem source_emit (s : Scanner) : s.emit.source = s.source := by
  simp only [emit]; split <;> rfl

/-- Recording a rule keeps the line. -/
@[simp] theorem line_emit (s : Scanner) : s.emit.line = s.line := by
  simp only [emit]; split <;> rfl

/-- Recording a rule keeps the number of open braces. -/
@[simp] theorem depth_emit (s : Scanner) : s.emit.depth = s.depth := by
  simp only [emit]; split <;> rfl

/-- A selector that starts as one is blank only if it is empty. -/
private theorem found_emit (h : StartsSelector s.selector) :
    s.emit.found = (styleRules s.source s.selectorLine s.selector s.block).reverse ++ s.found := by
  -- `emit` looks at the trimmed selector, the layout at the selector as it stands
  cases hsel : s.selector with
  | nil => simp [emit, styleRules, hsel]
  | cons c cs =>
    have hc : isBlank c = false := (h c (by rw [hsel]; rfl)).1
    simp [emit, styleRules, hsel, trim_cons hc]

/-! ## Items -/

/-- `s'` stands between rules behind the text `taken`, in which `new` was found, and has the outcome
    that `s` has. -/
structure After (s : Scanner) (taken rest : List Char) (new : List Rule) (s' : Scanner) :
    Prop where
  /-- The two scans end alike. -/
  same : SameOutcome s s'
  /-- The second stands between rules. -/
  phase_eq : s'.phase = .betweenRules
  /-- It has `rest` before it. -/
  rest_eq : s'.rest = rest
  /-- It is a scan of the same sheet. -/
  source_eq : s'.source = s.source
  /-- It stands behind the line breaks of `taken`. -/
  line_eq : s'.line = s.line + taken.count '\n'
  /-- It has found `new`. -/
  found_eq : s'.found = new.reverse ++ s.found

/-- The steps made for an at-rule lead behind it, and nothing is found. -/
private theorem after_atRule (hs : s.phase = .betweenRules) {head inside : List Char}
    (hr : s.rest = '@' :: (head ++ '{' :: inside)) (hhead : '{' ∉ head) :
    After s ('@' :: (head ++ '{' :: (readBlock inside).taken)) (readBlock inside).rest []
      (s.afterAtRule head (readBlock inside)) where
  same := sameOutcome_afterAtRule hs hr hhead
  phase_eq := hs
  rest_eq := rfl
  source_eq := rfl
  line_eq := rfl
  found_eq := rfl

/-- The steps made for a style rule lead behind it, with its rule found. -/
private theorem after_style (hs : s.phase = .betweenRules) {sel inside : List Char}
    (hr : s.rest = sel ++ '{' :: inside) (hstart : StartsSelector sel) (hsel : IsSelector sel) :
    After s (sel ++ '{' :: (readBlock inside).taken) (readBlock inside).rest
      (styleRules s.source s.line sel (readBlock inside).body)
      (s.afterStyle sel (readBlock inside)) where
  same := sameOutcome_afterStyle hs hr hstart hsel
  phase_eq := by rw [afterStyle, phase_emit]; exact hs
  rest_eq := by rw [afterStyle, rest_emit]; rfl
  source_eq := by rw [afterStyle, source_emit]; rfl
  line_eq := by rw [afterStyle, line_emit]; rfl
  found_eq := by rw [afterStyle, found_emit hstart]; rfl

/-- The steps made for one item lead behind it, with its rule found. -/
theorem exists_after_item (hs : s.phase = .betweenRules) {i : Item} (hi : i.Valid)
    {rest : List Char} (hr : s.rest = i.source ++ rest) :
    ∃ s', After s i.source rest (i.rules s.source s.line) s' := by
  -- item by item: blank text, an at-rule, or a style rule
  cases i with
  | blank text =>
    -- no step is made for blank text alone: the next step skips it on its way
    have hstep := step_blank hs hr hi.2
    exact ⟨s.advance text rest, sameOutcome_of_step_eq hs hs hstep, hs, rfl, rfl, rfl, rfl⟩
  | atRule head body =>
    obtain ⟨hhead, hbody⟩ := hi
    have hr' : s.rest = '@' :: (head ++ '{' :: (body ++ '}' :: rest)) := by
      simpa [Item.source] using hr
    have hafter := after_atRule hs hr' hhead
    rw [readBlock_append hbody] at hafter
    exact ⟨_, hafter⟩
  | style sel body =>
    obtain ⟨hstart, hsel, hbody⟩ := hi
    have hr' : s.rest = sel ++ '{' :: (body ++ '}' :: rest) := by
      simpa [Item.source] using hr
    have hafter := after_style hs hr' hstart hsel
    rw [readBlock_append hbody] at hafter
    exact ⟨_, hafter⟩

/-! ## Tails -/

/-- At the end of the text a scan between rules stops with what it has. -/
theorem run_end (hs : s.phase = .betweenRules) (hr : s.rest = []) :
    s.run = { s with phase := .done } := by
  rw [run_of_phase_ne (by rw [hs]; decide), step_end hs hr, run_of_phase_eq rfl]

/-- A scan that ends closed at the end of the text has no brace open there. -/
theorem depth_eq_zero_of_endsClosed (hs : s.phase = .betweenRules) (hr : s.rest = [])
    (h : s.EndsClosed) : s.depth = 0 := by
  rw [endsClosed_iff (by rw [hs]; decide), step_end hs hr] at h
  -- the next step is the last one, and it keeps the depth
  rcases h with ⟨-, -, hd⟩ | h
  · exact hd
  · exact absurd h (not_endsClosed_of_phase_eq rfl)

/-- A construct that is not opened is dropped, and the scan does not end between rules. -/
theorem dropped (hs : s.phase = .betweenRules)
    (h₁ : s.step.phase = .atRulePrelude ∨ s.step.phase = .selector)
    (h₂ : s.step.step.phase = .done) : s.run = s.step.step ∧ ¬ s.EndsClosed := by
  have hsame := sameOutcome_head hs h₁
  rw [hsame.run_eq, run_of_phase_eq h₂, hsame.endsClosed_iff]
  exact ⟨rfl, not_endsClosed_of_phase_eq h₂⟩

/-- A block that is not closed is read to the end of the text, and its braces stay open. -/
theorem After.unclosed {taken : List Char} {new : List Rule} (h : After s taken [] new s')
    (hdepth : s'.depth ≠ 0) : s.run.found = new.reverse ++ s.found ∧ ¬ s.EndsClosed := by
  rw [h.same.run_eq, run_end h.phase_eq h.rest_eq, h.same.endsClosed_iff]
  exact ⟨h.found_eq, fun hc => hdepth (depth_eq_zero_of_endsClosed h.phase_eq h.rest_eq hc)⟩

/-- The rest of a scan in front of a tail: it finds the rule of the tail, and ends between rules
    with no brace open only if there is no tail. -/
theorem run_tail (hs : s.phase = .betweenRules) {t : Tail} (ht : t.Valid) (hr : s.rest = t.source) :
    s.run.found = (t.rules s.source s.line).reverse ++ s.found ∧ (s.EndsClosed → t = .nothing) := by
  -- tail by tail: what is not opened is dropped, and what is opened is read to the end
  cases t with
  | nothing =>
    rw [run_end hs hr]
    exact ⟨rfl, fun _ => rfl⟩
  | atHead head =>
    have h₁ := step_at hs hr
    have hcut : cut? ['{'] s.rest = none := by
      rw [hr, cut?_singleton_eq_none_iff]
      simpa [Tail.source, Tail.Valid] using ht
    -- the rest of the text is taken as the head of an at-rule that never opens
    have h₂ : s.step.step = { s.advance s.rest [] with phase := .done } := by
      rw [h₁, step, stepAtRulePrelude]
      simp only [hcut]
      rfl
    obtain ⟨hrun, hend⟩ := dropped hs (.inl (by rw [h₁])) (by rw [h₂])
    rw [hrun, h₂]
    exact ⟨rfl, fun h => absurd h hend⟩
  | atBlock head body =>
    have hafter := after_atRule hs hr ht.1
    rw [readBlock_of_staysOpen ht.2] at hafter
    obtain ⟨hfound, hend⟩ := hafter.unclosed (Nat.succ_ne_zero _)
    exact ⟨hfound, fun h => absurd h hend⟩
  | selector text =>
    obtain ⟨hne, hstart, hopen⟩ := ht
    obtain ⟨c, cs, rfl⟩ := List.exists_cons_of_ne_nil hne
    have h₁ := step_selector hs hr (hstart c rfl).1 (hstart c rfl).2
    have h₂ : s.step.step =
        { s.advance (c :: cs) [] with
          phase := .done, selector := c :: cs, selectorLine := s.line } := by
      rw [h₁, step, stepSelector]
      simp only [hr, Tail.source, readSelector_of_not_mem hopen]
      rfl
    obtain ⟨hrun, hend⟩ := dropped hs (.inr (by rw [h₁])) (by rw [h₂])
    rw [hrun, h₂]
    exact ⟨rfl, fun h => absurd h hend⟩
  | block sel body =>
    obtain ⟨hstart, hsel, hopen⟩ := ht
    have hafter := after_style hs hr hstart hsel
    rw [readBlock_of_staysOpen hopen] at hafter
    -- the rule is emitted at the end of the text, with the block that there is
    have hdepth : (s.afterStyle sel ⟨body, body.count '{' - body.count '}' + 1, []⟩).depth ≠ 0 := by
      rw [afterStyle, depth_emit]
      exact Nat.succ_ne_zero _
    obtain ⟨hfound, hend⟩ := hafter.unclosed hdepth
    exact ⟨hfound, fun h => absurd h hend⟩

/-! ## Layouts -/

/-- A scan finds the rules of the layout before it, and ends between rules with no brace open only
    if that layout has no tail.  Blank items need not be maximal. -/
theorem run_layout (hs : s.phase = .betweenRules) {items : List Item} {t : Tail}
    (hitems : ∀ i ∈ items, i.Valid) (ht : t.Valid)
    (hr : s.rest = items.flatMap Item.source ++ t.source) :
    s.run.found = (rulesFrom s.source s.line items t).reverse ++ s.found ∧
      (s.EndsClosed → t = .nothing) := by
  -- over the items, for every scan that stands before them: `After` gives the next such scan
  induction items generalizing s with
  | nil => exact run_tail hs ht hr
  | cons i items ih =>
    rw [List.flatMap_cons, List.append_assoc] at hr
    obtain ⟨s', hafter⟩ := exists_after_item hs (hitems i (by simp)) hr
    obtain ⟨hfound, hend⟩ := ih hafter.phase_eq (fun j hj => hitems j (by simp [hj])) hafter.rest_eq
    rw [hafter.same.run_eq, hafter.same.endsClosed_iff, hfound, hafter.source_eq, hafter.line_eq,
      hafter.found_eq, rulesFrom, List.reverse_append, List.append_assoc]
    exact ⟨rfl, hend⟩

end Scanner

/-! ## The rules of a stylesheet -/

/-- The rules of a stylesheet are those of any layout of its text without comments. -/
theorem rules_eq_of_layout {text source : String} {l : Layout} (hl : l.Valid)
    (hsrc : l.source = stripComments text.toList) : rules text source = l.rules source := by
  have := (Scanner.run_layout (s := .start text.toList source) rfl hl.1 hl.2 hsrc.symm).1
  rw [rules, this]
  simp [Scanner.start, Layout.rules]

/-- A scan that ends between rules with no brace open leaves no tail. -/
theorem tail_eq_nothing_of_endsClosed {text : List Char} {source : String} {l : Layout}
    (hl : l.Valid) (hsrc : l.source = stripComments text)
    (h : (Scanner.start text source).EndsClosed) : l.tail = .nothing :=
  (Scanner.run_layout (s := .start text source) rfl hl.1 hl.2 hsrc.symm).2 h

/-- The text of a stylesheet without its comments has exactly one layout, and the rules of the
    stylesheet are the rules of that layout. -/
theorem rules_existsUnique_layout (text source : String) :
    (∃! l : Layout, l.Describes (stripComments text.toList)) ∧
      ∀ l : Layout, l.Describes (stripComments text.toList) →
        rules text source = l.rules source := by
  refine ⟨?_, fun l hl => rules_eq_of_layout hl.valid hl.source_eq⟩
  obtain ⟨l, hl⟩ := exists_layout (stripComments text.toList)
  exact ⟨l, hl, fun l' hl' => hl'.unique hl⟩

end SheetAudit.Stylesheet

import SheetAudit.Proofs.Scan

/-!
# What one step of a scan does

A step is computed by readers for each kind of text.  Here it is described by what is read: `Move`
has one rule for each way out of a phase, and every fact about all steps is a case distinction over
these rules.  What holds of all states of a scan follows by induction over its trace.

## Key results

- `readBlock_isBlockOf` / `readSelector_cases`: what the readers give, for closed and open text
- `exists_move_step`: every step of a scan is a move
- `scan_induction`: induction over the steps that are left
- `trace_induction`: what holds at the start and is kept by every step holds along the trace
-/

namespace SheetAudit.Stylesheet

open SheetAudit.Text

/-! ## What the readers give -/

/-- `b` is what is read as a block at the start of `cs`. -/
structure BlockText.IsBlockOf (b : BlockText) (cs : List Char) : Prop where
  /-- It stands there. -/
  text_eq : cs = b.taken ++ b.rest
  /-- A block with open braces goes on to the end of the text. -/
  rest_eq : 0 < b.depth → b.rest = []
  /-- The block never closes more braces than it opens. -/
  staysOpen : StaysOpen 0 b.body
  /-- It opens those that it closes and those that are open at its end, less the one before it. -/
  count_eq : b.body.count '{' = b.body.count '}' + (b.depth - 1)

/-- What is read as a block is one: it stands there, and its braces are matched or stay open to the
end of the text. -/
theorem readBlock_isBlockOf (cs : List Char) : (readBlock cs).IsBlockOf cs := by
  -- the block is closed somewhere in the text, or at no place of it
  rcases block_cases cs with ⟨b, rest, hb, rfl⟩ | hopen
  · rw [readBlock_append hb]
    exact ⟨by simp [BlockText.taken], nofun, hb.1, hb.2⟩
  · have hle : cs.count '}' ≤ cs.count '{' := by
      simpa using hopen cs (List.prefix_refl cs)
    rw [readBlock_of_staysOpen hopen]
    exact ⟨by simp [BlockText.taken], fun _ => rfl, hopen, (Nat.add_sub_cancel' hle).symm⟩

/-- A selector is read to its opening brace or, if there is none, to the end of the text. -/
theorem readSelector_cases (cs : List Char) :
    (∃ sel rest, readSelector cs = ⟨sel, true, rest⟩ ∧ cs = sel ++ ['{'] ++ rest) ∨
      readSelector cs = ⟨cs, false, []⟩ := by
  rcases selector_cases cs with ⟨sel, rest, hsel, rfl⟩ | h
  · exact .inl ⟨sel, rest, readSelector_append hsel rest, by simp⟩
  · exact .inr (readSelector_of_not_mem h)

/-- Whether a phase reads a block. -/
def Phase.isBlock : Phase → Bool
  | .atRuleBlock | .declarations => true
  | _ => false

namespace Scanner

variable {s s' : Scanner} {cs taken : List Char}

/-! ## Moves -/

/-- The ways out of each phase: the text that is passed over, and the state behind it. -/
inductive Move (s : Scanner) : List Char → Scanner → Prop where
  /-- Only blank text is left. -/
  | finish (hs : s.phase = .betweenRules) :
    Move s s.rest { s.advance s.rest [] with phase := .done }
  /-- An at-rule starts behind blank text. -/
  | startAtRule {w rest : List Char} (hs : s.phase = .betweenRules) (hr : s.rest = w ++ rest) :
    Move s w { s.advance w rest with phase := .atRulePrelude }
  /-- A selector starts behind blank text. -/
  | startRule {w rest : List Char} (hs : s.phase = .betweenRules) (hr : s.rest = w ++ rest) :
    Move s w { s.advance w rest with
      phase := .selector, selector := [], selectorLine := (s.advance w rest).line }
  /-- The head of an at-rule ends with the text. -/
  | dropAtRule (hs : s.phase = .atRulePrelude) :
    Move s s.rest { s.advance s.rest [] with phase := .done }
  /-- The head of an at-rule ends in an opening brace. -/
  | openAtRule {head rest : List Char} (hs : s.phase = .atRulePrelude)
    (hr : s.rest = head ++ ['{'] ++ rest) :
    Move s (head ++ ['{'])
      { s.advance (head ++ ['{']) rest with phase := .atRuleBlock, depth := 1 }
  /-- A selector ends with the text. -/
  | dropRule (hs : s.phase = .selector) :
    Move s s.rest { s.advance s.rest [] with phase := .done, selector := s.rest }
  /-- A selector ends in an opening brace. -/
  | openRule {sel rest : List Char} (hs : s.phase = .selector)
    (hr : s.rest = sel ++ ['{'] ++ rest) :
    Move s (sel ++ ['{'])
      { s.advance (sel ++ ['{']) rest with
        phase := .declarations, selector := sel, block := [], depth := 1 }
  /-- The block of an at-rule is passed over. -/
  | passAtRule {b : BlockText} (hs : s.phase = .atRuleBlock) (hb : b.IsBlockOf s.rest) :
    Move s b.taken { s.advance b.taken b.rest with phase := .betweenRules, depth := b.depth }
  /-- A declaration block is read, and its rule recorded. -/
  | passRule {b : BlockText} (hs : s.phase = .declarations) (hb : b.IsBlockOf s.rest) :
    Move s b.taken (emit { s.advance b.taken b.rest with
      phase := .betweenRules, block := b.body, depth := b.depth })

/-- Every step of a scan is a move. -/
theorem exists_move_step (hs : s.phase ≠ .done) : ∃ taken, Move s taken s.step := by
  -- one case for each phase; the reader of the phase tells which of its ways out is taken
  cases hp : s.phase with
  | betweenRules =>
    have hr : s.rest = s.rest.takeWhile isBlank ++ s.rest.dropWhile isBlank :=
      List.takeWhile_append_dropWhile.symm
    rw [step_betweenRules hp]
    simp only [stepBetweenRules]
    split
    · next hnil =>
      have hnil : s.rest.dropWhile isBlank = [] := hnil
      rw [hnil, List.append_nil] at hr
      rw [hnil, ← hr]
      exact ⟨_, .finish hp⟩
    · exact ⟨_, .startAtRule hp hr⟩
    · exact ⟨_, .startRule hp hr⟩
  | atRulePrelude =>
    simp only [step, hp, stepAtRulePrelude]
    split
    · exact ⟨_, .dropAtRule hp⟩
    · next hcut => exact ⟨_, .openAtRule hp (eq_append_of_cut? hcut)⟩
  | selector =>
    simp only [step, hp, stepSelector]
    rcases readSelector_cases s.rest with ⟨sel, rest, hread, hr⟩ | hread
    · rw [hread]
      exact ⟨_, .openRule hp hr⟩
    · rw [hread]
      exact ⟨_, .dropRule hp⟩
  | atRuleBlock =>
    simp only [step, hp, stepAtRuleBlock]
    exact ⟨_, .passAtRule hp (readBlock_isBlockOf s.rest)⟩
  | declarations =>
    simp only [step, hp, stepDeclarations]
    exact ⟨_, .passRule hp (readBlock_isBlockOf s.rest)⟩
  | done => exact absurd hp hs

/-- Recording a rule does not move the scan. -/
@[simp] theorem pos_emit (s : Scanner) : s.emit.pos = s.pos := by
  simp only [emit]; split <;> rfl

/-- Recording a rule leaves the text of its block as it is. -/
@[simp] theorem block_emit (s : Scanner) : s.emit.block = s.block := by
  simp only [emit]; split <;> rfl

/-- At most one rule is recorded. -/
theorem found_emit_cases (s : Scanner) :
    s.emit.found = s.found ∨ ∃ r, s.emit.found = r :: s.found := by
  simp only [emit]
  split
  · exact .inl rfl
  · exact .inr ⟨_, rfl⟩

namespace Move

/-! ## What all moves have in common -/

/-- The text passed over is the text that comes next. -/
theorem rest_eq (h : Move s taken s') : s.rest = taken ++ s'.rest := by
  -- one case for each kind of step: what is taken is the front of what is left
  cases h with
  | finish hs => simp [advance]
  | startAtRule hs hr => exact hr
  | startRule hs hr => exact hr
  | dropAtRule hs => simp [advance]
  | openAtRule hs hr => exact hr
  | dropRule hs => simp [advance]
  | openRule hs hr => exact hr
  | passAtRule hs hb => exact hb.text_eq
  | passRule hs hb =>
    rw [rest_emit]
    exact hb.text_eq

/-- Its characters are counted. -/
theorem pos_eq (h : Move s taken s') : s'.pos = s.pos + taken.length := by
  cases h <;> simp [advance]

/-- Its line breaks are counted. -/
theorem line_eq (h : Move s taken s') : s'.line = s.line + taken.count '\n' := by
  cases h <;> simp [advance]

/-- A block is entered through its opening brace. -/
theorem opens (h : Move s taken s') (hs' : s'.phase.isBlock = true) :
    s'.depth = 1 ∧ taken.getLast? = some '{' := by
  cases h with
  | openAtRule hs hr => exact ⟨rfl, by simp⟩
  | openRule hs hr => exact ⟨rfl, by simp⟩
  | _ => simp [Phase.isBlock] at hs'

/-- A move that ends the scan has passed over all text. -/
private theorem rest_of_done (h : Move s taken s') (hs' : s'.phase = .done) : s'.rest = [] := by
  cases h with
  | finish hs => rfl
  | dropAtRule hs => rfl
  | dropRule hs => rfl
  | _ => simp at hs'

/-- A selector is read into an empty field. -/
private theorem selector_eq_nil (h : Move s taken s') (hs' : s'.phase = .selector) :
    s'.selector = [] := by
  cases h with
  | startRule hs hr => rfl
  | _ => simp at hs'

/-- A declaration block is read into an empty field. -/
private theorem block_eq_nil (h : Move s taken s') (hs' : s'.phase = .declarations) :
    s'.block = [] := by
  cases h with
  | openRule hs hr => rfl
  | _ => simp at hs'

/-- At most one rule is found. -/
theorem found_cases (h : Move s taken s') : s'.found = s.found ∨ ∃ r, s'.found = r :: s.found := by
  cases h with
  | passRule hs hb => exact found_emit_cases _
  | _ => exact .inl rfl

/-- A block that is left with open braces has been read to the end of the text. -/
theorem rest_of_unclosed (h : Move s taken s') (hs : s.phase.isBlock = true) (hd : 0 < s'.depth) :
    s'.rest = [] := by
  cases h with
  | passAtRule hp hb => exact hb.rest_eq hd
  | passRule hp hb =>
    rw [depth_emit] at hd
    rw [rest_emit]
    exact hb.rest_eq hd
  | _ => simp_all [Phase.isBlock]

/-- A declaration block never closes more braces than it opens, and opens those that it closes and
    those that are open at its end, less the one before it. -/
theorem block_of_declarations (h : Move s taken s') (hs : s.phase = .declarations) :
    StaysOpen 0 s'.block ∧ s'.block.count '{' = s'.block.count '}' + (s'.depth - 1) := by
  cases h with
  | passRule hp hb =>
    rw [block_emit, depth_emit]
    exact ⟨hb.staysOpen, hb.count_eq⟩
  | _ => simp_all

end Move

/-! ## States of a scan -/

/-- What holds of every state of a scan of the text `cs`. -/
structure Reached (cs : List Char) (s : Scanner) : Prop where
  /-- The scan stands in the text or at its end. -/
  pos_le : s.pos ≤ cs.length
  /-- It has before it what it has not read. -/
  rest_eq : s.rest = cs.drop s.pos
  /-- Its line is counted from one by the line breaks that it has read. -/
  line_eq : s.line = 1 + (cs.take s.pos).count '\n'
  /-- Before a block it stands behind an opening brace, the only one that is open. -/
  opened : s.phase.isBlock = true → s.depth = 1 ∧ 0 < s.pos ∧ cs[s.pos - 1]? = some '{'
  /-- A scan that is done stands at the end of the text. -/
  done_pos : s.phase = .done → s.pos = cs.length
  /-- Before a selector no selector text is left from before. -/
  selector_nil : s.phase = .selector → s.selector = []
  /-- Before declarations no block text is left from before. -/
  block_nil : s.phase = .declarations → s.block = []

/-- A scan starts at the first line, with all of its text before it. -/
theorem reached_start (text : List Char) (source : String) :
    Reached (stripComments text) (start text source) where
  pos_le := Nat.zero_le _
  rest_eq := rfl
  line_eq := rfl
  opened := nofun
  done_pos := nofun
  selector_nil := nofun
  block_nil := nofun

/-- A move leads from a state of a scan to a state of the same scan. -/
theorem Reached.move (h : Reached cs s) (hm : Move s taken s') : Reached cs s' := by
  -- the text that was left is what the move takes and what it leaves
  have hdrop : cs.drop s.pos = taken ++ s'.rest := h.rest_eq.symm.trans hm.rest_eq
  have hlen : cs.length = s.pos + (taken.length + s'.rest.length) := by
    have hle := h.pos_le
    rw [← List.length_append, ← hdrop, List.length_drop]
    omega
  -- the place, the text before it and the line move on with what is taken
  refine ⟨?_, ?_, ?_, ?_, fun hdone => ?_, hm.selector_eq_nil, hm.block_eq_nil⟩
  · rw [hm.pos_eq]
    omega
  · rw [hm.pos_eq, ← List.drop_drop, hdrop, List.drop_left]
  · rw [hm.line_eq, hm.pos_eq, h.line_eq, List.take_add, hdrop, List.take_left, List.count_append,
      Nat.add_assoc]
  · intro hblock
    -- the brace is the last character that the move takes
    obtain ⟨hdepth, hlast⟩ := hm.opens hblock
    obtain ⟨head, rfl⟩ := List.getLast?_eq_some_iff.mp hlast
    have hpos : s'.pos = s.pos + head.length + 1 := by
      rw [hm.pos_eq, List.length_append]
      rfl
    refine ⟨hdepth, by omega, ?_⟩
    rw [hpos, Nat.add_sub_cancel, ← List.getElem?_drop, hdrop]
    simp
  · rw [hm.pos_eq, hlen, hm.rest_of_done hdone, List.length_nil, Nat.add_zero]

/-- A step of a scan that is not done leads to another state of that scan. -/
theorem Reached.step (h : Reached cs s) (hs : s.phase ≠ .done) : Reached cs s.step := by
  obtain ⟨taken, hm⟩ := exists_move_step hs
  exact h.move hm

/-! ## Along the trace -/

/-- Induction over the steps that a scan has before it. -/
theorem scan_induction {motive : Scanner → Prop} (done : ∀ s, s.phase = .done → motive s)
    (step : ∀ s, s.phase ≠ .done → motive s.step → motive s) (s : Scanner) : motive s := by
  by_cases hs : s.phase = .done
  · exact done s hs
  · have hlt := measure_step_lt hs
    exact step s hs (scan_induction done step s.step)
termination_by s.measure

/-- What holds at the start of a scan and is kept by every step holds of all its states, and what a
    step brings about holds of all states that follow each other. -/
theorem trace_induction {P : Scanner → Prop} {R : Scanner → Scanner → Prop}
    (hstep : ∀ e, P e → e.phase ≠ .done → P e.step ∧ R e e.step) (s : Scanner) (hs : P s) :
    (∀ e ∈ s :: s.trace, P e) ∧ (s :: s.trace).IsChain R := by
  -- a scan that is done has no trace; else the first step comes in front of the trace of the rest
  induction s using scan_induction with
  | done s h =>
    rw [trace_of_phase_eq h]
    exact ⟨List.forall_mem_singleton.mpr hs, .singleton s⟩
  | step s h ih =>
    obtain ⟨hP, hR⟩ := hstep s hs h
    obtain ⟨hall, hchain⟩ := ih hP
    rw [trace_of_phase_ne h]
    exact ⟨List.forall_mem_cons.mpr ⟨hs, hall⟩, List.isChain_cons_cons.mpr ⟨hR, hchain⟩⟩

end Scanner

end SheetAudit.Stylesheet

import SheetAudit.Stylesheet.Comment
import SheetAudit.Stylesheet.Rule

/-!
# Scanning a stylesheet for rules

The scanner reads comment-free text from left to right and knows nothing of the grammar but braces.
It passes over blank text and at-rules, whose blocks it skips whole, and takes everything else up to
an opening brace for a selector and what the brace encloses for declarations.  Broken input is never
refused: what is left open at the end of the text is dropped or, for a block, closed there.

One `Scanner.step` runs the phase the scanner is in and says which comes next.  `Scanner.measure`
falls with every step, so that `Scanner.run` ends.

* `readSelector` and `readBlock` read the text of a selector and of a block.
* `Scanner.trace` lists the states of a run.
* `rules` gives the rules of a stylesheet.
-/

namespace SheetAudit.Stylesheet

open SheetAudit.Text

/-! ## Selectors and blocks -/

/-- Selector text read up to an opening brace, or up to the end of the text. -/
structure SelectorText where
  /-- The characters of the selector, escapes included. -/
  text : List Char
  /-- Whether an opening brace ended the selector; the brace itself is passed over. -/
  opened : Bool
  /-- The text behind the selector. -/
  rest : List Char

/-- Reads selector text, where a backslash takes the next character with it; `taken` holds what was
read, last character first. -/
def readSelectorFrom (taken : List Char) : List Char → SelectorText
  | [] => ⟨taken.reverse, false, []⟩
  | '\\' :: c :: cs => readSelectorFrom (c :: '\\' :: taken) cs
  | c :: cs => if c = '{' then ⟨taken.reverse, true, cs⟩ else readSelectorFrom (c :: taken) cs

/-- Reads the text of a selector. -/
def readSelector (cs : List Char) : SelectorText :=
  readSelectorFrom [] cs

/-- Block text read up to the brace that closes it, or up to the end of the text. -/
structure BlockText where
  /-- The characters of the block, without the closing brace. -/
  body : List Char
  /-- The number of braces still open: zero when the block is closed. -/
  depth : Nat
  /-- The text behind the block. -/
  rest : List Char

/-- Reads block text with `inner` braces open inside the block; `taken` holds what was read, last
character first. -/
def readBlockFrom (inner : Nat) (taken : List Char) : List Char → BlockText
  | [] => ⟨taken.reverse, inner + 1, []⟩
  | c :: cs =>
    if c = '{' then readBlockFrom (inner + 1) (c :: taken) cs
    else if c = '}' then
      match inner with
      | 0 => ⟨taken.reverse, 0, cs⟩
      | inner + 1 => readBlockFrom inner (c :: taken) cs
    else readBlockFrom inner (c :: taken) cs

/-- Reads the text of a block whose opening brace has been passed. -/
def readBlock (cs : List Char) : BlockText :=
  readBlockFrom 0 [] cs

/-- All that was read of a block: its body and, if it is closed, the closing brace. -/
def BlockText.taken (b : BlockText) : List Char :=
  if b.depth = 0 then b.body ++ ['}'] else b.body

/-! ## The scanner -/

/-- What the scanner is about to read. -/
inductive Phase where
  /-- Blank text before the next construct. -/
  | betweenRules
  /-- The head of an at-rule, up to its opening brace. -/
  | atRulePrelude
  /-- The block of an at-rule. -/
  | atRuleBlock
  /-- A selector, up to its opening brace. -/
  | selector
  /-- The declarations of a rule. -/
  | declarations
  /-- Nothing more. -/
  | done
  deriving DecidableEq, Repr

/-- The state of a scan.  Fields that a phase does not use keep what the last phase left there. -/
structure Scanner where
  /-- The phase that runs next. -/
  phase : Phase := .betweenRules
  /-- The name of the sheet, recorded on each rule. -/
  source : String
  /-- The text not yet read. -/
  rest : List Char
  /-- The number of characters read. -/
  pos : Nat := 0
  /-- The line of the next character. -/
  line : Nat := 1
  /-- The number of open braces. -/
  depth : Nat := 0
  /-- The text of the last selector. -/
  selector : List Char := []
  /-- The line on which the last selector starts. -/
  selectorLine : Nat := 1
  /-- The text of the last declaration block. -/
  block : List Char := []
  /-- The rules found so far, last one first. -/
  found : List Rule := []
  deriving Repr

namespace Scanner

/-- Passes over `taken`, which leaves `rest` to be read. -/
def advance (s : Scanner) (taken rest : List Char) : Scanner :=
  { s with rest, pos := s.pos + taken.length, line := s.line + taken.count '\n' }

/-- Records the rule just read, unless its selector is blank. -/
def emit (s : Scanner) : Scanner :=
  let selector := trim s.selector
  if selector.isEmpty then s
  else
    let rule : Rule :=
      { selector := String.ofList selector, declarations := splitDeclarations s.block,
        line := s.selectorLine, source := s.source }
    { s with found := rule :: s.found }

/-- Passes over blank text and looks at what follows. -/
def stepBetweenRules (s : Scanner) : Scanner :=
  let s := s.advance (s.rest.takeWhile isBlank) (s.rest.dropWhile isBlank)
  match s.rest with
  | [] => { s with phase := .done }
  | '@' :: _ => { s with phase := .atRulePrelude }
  | _ => { s with phase := .selector, selector := [], selectorLine := s.line }

/-- Passes over the head of an at-rule. -/
def stepAtRulePrelude (s : Scanner) : Scanner :=
  match cut? ['{'] s.rest with
  | none => { s.advance s.rest [] with phase := .done }
  | some (head, rest) => { s.advance (head ++ ['{']) rest with phase := .atRuleBlock, depth := 1 }

/-- Passes over the block of an at-rule. -/
def stepAtRuleBlock (s : Scanner) : Scanner :=
  let b := readBlock s.rest
  { s.advance b.taken b.rest with phase := .betweenRules, depth := b.depth }

/-- Reads a selector. -/
def stepSelector (s : Scanner) : Scanner :=
  let t := readSelector s.rest
  if t.opened then
    { s.advance (t.text ++ ['{']) t.rest with
      phase := .declarations, selector := t.text, block := [], depth := 1 }
  else
    { s.advance t.text t.rest with phase := .done, selector := t.text }

/-- Reads the declarations of a rule and records it. -/
def stepDeclarations (s : Scanner) : Scanner :=
  let b := readBlock s.rest
  let s := { s.advance b.taken b.rest with
    phase := .betweenRules, block := b.body, depth := b.depth }
  s.emit

/-- Runs the phase that the scanner is in. -/
def step (s : Scanner) : Scanner :=
  match s.phase with
  | .betweenRules => s.stepBetweenRules
  | .atRulePrelude => s.stepAtRulePrelude
  | .atRuleBlock => s.stepAtRuleBlock
  | .selector => s.stepSelector
  | .declarations => s.stepDeclarations
  | .done => s

/-! ## Every scan ends -/

/-- The place of a phase in the order in which phases may follow one another without reading. -/
def rank : Phase → Nat
  | .done => 0
  | .selector | .atRulePrelude => 1
  | .betweenRules => 2
  | .declarations | .atRuleBlock => 3

/-- What every step makes smaller: the text left to read and, for equal text, the rank. -/
def measure (s : Scanner) : Nat :=
  4 * s.rest.length + rank s.phase

end Scanner

/-- A selector takes nothing twice, and its opening brace as well if there is one. -/
theorem length_readSelectorFrom (taken cs : List Char) :
    (readSelectorFrom taken cs).rest.length + (if (readSelectorFrom taken cs).opened then 1 else 0)
      ≤ cs.length := by
  fun_induction readSelectorFrom taken cs with
  | case1 => simp
  | case2 _ _ _ ih => simp only [List.length_cons]; omega
  | case3 => simp
  | case4 _ _ _ _ _ ih => simp only [List.length_cons]; omega

/-- What follows a selector is no longer than the text, and shorter when a brace was passed. -/
theorem length_readSelector (cs : List Char) :
    (readSelector cs).rest.length + (if (readSelector cs).opened then 1 else 0) ≤ cs.length :=
  length_readSelectorFrom [] cs

/-- A block takes nothing twice. -/
theorem length_readBlockFrom (inner : Nat) (taken cs : List Char) :
    (readBlockFrom inner taken cs).rest.length ≤ cs.length := by
  fun_induction readBlockFrom inner taken cs <;> simp only [List.length_cons, List.length_nil] <;>
    omega

/-- What follows a block is no longer than the text. -/
theorem length_readBlock (cs : List Char) : (readBlock cs).rest.length ≤ cs.length :=
  length_readBlockFrom 0 [] cs

namespace Scanner

/-- Recording a rule leaves the phase as it is. -/
@[simp] theorem phase_emit (s : Scanner) : s.emit.phase = s.phase := by
  simp only [emit]; split <;> rfl

/-- Recording a rule reads no text. -/
@[simp] theorem rest_emit (s : Scanner) : s.emit.rest = s.rest := by
  simp only [emit]; split <;> rfl

/-- Every step before the end of a scan makes its measure smaller. -/
theorem measure_step_lt {s : Scanner} (h : s.phase ≠ .done) : s.step.measure < s.measure := by
  unfold step
  split
  · next hp =>
    have hlen : (s.rest.dropWhile isBlank).length ≤ s.rest.length :=
      (List.dropWhile_sublist _).length_le
    simp only [stepBetweenRules, advance]
    split <;> (simp only [measure, rank, hp]; omega)
  · next hp =>
    unfold stepAtRulePrelude
    split
    · simp [measure, advance, rank, hp]
    · next hc =>
      have := length_of_cut? hc
      simp [measure, advance, rank, hp] at this ⊢
      omega
  · next hp =>
    have := length_readBlock s.rest
    simp [stepAtRuleBlock, measure, advance, rank, hp]
    omega
  · next hp =>
    have := length_readSelector s.rest
    simp only [stepSelector]
    split
    · next ho =>
      rw [if_pos ho] at this
      simp only [measure, advance, rank, hp]
      omega
    · simp only [measure, advance, rank, hp]
      omega
  · next hp =>
    have := length_readBlock s.rest
    simp [stepDeclarations, measure, advance, rank, hp]
    omega
  · next hp => exact absurd hp h

/-- Runs the scanner to the end of the text. -/
def run (s : Scanner) : Scanner :=
  if s.phase = .done then s else run s.step
termination_by s.measure
decreasing_by exact measure_step_lt ‹_›

/-- Collects the states after each step; `past` holds those already seen, last one first. -/
def traceFrom (past : List Scanner) (s : Scanner) : List Scanner :=
  if s.phase = .done then past.reverse else traceFrom (s.step :: past) s.step
termination_by s.measure
decreasing_by exact measure_step_lt ‹_›

/-- The states of the scanner after each step, up to the end of the scan. -/
def trace (s : Scanner) : List Scanner :=
  traceFrom [] s

/-- The scanner at the start of a stylesheet, whose comments are removed. -/
def start (text : List Char) (source : String) : Scanner :=
  { source, rest := stripComments text }

end Scanner

/-- The style rules of a stylesheet, in order. -/
def rules (text : String) (source : String) : List Rule :=
  (Scanner.start text.toList source).run.found.reverse

/-- The style rules of a named stylesheet. -/
def Source.rules (s : Source) : List Rule :=
  Stylesheet.rules s.content s.name

end SheetAudit.Stylesheet

import SheetAudit.Proofs.Steps

/-!
# Scanning with an index

`Scanner` takes the text before it apart, so that it cannot read past the end.  Here the same scan
is made with an index into the whole text: one character at a time, through `peek?` and `advance?`,
which fail at the end of the text, and with a signed counter for the open braces.  `Scanner.cursor`
turns a state of the scanner into one of this kind.

A loop gives `none` when it reads outside the text, which ends it.  That a phase gives `some` state
says that this does not happen.

## Key results

- `onAtRuleBlock_eq`, `onSelector_eq` and `onDeclarations_eq`: the loops do what the readers of
  `Scanner` do
- `handle_cursor` / `runFor_cursor`: the two scans make the same steps and come to the same end
-/

namespace SheetAudit.Stylesheet

open SheetAudit.Text

/-- The state of a scan with an index; the other fields are those of `Scanner`. -/
structure Cursor where
  /-- The phase that runs next. -/
  phase : Phase
  /-- The name of the sheet. -/
  source : String
  /-- The whole text. -/
  text : List Char
  /-- The index of the next character. -/
  pos : Nat
  /-- The line of the next character. -/
  line : Nat
  /-- The braces opened less the braces closed. -/
  depth : Int
  /-- The text of the last selector. -/
  selector : List Char
  /-- The line on which the last selector starts. -/
  selectorLine : Nat
  /-- The text of the last declaration block. -/
  block : List Char
  /-- The rules found so far, last one first. -/
  found : List Rule

namespace Cursor

/-! ## Reading characters -/

/-- Whether all text is read. -/
def atEnd (c : Cursor) : Bool :=
  c.text.length ≤ c.pos

/-- The next character. -/
def peek? (c : Cursor) : Option Char :=
  c.text[c.pos]?

/-- The next character, and the state behind it. -/
def advance? (c : Cursor) : Option (Char × Cursor) := do
  let ch ← c.text[c.pos]?
  return (ch, { c with pos := c.pos + 1, line := if ch = '\n' then c.line + 1 else c.line })

/-- The number of characters that are not yet read. -/
def remaining (c : Cursor) : Nat :=
  c.text.length - c.pos

/-- Reading a character leaves fewer of them. -/
private theorem remaining_lt_of_advance? {c c' : Cursor} {ch : Char}
    (h : c.advance? = some (ch, c')) :
    c'.remaining < c.remaining := by
  simp only [advance?, Option.bind_eq_bind, Option.bind_eq_some_iff, Option.pure_def,
    Option.some.injEq, Prod.mk.injEq] at h
  obtain ⟨d, hget, -, rfl⟩ := h
  have hlt : c.pos < c.text.length := (List.getElem?_eq_some_iff.mp hget).1
  simp only [remaining]
  omega

/-! ## The phases -/

/-- Passes over blank characters. -/
def skipBlank (c : Cursor) : Option Cursor :=
  if c.atEnd then some c
  else
    match c.peek? with
    | none => none
    | some ch =>
      if isBlank ch then
        match _hread : c.advance? with
        | none => none
        | some (_, c') => skipBlank c'
      else some c
termination_by c.remaining
decreasing_by exact remaining_lt_of_advance? _hread

/-- Passes over blank text and looks at what follows. -/
def onBetweenRules (c : Cursor) : Option Cursor := do
  let c ← c.skipBlank
  if c.atEnd then return { c with phase := .done }
  let ch ← c.peek?
  if ch = '@' then return { c with phase := .atRulePrelude }
  return { c with phase := .selector, selector := [], selectorLine := c.line }

/-- Passes over the head of an at-rule. -/
def onAtRulePrelude (c : Cursor) : Option Cursor :=
  if c.atEnd then some { c with phase := .done }
  else
    match _hread : c.advance? with
    | none => none
    | some (ch, c') =>
      if ch = '{' then some { c' with phase := .atRuleBlock, depth := 1 }
      else onAtRulePrelude c'
termination_by c.remaining
decreasing_by exact remaining_lt_of_advance? _hread

/-- Passes over the block of an at-rule. -/
def onAtRuleBlock (c : Cursor) : Option Cursor :=
  if c.atEnd ∨ c.depth ≤ 0 then some { c with phase := .betweenRules }
  else
    match _hread : c.advance? with
    | none => none
    | some (ch, c') =>
      if ch = '{' then onAtRuleBlock { c' with depth := c'.depth + 1 }
      else if ch = '}' then onAtRuleBlock { c' with depth := c'.depth - 1 }
      else onAtRuleBlock c'
termination_by c.remaining
decreasing_by
  all_goals
    have hlt := remaining_lt_of_advance? _hread
    exact hlt

/-- Reads a selector. -/
def onSelector (c : Cursor) : Option Cursor :=
  if c.atEnd then some { c with phase := .done }
  else
    match _hread : c.advance? with
    | none => none
    | some (ch, c') =>
      if ch = '\\' ∧ ¬ c'.atEnd then
        match _hescape : c'.advance? with
        | none => none
        | some (escaped, c'') => onSelector { c'' with selector := c''.selector ++ [ch, escaped] }
      else if ch = '{' then some { c' with phase := .declarations, block := [], depth := 1 }
      else onSelector { c' with selector := c'.selector ++ [ch] }
termination_by c.remaining
decreasing_by
  · have hlt := remaining_lt_of_advance? _hescape
    exact hlt.trans (remaining_lt_of_advance? _hread)
  · have hlt := remaining_lt_of_advance? _hread
    exact hlt

/-- Records the rule just read, unless its selector is blank. -/
def emit (c : Cursor) : Cursor :=
  let selector := trim c.selector
  if selector.isEmpty then c
  else
    let rule : Rule :=
      { selector := String.ofList selector, declarations := splitDeclarations c.block,
        line := c.selectorLine, source := c.source }
    { c with found := rule :: c.found }

/-- Reads the declarations of a rule and records it. -/
def onDeclarations (c : Cursor) : Option Cursor :=
  if c.atEnd then some (emit { c with phase := .betweenRules })
  else
    match _hread : c.advance? with
    | none => none
    | some (ch, c') =>
      if ch = '{' then onDeclarations { c' with depth := c'.depth + 1, block := c'.block ++ [ch] }
      else if ch = '}' then
        if c'.depth - 1 = 0 then
          some (emit { c' with phase := .betweenRules, depth := c'.depth - 1 })
        else onDeclarations { c' with depth := c'.depth - 1, block := c'.block ++ [ch] }
      else onDeclarations { c' with block := c'.block ++ [ch] }
termination_by c.remaining
decreasing_by
  all_goals
    have hlt := remaining_lt_of_advance? _hread
    exact hlt

/-- Runs the phase that the scan is in. -/
def handle (c : Cursor) : Option Cursor :=
  match c.phase with
  | .betweenRules => c.onBetweenRules
  | .atRulePrelude => c.onAtRulePrelude
  | .atRuleBlock => c.onAtRuleBlock
  | .selector => c.onSelector
  | .declarations => c.onDeclarations
  | .done => some c

/-- Runs so many phases. -/
def runFor : Nat → Cursor → Option Cursor
  | 0, c => some c
  | n + 1, c => c.handle.bind (runFor n)

/-! ## Reading some text -/

variable {c : Cursor} {ch : Char} {cs u v : List Char}

/-- The text that is not yet read. -/
def rest (c : Cursor) : List Char :=
  c.text.drop c.pos

/-- The state behind some text. -/
def past (c : Cursor) (taken : List Char) : Cursor :=
  { c with pos := c.pos + taken.length, line := c.line + taken.count '\n' }

/-- The braces that a text opens less those that it closes. -/
def braces (cs : List Char) : Int :=
  cs.count '{' - cs.count '}'

/-- The state behind some text of a block, whose braces are counted. -/
def inside (c : Cursor) (taken : List Char) : Cursor :=
  { c.past taken with depth := c.depth + braces taken }

/-- The state behind some text that joins the declarations. -/
def intoBlock (c : Cursor) (taken : List Char) : Cursor :=
  { c.inside taken with block := c.block ++ taken }

/-- The state behind some text that joins the selector. -/
def intoSelector (c : Cursor) (taken : List Char) : Cursor :=
  { c.past taken with selector := c.selector ++ taken }

/-- The braces of texts in a row add up. -/
private theorem braces_append (u v : List Char) : braces (u ++ v) = braces u + braces v := by
  simp only [braces, List.count_append]
  omega

/-- Reading two texts one after the other is reading them at once. -/
private theorem past_past (c : Cursor) (u v : List Char) : (c.past u).past v = c.past (u ++ v) := by
  simp [past, Nat.add_assoc]

/-- Counting the braces of two texts one after the other is counting them at once. -/
private theorem inside_inside (c : Cursor) (u v : List Char) :
    (c.inside u).inside v = c.inside (u ++ v) := by
  simp [inside, past, braces_append, Nat.add_assoc, Int.add_assoc]

/-- Two texts that join the declarations join them at once. -/
private theorem intoBlock_intoBlock (c : Cursor) (u v : List Char) :
    (c.intoBlock u).intoBlock v = c.intoBlock (u ++ v) := by
  simp [intoBlock, inside, past, braces_append, Nat.add_assoc, Int.add_assoc]

/-- Two texts that join the selector join it at once. -/
private theorem intoSelector_intoSelector (c : Cursor) (u v : List Char) :
    (c.intoSelector u).intoSelector v = c.intoSelector (u ++ v) := by
  simp [intoSelector, past, Nat.add_assoc]

/-- Reading nothing changes nothing. -/
@[simp] theorem past_nil (c : Cursor) : c.past [] = c := by
  simp [past]

/-- No text has no braces. -/
@[simp] theorem inside_nil (c : Cursor) : c.inside [] = c := by
  simp [inside, braces]

/-- Nothing joins the declarations. -/
@[simp] theorem intoBlock_nil (c : Cursor) : c.intoBlock [] = c := by
  simp [intoBlock]

/-- Nothing joins the selector. -/
@[simp] theorem intoSelector_nil (c : Cursor) : c.intoSelector [] = c := by
  simp [intoSelector]

/-- Behind the first part of the text, the second part is left. -/
private theorem rest_past (h : c.rest = u ++ v) : (c.past u).rest = v := by
  have hdrop : (c.past u).rest = c.rest.drop u.length := by
    simp [rest, past, List.drop_drop]
  rw [hdrop, h, List.drop_left]

/-! ## Reading one character -/

/-- With nothing left, all text is read. -/
private theorem atEnd_of_rest (h : c.rest = []) : c.atEnd = true := by
  rw [atEnd, decide_eq_true_eq]
  exact List.drop_eq_nil_iff.mp h

/-- The next character is the first one of what is left. -/
private theorem peek?_of_rest (h : c.rest = ch :: cs) : c.peek? = some ch := by
  rw [peek?, ← List.head?_drop]
  exact congrArg List.head? h

/-- With something left, not all text is read. -/
private theorem not_atEnd_of_rest (h : c.rest = ch :: cs) : ¬ c.atEnd = true := by
  have hlt : c.pos < c.text.length := (List.getElem?_eq_some_iff.mp (peek?_of_rest h)).1
  rw [atEnd, decide_eq_true_eq]
  omega

/-- Reading the next character leads behind it. -/
private theorem advance?_of_rest (h : c.rest = ch :: cs) : c.advance? = some (ch, c.past [ch]) := by
  have hget : c.text[c.pos]? = some ch := peek?_of_rest h
  by_cases hch : ch = '\n' <;> simp [advance?, hget, past, hch]

/-! ## The loops -/

/-- Passing over blank characters leads to the first one that is not blank. -/
private theorem skipBlank_eq (h : c.rest = cs) :
    c.skipBlank = some (c.past (cs.takeWhile isBlank)) := by
  -- by induction on what is left: the loop reads a character exactly if it is blank
  induction cs generalizing c with
  | nil =>
    rw [skipBlank, if_pos (atEnd_of_rest h), List.takeWhile_nil, past_nil]
  | cons ch cs ih =>
    have hnext : (c.past [ch]).rest = cs := rest_past h
    rw [skipBlank, if_neg (not_atEnd_of_rest h), peek?_of_rest h, advance?_of_rest h]
    by_cases hb : isBlank ch = true
    · simp [hb, ih hnext, past_past]
    · simp [hb]

/-- The loop over the head of an at-rule reads up to its brace, or to the end of the text. -/
private theorem onAtRulePrelude_eq (h : c.rest = cs) :
    c.onAtRulePrelude =
      match cut? ['{'] cs with
      | none => some { c.past cs with phase := .done }
      | some (head, _) =>
        some { c.past (head ++ ['{']) with phase := .atRuleBlock, depth := 1 } := by
  -- by induction on what is left, up to the first brace
  induction cs generalizing c with
  | nil =>
    rw [onAtRulePrelude, if_pos (atEnd_of_rest h), past_nil]
    rfl
  | cons ch cs ih =>
    have hnext : (c.past [ch]).rest = cs := rest_past h
    rw [onAtRulePrelude, if_neg (not_atEnd_of_rest h), advance?_of_rest h, cut?_cons]
    by_cases hb : ch = '{'
    · subst hb
      simp [behind?]
    · have hbehind : behind? ['{'] (ch :: cs) = none := by simp [behind?, Ne.symm hb]
      simp only [if_neg hb, ih hnext, hbehind]
      cases cut? ['{'] cs <;> simp [past_past]

/-- With a brace open, one character of the block of an at-rule is read and its brace counted. -/
private theorem onAtRuleBlock_cons (h : c.rest = ch :: cs) (hd : 0 < c.depth) :
    c.onAtRuleBlock = (c.inside [ch]).onAtRuleBlock := by
  rw [onAtRuleBlock, if_neg (not_or.mpr ⟨not_atEnd_of_rest h, by omega⟩), advance?_of_rest h]
  by_cases ho : ch = '{'
  · subst ho
    rfl
  · by_cases hc : ch = '}'
    · subst hc
      rfl
    · have hzero : braces [ch] = 0 := by simp [braces, ho, hc]
      simp only [if_neg ho, if_neg hc, inside, hzero, Int.add_zero]
      rfl

/-- Behind one character of a block, the rest of the text still keeps a brace open. -/
private theorem braces_pos_of_cons (hu : ∀ p, p <+: ch :: u → 0 < c.depth + braces p) :
    ∀ p, p <+: u → 0 < c.depth + braces [ch] + braces p := by
  intro p hp
  have := hu (ch :: p) ((List.prefix_cons_inj ch).mpr hp)
  rwa [← List.singleton_append, braces_append, ← Int.add_assoc] at this

/-- The loop over the block of an at-rule passes over text that keeps a brace open. -/
theorem onAtRuleBlock_append (h : c.rest = u ++ v)
    (hu : ∀ p, p <+: u → 0 < c.depth + braces p) :
    c.onAtRuleBlock = (c.inside u).onAtRuleBlock := by
  -- by induction on the text: a brace stays open at each of its characters, so the loop goes on
  induction u generalizing c with
  | nil => rw [inside_nil]
  | cons ch u ih =>
    have hd : 0 < c.depth := by simpa [braces] using hu [] List.nil_prefix
    have hnext : (c.inside [ch]).rest = u ++ v := rest_past (u := [ch]) h
    rw [onAtRuleBlock_cons h hd, ih hnext (braces_pos_of_cons hu), inside_inside]
    rfl

/-- A character that leaves a brace open joins the declarations. -/
private theorem onDeclarations_cons (h : c.rest = ch :: cs) (hd : 0 < c.depth + braces [ch]) :
    c.onDeclarations = (c.intoBlock [ch]).onDeclarations := by
  rw [onDeclarations, if_neg (not_atEnd_of_rest h), advance?_of_rest h]
  by_cases ho : ch = '{'
  · subst ho
    rfl
  · by_cases hc : ch = '}'
    · subst hc
      -- the closing brace is not the last one, so that it joins the block
      have hne : (c.past ['}']).depth - 1 ≠ 0 := by
        simp [braces] at hd
        simp [past]
        omega
      simp only [if_neg ho, if_true, if_neg hne]
      rfl
    · have hzero : braces [ch] = 0 := by simp [braces, ho, hc]
      simp only [if_neg ho, if_neg hc, intoBlock, inside, hzero, Int.add_zero]
      rfl

/-- The loop over a declaration block takes in text that keeps a brace open. -/
theorem onDeclarations_append (h : c.rest = u ++ v)
    (hu : ∀ p, p <+: u → 0 < c.depth + braces p) :
    c.onDeclarations = (c.intoBlock u).onDeclarations := by
  -- by induction on the text, as for an at-rule, with the block growing
  induction u generalizing c with
  | nil => rw [intoBlock_nil]
  | cons ch u ih =>
    have hu' := braces_pos_of_cons hu
    have hd : 0 < c.depth + braces [ch] := by simpa [braces] using hu' [] List.nil_prefix
    have hnext : (c.intoBlock [ch]).rest = u ++ v := rest_past (u := [ch]) h
    rw [onDeclarations_cons h hd, ih hnext hu', intoBlock_intoBlock]
    rfl

/-- Text that leaves a block open keeps the brace in front of the block open. -/
private theorem braces_pos_of_staysOpen (hd : c.depth = 1) (hu : StaysOpen 0 u) :
    ∀ p, p <+: u → 0 < c.depth + braces p := by
  intro p hp
  have := hu p hp
  rw [hd, braces]
  omega

/-- Its braces are then those that are open behind it, as `readBlock` counts them. -/
private theorem depth_add_braces_of_staysOpen (hd : c.depth = 1) (hu : StaysOpen 0 u) :
    c.depth + braces u = ((u.count '{' - u.count '}' + 1 : Nat) : Int) := by
  have hle : u.count '}' ≤ u.count '{' := by
    simpa using hu u (List.prefix_refl u)
  rw [hd, braces]
  omega

/-- A balanced text closes as many braces as it opens. -/
private theorem braces_of_balanced (hu : Balanced u) : braces u = 0 := by
  rw [braces, hu.2]
  omega

/-- The loop over the block of an at-rule reads what `readBlock` reads. -/
theorem onAtRuleBlock_eq (h : c.rest = cs) (hd : c.depth = 1) :
    c.onAtRuleBlock =
      some { c.past (readBlock cs).taken with
        phase := .betweenRules, depth := (readBlock cs).depth } := by
  rcases block_cases cs with ⟨b, rest, hb, rfl⟩ | hopen
  · have hrest : (c.inside b).rest = '}' :: rest := rest_past h
    have hdepth : (c.inside b).depth = 1 := by simp [inside, hd, braces_of_balanced hb]
    -- the next brace closes the block, and ends the loop
    have hclosed : (c.inside (b ++ ['}'])).depth = 0 := by
      simp [inside, hd, braces_append, braces_of_balanced hb]
      rfl
    rw [onAtRuleBlock_append h (braces_pos_of_staysOpen hd hb.1),
      onAtRuleBlock_cons hrest (by omega), inside_inside, onAtRuleBlock, if_pos (.inr (by omega)),
      readBlock_append hb, hclosed]
    rfl
  -- no brace closes the block, and the loop ends with the text
  · have h : c.rest = cs ++ [] := by rw [h, List.append_nil]
    have hdepth := depth_add_braces_of_staysOpen hd hopen
    rw [onAtRuleBlock_append h (braces_pos_of_staysOpen hd hopen), onAtRuleBlock,
      if_pos (.inl (atEnd_of_rest (rest_past h))), readBlock_of_staysOpen hopen, inside, hdepth]
    rfl

/-- The loop over a declaration block reads what `readBlock` reads. -/
theorem onDeclarations_eq (h : c.rest = cs) (hd : c.depth = 1) (hblock : c.block = []) :
    c.onDeclarations =
      some (emit { c.past (readBlock cs).taken with
        phase := .betweenRules, block := (readBlock cs).body, depth := (readBlock cs).depth }) := by
  rcases block_cases cs with ⟨b, rest, hb, rfl⟩ | hopen
  · have hrest : (c.intoBlock b).rest = '}' :: rest := rest_past h
    -- the next brace closes the block, and does not join it
    have hclosed : ((c.intoBlock b).past ['}']).depth - 1 = 0 := by
      simp [intoBlock, inside, past, hd, braces_of_balanced hb]
    rw [onDeclarations_append h (braces_pos_of_staysOpen hd hb.1), onDeclarations,
      if_neg (not_atEnd_of_rest hrest), advance?_of_rest hrest, readBlock_append hb]
    dsimp only
    rw [if_neg (by decide), if_pos rfl, if_pos hclosed, hclosed]
    simp [intoBlock, inside, past, hblock, BlockText.taken, Nat.add_assoc]
  -- no brace closes the block, and the rule is recorded at the end of the text
  · have h : c.rest = cs ++ [] := by rw [h, List.append_nil]
    have hdepth := depth_add_braces_of_staysOpen hd hopen
    have hend : (c.intoBlock cs).atEnd = true := atEnd_of_rest (rest_past h)
    rw [onDeclarations_append h (braces_pos_of_staysOpen hd hopen), onDeclarations, if_pos hend,
      readBlock_of_staysOpen hopen, intoBlock, inside, hdepth, hblock]
    rfl

/-- Text without an opening brace joins the selector, if its last backslash does not take what
    follows it. -/
theorem onSelector_append (hbrace : '{' ∉ unescaped u) (hslash : '\\' ∈ unescaped u → v = [])
    (h : c.rest = u ++ v) : c.onSelector = (c.intoSelector u).onSelector := by
  -- by the recursion of `unescaped`, which takes a backslash and the next character at once
  induction u using unescaped.induct generalizing c with
  | case1 => rw [intoSelector_nil]
  | case2 d u ih =>
    simp only [unescaped] at hbrace hslash
    -- the loop reads the escaped character with the backslash
    have h₁ : (c.past ['\\']).rest = d :: (u ++ v) := rest_past (u := ['\\']) h
    have h₂ : (c.intoSelector ['\\', d]).rest = u ++ v := rest_past (u := ['\\', d]) h
    have hstep : c.onSelector = (c.intoSelector ['\\', d]).onSelector := by
      rw [onSelector, if_neg (not_atEnd_of_rest h), advance?_of_rest h]
      dsimp only
      rw [if_pos ⟨rfl, not_atEnd_of_rest h₁⟩, advance?_of_rest h₁]
      simp only [past_past]
      rfl
    rw [hstep, ih hbrace hslash h₂, intoSelector_intoSelector]
    rfl
  | case3 ch u hne ih =>
    rw [unescaped_cons hne, List.mem_cons, not_or] at hbrace
    rw [unescaped_cons hne, List.mem_cons] at hslash
    have hnext : (c.intoSelector [ch]).rest = u ++ v := rest_past (u := [ch]) h
    -- a backslash is the last character of the text
    have hesc : ¬ (ch = '\\' ∧ ¬ (c.past [ch]).atEnd = true) := by
      rintro ⟨rfl, hend⟩
      have hv : v = [] := hslash (.inl rfl)
      cases u with
      | nil => exact hend (atEnd_of_rest (by rw [hv] at hnext; exact hnext))
      | cons d u => exact hne d u rfl rfl
    have hstep : c.onSelector = (c.intoSelector [ch]).onSelector := by
      rw [onSelector, if_neg (not_atEnd_of_rest h), advance?_of_rest h]
      simp only [if_neg hesc, if_neg (Ne.symm hbrace.1)]
      rfl
    rw [hstep, ih hbrace.2 (fun hm => hslash (.inr hm)) hnext, intoSelector_intoSelector]
    rfl

/-- The loop over a selector reads what `readSelector` reads. -/
theorem onSelector_eq (h : c.rest = cs) (hsel : c.selector = []) :
    c.onSelector =
      if (readSelector cs).opened then
        some { c.past ((readSelector cs).text ++ ['{']) with
          phase := .declarations, selector := (readSelector cs).text, block := [], depth := 1 }
      else
        some { c.past (readSelector cs).text with
          phase := .done, selector := (readSelector cs).text } := by
  -- an opening brace ends the selector, or the text does
  rcases selector_cases cs with ⟨sel, rest, hs, rfl⟩ | hopen
  · have hrest : (c.intoSelector sel).rest = '{' :: rest := rest_past h
    rw [onSelector_append hs.1 (fun hm => absurd hm hs.2) h, onSelector,
      if_neg (not_atEnd_of_rest hrest), advance?_of_rest hrest, readSelector_append hs]
    simp [intoSelector, past, hsel, Nat.add_assoc]
  · have h : c.rest = cs ++ [] := by rw [h, List.append_nil]
    have hend : (c.intoSelector cs).atEnd = true := atEnd_of_rest (rest_past h)
    rw [onSelector_append hopen (fun _ => rfl) h, onSelector, if_pos hend,
      readSelector_of_not_mem hopen, intoSelector, hsel]
    rfl

end Cursor

/-! ## The two scans -/

namespace Scanner

variable {s : Scanner} {cs : List Char}

/-- The state of a scan of `cs`, with the index of the next character. -/
def cursor (cs : List Char) (s : Scanner) : Cursor :=
  { phase := s.phase, source := s.source, text := cs, pos := s.pos, line := s.line,
    depth := s.depth, selector := s.selector, selectorLine := s.selectorLine, block := s.block,
    found := s.found }

/-- Both scans record the same rule. -/
theorem cursor_emit (cs : List Char) (s : Scanner) : s.emit.cursor cs = (s.cursor cs).emit := by
  by_cases h : (trim s.selector).isEmpty = true
  · simp [emit, Cursor.emit, cursor, h]
  · simp [emit, Cursor.emit, cursor, h]

/-- Between rules both scans skip blank text and look at the same character. -/
theorem onBetweenRules_cursor (h : (s.cursor cs).rest = s.rest) :
    (s.cursor cs).onBetweenRules = some (s.stepBetweenRules.cursor cs) := by
  -- both look at the first character that is not blank
  have hrest : ((s.cursor cs).past (s.rest.takeWhile isBlank)).rest = s.rest.dropWhile isBlank :=
    Cursor.rest_past (h.trans List.takeWhile_append_dropWhile.symm)
  simp only [stepBetweenRules]
  split
  · next hnil =>
    have hend := Cursor.atEnd_of_rest (hrest.trans hnil)
    rw [Cursor.onBetweenRules, Cursor.skipBlank_eq h]
    simp only [Option.bind_eq_bind, Option.bind_some, if_pos hend]
    rfl
  · next hat =>
    have hrest := hrest.trans hat
    rw [Cursor.onBetweenRules, Cursor.skipBlank_eq h]
    simp only [Option.bind_eq_bind, Option.bind_some, if_neg (Cursor.not_atEnd_of_rest hrest),
      Cursor.peek?_of_rest hrest, if_true]
    rfl
  · next hnil hat =>
    obtain ⟨ch, cs', hcons⟩ := List.exists_cons_of_ne_nil hnil
    have hne : ch ≠ '@' := by
      rintro rfl
      exact hat cs' hcons
    have hrest := hrest.trans hcons
    rw [Cursor.onBetweenRules, Cursor.skipBlank_eq h]
    simp only [Option.bind_eq_bind, Option.bind_some, if_neg (Cursor.not_atEnd_of_rest hrest),
      Cursor.peek?_of_rest hrest, if_neg hne]
    rfl

/-- A step of the scanner is the step of the scan with an index. -/
theorem handle_cursor (h : Reached cs s) : (s.cursor cs).handle = some (s.step.cursor cs) := by
  have hrest : (s.cursor cs).rest = s.rest := h.rest_eq.symm
  have hphase : (s.cursor cs).phase = s.phase := rfl
  -- phase by phase: each loop does what the reader of its phase does
  cases hp : s.phase with
  | betweenRules =>
    simp only [Cursor.handle, hphase, step, hp]
    exact onBetweenRules_cursor hrest
  | atRulePrelude =>
    simp only [Cursor.handle, hphase, step, hp, Cursor.onAtRulePrelude_eq hrest, stepAtRulePrelude]
    cases cut? ['{'] s.rest <;> rfl
  | selector =>
    have hsel : (s.cursor cs).selector = [] := h.selector_nil hp
    simp only [Cursor.handle, hphase, step, hp, Cursor.onSelector_eq hrest hsel, stepSelector]
    split <;> rfl
  | atRuleBlock =>
    have hdepth : s.depth = 1 := (h.opened (by rw [hp]; rfl)).1
    have hdepth' : (s.cursor cs).depth = 1 := by rw [cursor, hdepth]; rfl
    simp only [Cursor.handle, hphase, step, hp, Cursor.onAtRuleBlock_eq hrest hdepth']
    rfl
  | declarations =>
    have hdepth : s.depth = 1 := (h.opened (by rw [hp]; rfl)).1
    have hdepth' : (s.cursor cs).depth = 1 := by rw [cursor, hdepth]; rfl
    have hblock : (s.cursor cs).block = [] := h.block_nil hp
    simp only [Cursor.handle, hphase, step, hp, Cursor.onDeclarations_eq hrest hdepth' hblock,
      stepDeclarations, cursor_emit]
    rfl
  | done => simp only [Cursor.handle, hphase, step, hp]

/-- The two scans come to the same end, in as many steps. -/
theorem runFor_cursor (s : Scanner) (h : Reached cs s) :
    (s.cursor cs).runFor s.trace.length = some (s.run.cursor cs) := by
  -- by induction on the scan, as each step of one is a step of the other
  induction s using scan_induction with
  | done s hs =>
    rw [trace_of_phase_eq hs, run_of_phase_eq hs]
    rfl
  | step s hs ih =>
    rw [trace_of_phase_ne hs, run_of_phase_ne hs, List.length_cons, Cursor.runFor, handle_cursor h]
    exact ih (h.step hs)

end Scanner

end SheetAudit.Stylesheet

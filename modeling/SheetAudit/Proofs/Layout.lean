import Mathlib.Logic.ExistsUnique
import SheetAudit.Proofs.Blocks
import SheetAudit.Proofs.Cut

/-!
# The layout of a stylesheet

The grammar behind the scanner: comment-free text is a sequence of items (blank text, at-rules,
style rules), each of them complete, followed by a tail that is cut off by the end of the text.
Nothing is said here about the scanner; `SheetAudit.Proofs.Scan` shows that it finds the rules of
the layout.

## Key results

- `Layout.Describes`: a layout of a text whose blank items are maximal
- `exists_layout`: every text has such a layout
- `Layout.Describes.unique`: and only one, since `readPiece` reads each piece back
-/

namespace SheetAudit.Stylesheet

open SheetAudit.Text

/-! ## Items and tails -/

/-- A complete construct of a stylesheet. -/
inductive Item where
  /-- A run of blank characters. -/
  | blank (text : List Char)
  /-- An at-rule: what stands between `@` and the opening brace, and its block. -/
  | atRule (head body : List Char)
  /-- A style rule: its selector and its block. -/
  | style (sel body : List Char)
  deriving DecidableEq, Repr

/-- What the end of the text leaves of a construct. -/
inductive Tail where
  /-- Nothing: the last item is complete. -/
  | nothing
  /-- An at-rule without an opening brace. -/
  | atHead (head : List Char)
  /-- An at-rule whose block is not closed. -/
  | atBlock (head body : List Char)
  /-- Selector text without an opening brace. -/
  | selector (text : List Char)
  /-- A style rule whose block is not closed. -/
  | block (sel body : List Char)
  deriving DecidableEq, Repr

/-- The text of an item. -/
def Item.source : Item → List Char
  | .blank text => text
  | .atRule head body => '@' :: (head ++ '{' :: (body ++ ['}']))
  | .style sel body => sel ++ '{' :: (body ++ ['}'])

/-- The text of a tail. -/
def Tail.source : Tail → List Char
  | .nothing => []
  | .atHead head => '@' :: head
  | .atBlock head body => '@' :: (head ++ '{' :: body)
  | .selector text => text
  | .block sel body => sel ++ '{' :: body

/-- Whether selector text can start with the first of these characters, if there is one. -/
def StartsSelector (cs : List Char) : Prop :=
  ∀ c ∈ cs.head?, isBlank c = false ∧ c ≠ '@'

/-- The rules of the grammar for a complete construct. -/
def Item.Valid : Item → Prop
  | .blank text => text ≠ [] ∧ ∀ c ∈ text, isBlank c = true
  | .atRule head body => '{' ∉ head ∧ Balanced body
  | .style sel body => StartsSelector sel ∧ IsSelector sel ∧ Balanced body

/-- The rules of the grammar for a construct that is cut off. -/
def Tail.Valid : Tail → Prop
  | .nothing => True
  | .atHead head => '{' ∉ head
  | .atBlock head body => '{' ∉ head ∧ StaysOpen 0 body
  | .selector text => text ≠ [] ∧ StartsSelector text ∧ '{' ∉ unescaped text
  | .block sel body => StartsSelector sel ∧ IsSelector sel ∧ StaysOpen 0 body

/-- Whether an item is blank text. -/
def Item.isBlankRun : Item → Bool
  | .blank _ => true
  | _ => false

/-! ## Layouts -/

/-- A stylesheet taken apart. -/
structure Layout where
  /-- The complete constructs, in order. -/
  items : List Item
  /-- What the end of the text cuts off. -/
  tail : Tail
  deriving DecidableEq, Repr

/-- The text of a layout. -/
def Layout.source (l : Layout) : List Char :=
  l.items.flatMap Item.source ++ l.tail.source

/-- Every part of the layout follows the grammar. -/
def Layout.Valid (l : Layout) : Prop :=
  (∀ i ∈ l.items, i.Valid) ∧ l.tail.Valid

/-- Blank items are maximal: no two of them stand side by side. -/
def Layout.Maximal (l : Layout) : Prop :=
  l.items.IsChain fun i j => ¬ (i.isBlankRun ∧ j.isBlankRun)

/-- The layout is one of the text `cs`. -/
structure Layout.Describes (l : Layout) (cs : List Char) : Prop where
  /-- Its parts follow the grammar. -/
  valid : l.Valid
  /-- Its blank items are maximal. -/
  maximal : l.Maximal
  /-- Put together they are the text. -/
  source_eq : l.source = cs

/-! ## How pieces start -/

/-- A selector with an opening brace behind it starts as a selector does, also when it is empty. -/
theorem StartsSelector.append {sel : List Char} (h : StartsSelector sel) (rest : List Char) :
    ∃ c cs, sel ++ '{' :: rest = c :: cs ∧ isBlank c = false ∧ c ≠ '@' := by
  cases sel with
  | nil => exact ⟨'{', rest, rfl, by decide, by decide⟩
  | cons c cs => exact ⟨c, cs ++ '{' :: rest, rfl, h c rfl⟩

/-- An item that is not blank text does not start with a blank character. -/
private theorem Item.head_not_blank {i : Item} (hi : i.Valid) (hb : i.isBlankRun = false)
    (rest : List Char) : ∀ c ∈ (i.source ++ rest).head?, isBlank c = false := by
  -- an at-rule starts with its sign, and a style rule with its selector or its brace
  cases i with
  | blank text => simp [isBlankRun] at hb
  | atRule head body =>
    intro c hc
    obtain rfl : '@' = c := by simpa [source] using hc
    decide
  | style sel body =>
    obtain ⟨c, cs, heq, hc, -⟩ := hi.1.append (body ++ ['}'] ++ rest)
    intro d hd
    rw [source, List.append_assoc, List.cons_append, heq] at hd
    obtain rfl : c = d := by simpa using hd
    exact hc

/-- A tail does not start with a blank character. -/
private theorem Tail.head_not_blank {t : Tail} (ht : t.Valid) :
    ∀ c ∈ t.source.head?, isBlank c = false := by
  intro c hc
  -- a tail starts with an at sign or with its selector
  cases t with
  | nothing => simp [source] at hc
  | atHead head =>
    obtain rfl : '@' = c := by simpa [source] using hc
    decide
  | atBlock head body =>
    obtain rfl : '@' = c := by simpa [source] using hc
    decide
  | selector text => exact (ht.2.1 c hc).1
  | block sel body =>
    obtain ⟨d, ds, heq, hd, -⟩ := ht.1.append body
    rw [source, heq] at hc
    obtain rfl : d = c := by simpa using hc
    exact hd

/-- What follows a maximal blank item does not start with a blank character. -/
private theorem head_not_blank_of_isChain {i : Item} {items : List Item} {t : Tail}
    (hitems : ∀ j ∈ items, j.Valid) (ht : t.Valid)
    (hchain : (i :: items).IsChain fun i j => ¬ (i.isBlankRun ∧ j.isBlankRun))
    (hi : i.isBlankRun = true) :
    ∀ c ∈ (items.flatMap Item.source ++ t.source).head?, isBlank c = false := by
  cases items with
  | nil => exact Tail.head_not_blank ht
  | cons j items =>
    have hj : j.isBlankRun = false := by
      have := (List.isChain_cons_cons.mp hchain).1
      simpa [hi] using this
    rw [List.flatMap_cons, List.append_assoc]
    exact Item.head_not_blank (hitems j (by simp)) hj _

/-! ## Reading pieces back -/

/-- A construct whose block has been read: an item if the block is closed, else a tail. -/
def BlockText.piece (item : List Char → Item) (tail : List Char → Tail) (b : BlockText) :
    Tail ⊕ Item × List Char :=
  if b.depth = 0 then .inr (item b.body, b.rest) else .inl (tail b.body)

/-- Reads an at-rule whose first character has been passed. -/
def readAtRule (cs : List Char) : Tail ⊕ Item × List Char :=
  match cut? ['{'] cs with
  | none => .inl (.atHead cs)
  | some (head, rest) => (readBlock rest).piece (.atRule head) (.atBlock head)

/-- Reads a style rule. -/
def readStyle (cs : List Char) : Tail ⊕ Item × List Char :=
  let t := readSelector cs
  if t.opened then (readBlock t.rest).piece (.style t.text) (.block t.text)
  else .inl (.selector t.text)

/-- Reads one piece of a layout: the tail, or an item and what follows it. -/
def readPiece : List Char → Tail ⊕ Item × List Char
  | [] => .inl .nothing
  | c :: cs =>
    if isBlank c then
      .inr (.blank ((c :: cs).takeWhile isBlank), (c :: cs).dropWhile isBlank)
    else if c = '@' then readAtRule cs
    else readStyle (c :: cs)

/-- A block that is closed makes an item. -/
theorem piece_readBlock_append {item : List Char → Item} {tail : List Char → Tail}
    {body : List Char} (h : Balanced body) (rest : List Char) :
    (readBlock (body ++ '}' :: rest)).piece item tail = .inr (item body, rest) := by
  rw [readBlock_append h]
  rfl

/-- A block that is not closed makes a tail. -/
theorem piece_readBlock_of_staysOpen {item : List Char → Item} {tail : List Char → Tail}
    {body : List Char} (h : StaysOpen 0 body) :
    (readBlock body).piece item tail = .inl (tail body) := by
  rw [readBlock_of_staysOpen h]
  rfl

/-- An at sign starts an at-rule. -/
private theorem readPiece_at (cs : List Char) : readPiece ('@' :: cs) = readAtRule cs := by
  rw [readPiece, if_neg (by decide), if_pos rfl]

/-- Anything that starts a selector starts a style rule. -/
private theorem readPiece_of_startsSelector {sel rest : List Char} (h : StartsSelector sel) :
    readPiece (sel ++ '{' :: rest) = readStyle (sel ++ '{' :: rest) := by
  obtain ⟨c, cs, heq, hc, hat⟩ := h.append rest
  rw [heq, readPiece, if_neg (by simp [hc]), if_neg hat]

/-- An item is read back, if it is not blank text that goes on. -/
theorem readPiece_item {i : Item} (hi : i.Valid) {rest : List Char}
    (hrest : i.isBlankRun = true → ∀ c ∈ rest.head?, isBlank c = false) :
    readPiece (i.source ++ rest) = .inr (i, rest) := by
  cases i with
  | blank text =>
    obtain ⟨hne, hblank⟩ := hi
    obtain ⟨c, cs, rfl⟩ := List.exists_cons_of_ne_nil hne
    -- the blank text ends where the item does
    have hdrop : rest.dropWhile isBlank = rest := by
      cases rest with
      | nil => rfl
      | cons d ds => rw [List.dropWhile_cons, hrest rfl d rfl]; rfl
    have htake : rest.takeWhile isBlank = [] := by
      cases rest with
      | nil => rfl
      | cons d ds => rw [List.takeWhile_cons, hrest rfl d rfl]; rfl
    rw [Item.source, List.cons_append, readPiece, if_pos (hblank c (by simp)), ← List.cons_append,
      List.takeWhile_append_of_pos hblank, List.dropWhile_append_of_pos hblank, hdrop, htake,
      List.append_nil]
  | atRule head body =>
    obtain ⟨hhead, hbody⟩ := hi
    have hcut : cut? ['{'] (head ++ '{' :: (body ++ '}' :: rest)) =
        some (head, body ++ '}' :: rest) := cut?_singleton_eq_some_iff.mpr ⟨rfl, hhead⟩
    simp only [Item.source, List.cons_append, List.append_assoc, List.nil_append]
    rw [readPiece_at, readAtRule, hcut]
    exact piece_readBlock_append hbody rest
  | style sel body =>
    obtain ⟨hstart, hsel, hbody⟩ := hi
    simp only [Item.source, List.cons_append, List.append_assoc, List.nil_append]
    rw [readPiece_of_startsSelector hstart, readStyle, readSelector_append hsel]
    exact piece_readBlock_append hbody rest

/-- A tail is read back. -/
theorem readPiece_tail {t : Tail} (ht : t.Valid) : readPiece t.source = .inl t := by
  -- tail by tail: what is cut off is read to the end
  cases t with
  | nothing => rfl
  | atHead head =>
    have hcut : cut? ['{'] head = none := cut?_singleton_eq_none_iff.mpr ht
    rw [Tail.source, readPiece_at, readAtRule, hcut]
  | atBlock head body =>
    obtain ⟨hhead, hbody⟩ := ht
    have hcut : cut? ['{'] (head ++ '{' :: body) = some (head, body) :=
      cut?_singleton_eq_some_iff.mpr ⟨rfl, hhead⟩
    rw [Tail.source, readPiece_at, readAtRule, hcut]
    exact piece_readBlock_of_staysOpen hbody
  | selector text =>
    obtain ⟨hne, hstart, hopen⟩ := ht
    obtain ⟨c, cs, rfl⟩ := List.exists_cons_of_ne_nil hne
    obtain ⟨hc, hat⟩ := hstart c rfl
    rw [Tail.source, readPiece, if_neg (by simp [hc]), if_neg hat, readStyle,
      readSelector_of_not_mem hopen]
    rfl
  | block sel body =>
    obtain ⟨hstart, hsel, hbody⟩ := ht
    rw [Tail.source, readPiece_of_startsSelector hstart, readStyle, readSelector_append hsel]
    exact piece_readBlock_of_staysOpen hbody

/-! ## Exactly one layout -/

namespace Layout.Describes

variable {i : Item} {items : List Item} {t : Tail} {cs : List Char}

/-- A layout without items is read as its tail. -/
private theorem readPiece_nil (h : (Layout.mk [] t).Describes cs) : readPiece cs = .inl t := by
  rw [← h.source_eq]
  exact readPiece_tail h.valid.2

/-- A layout is read as its first item and the text of the others. -/
private theorem readPiece_cons (h : (Layout.mk (i :: items) t).Describes cs) :
    readPiece cs = .inr (i, (Layout.mk items t).source) := by
  obtain ⟨hitems, ht⟩ := h.valid
  rw [← h.source_eq, source, List.flatMap_cons, List.append_assoc]
  exact readPiece_item (hitems i (by simp))
    (head_not_blank_of_isChain (fun j hj => hitems j (by simp [hj])) ht h.maximal)

/-- Behind its first item a layout is one of what is left of the text. -/
theorem rest (h : (Layout.mk (i :: items) t).Describes cs) :
    (Layout.mk items t).Describes (Layout.mk items t).source where
  valid := ⟨fun j hj => h.valid.1 j (by simp [hj]), h.valid.2⟩
  maximal := List.IsChain.of_cons h.maximal
  source_eq := rfl

/-- A text has at most one layout. -/
theorem unique {l l' : Layout} (h : l.Describes cs) (h' : l'.Describes cs) : l = l' := by
  obtain ⟨items, t⟩ := l
  obtain ⟨items', t'⟩ := l'
  -- `readPiece` tells from the text alone which piece comes first
  -- by induction on the items of one of them
  induction items generalizing items' cs with
  | nil =>
    cases items' with
    | nil => rw [Sum.inl.inj (h.readPiece_nil.symm.trans h'.readPiece_nil)]
    | cons i' items' => exact nomatch h.readPiece_nil.symm.trans h'.readPiece_cons
  | cons i items ih =>
    cases items' with
    | nil => exact nomatch h.readPiece_cons.symm.trans h'.readPiece_nil
    | cons i' items' =>
      have hread := Sum.inr.inj (h.readPiece_cons.symm.trans h'.readPiece_cons)
      obtain ⟨rfl, hrest⟩ := Prod.mk.inj hread
      obtain ⟨rfl, rfl⟩ := Layout.mk.inj (ih h.rest items' (hrest ▸ h'.rest))
      rfl

end Layout.Describes

/-- Every text is a tail or starts with an item, whose blank text does not go on. -/
private theorem piece_cases (cs : List Char) :
    (∃ t : Tail, t.Valid ∧ t.source = cs) ∨
      ∃ (i : Item) (rest : List Char), i.Valid ∧ i.source ++ rest = cs ∧
        (i.isBlankRun = true → ∀ c ∈ rest.head?, isBlank c = false) := by
  cases cs with
  | nil => exact .inl ⟨.nothing, trivial, rfl⟩
  | cons c cs =>
    -- blank text is taken as far as it goes
    by_cases hc : isBlank c = true
    · refine .inr ⟨.blank ((c :: cs).takeWhile isBlank), (c :: cs).dropWhile isBlank, ?_,
        List.takeWhile_append_dropWhile, ?_⟩
      · exact ⟨by simp [hc], fun d hd => List.all_eq_true.mp List.all_takeWhile d hd⟩
      · intro _ d hd
        have hdrop := List.head?_dropWhile_not isBlank (c :: cs)
        rw [Option.mem_def.mp hd] at hdrop
        exact hdrop
    · by_cases hat : c = '@'
      · -- an at-rule, as far as its head and its block go
        subst hat
        cases hcut : cut? ['{'] cs with
        | none =>
          exact .inl ⟨.atHead cs, cut?_singleton_eq_none_iff.mp hcut, rfl⟩
        | some p =>
          obtain ⟨head, inside⟩ := p
          obtain ⟨rfl, hhead⟩ := cut?_singleton_eq_some_iff.mp hcut
          rcases block_cases inside with ⟨body, rest, hbody, rfl⟩ | hopen
          · exact .inr ⟨.atRule head body, rest, ⟨hhead, hbody⟩, by simp [Item.source], nofun⟩
          · exact .inl ⟨.atBlock head inside, ⟨hhead, hopen⟩, rfl⟩
      · -- a style rule; its selector is empty when the text starts with a brace
        rcases selector_cases (c :: cs) with ⟨sel, inside, hsel, heq⟩ | hopen
        · have hstart : StartsSelector sel := by
            intro d hd
            obtain ⟨ds, rfl⟩ := List.head?_eq_some_iff.mp hd
            obtain rfl : c = d := (List.cons.inj heq).1
            exact ⟨by simpa using hc, hat⟩
          rw [heq]
          rcases block_cases inside with ⟨body, rest, hbody, rfl⟩ | hopen
          · exact .inr ⟨.style sel body, rest, ⟨hstart, hsel, hbody⟩, by simp [Item.source], nofun⟩
          · exact .inl ⟨.block sel inside, ⟨hstart, hsel, hopen⟩, rfl⟩
        · refine .inl ⟨.selector (c :: cs), ⟨by simp, ?_, hopen⟩, rfl⟩
          intro d hd
          obtain rfl : c = d := by simpa using hd
          exact ⟨by simpa using hc, hat⟩

/-- An item is not empty. -/
theorem Item.source_ne_nil {i : Item} (hi : i.Valid) : i.source ≠ [] := by
  cases i with
  | blank text => exact hi.1
  | atRule head body => simp [source]
  | style sel body => simp [source]

/-- An item in front of a text goes in front of its layout, unless two blank items meet. -/
theorem Layout.Describes.cons {i : Item} {l : Layout} {rest : List Char} (h : l.Describes rest)
    (hi : i.Valid) (hend : i.isBlankRun = true → ∀ c ∈ rest.head?, isBlank c = false) :
    (Layout.mk (i :: l.items) l.tail).Describes (i.source ++ rest) where
  valid := ⟨List.forall_mem_cons.mpr ⟨hi, h.valid.1⟩, h.valid.2⟩
  maximal := by
    -- only the first two items have to be looked at
    obtain ⟨items, t⟩ := l
    cases items with
    | nil => exact .singleton i
    | cons j items =>
      refine List.isChain_cons_cons.mpr ⟨?_, h.maximal⟩
      rintro ⟨hib, hjb⟩
      have hj : j.Valid := h.valid.1 j (by simp)
      cases j with
      | blank text =>
        -- the text behind the first item would start with a blank character
        obtain ⟨c, cs, rfl⟩ := List.exists_cons_of_ne_nil hj.1
        have hc := hend hib c (by rw [← h.source_eq]; rfl)
        rw [hj.2 c (by simp)] at hc
        exact absurd hc (by decide)
      | atRule head body => simp [Item.isBlankRun] at hjb
      | style sel body => simp [Item.isBlankRun] at hjb
  source_eq := by
    rw [source, List.flatMap_cons, List.append_assoc, ← h.source_eq]
    rfl

/-- Every text has a layout. -/
theorem exists_layout (cs : List Char) : ∃ l : Layout, l.Describes cs := by
  rcases piece_cases cs with ⟨t, ht, hsrc⟩ | ⟨i, rest, hi, hsrc, hend⟩
  · exact ⟨⟨[], t⟩, ⟨by simp, ht⟩, .nil, hsrc⟩
  -- an item takes at least one character
  · have hlt : rest.length < cs.length := by
      have := List.length_pos_iff.mpr (Item.source_ne_nil hi)
      rw [← hsrc, List.length_append]
      omega
    obtain ⟨l, hl⟩ := exists_layout rest
    exact ⟨_, hsrc ▸ hl.cons hi hend⟩
termination_by cs.length

end SheetAudit.Stylesheet

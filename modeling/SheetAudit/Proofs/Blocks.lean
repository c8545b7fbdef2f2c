import Mathlib.Data.List.Infix
import SheetAudit.Stylesheet.Scanner

/-!
# Selectors and blocks as they are read

`readSelector` stops at the first opening brace that no backslash takes with it, `readBlock` at the
brace that closes the block.  Both are described here by what they read and not by how: selector
text by its unescaped characters, block text by the braces of its prefixes.

## Key results

- `readSelector_append` / `readSelector_of_not_mem`: selector text with and without its brace
- `readBlock_append` / `readBlock_of_staysOpen`: block text that is closed and that is not
- `selector_cases` / `block_cases`: every text is of one of the two kinds
-/

namespace SheetAudit.Stylesheet

/-! ## Selector text -/

/-- The characters of selector text that stand for themselves: each backslash is dropped with the
    character that it takes, and one that has nothing to take stays. -/
def unescaped : List Char → List Char
  | [] => []
  | '\\' :: _ :: cs => unescaped cs
  | c :: cs => c :: unescaped cs

/-- Whether text is a whole selector: it holds no brace that opens a block, and its last backslash
    does not take what follows the text. -/
def IsSelector (sel : List Char) : Prop :=
  '{' ∉ unescaped sel ∧ '\\' ∉ unescaped sel

instance (sel : List Char) : Decidable (IsSelector sel) :=
  inferInstanceAs (Decidable (_ ∧ _))

/-- A character that is not a backslash with something to take stands for itself. -/
theorem unescaped_cons {c : Char} {cs : List Char} (h : ∀ d ds, c = '\\' → cs = d :: ds → False) :
    unescaped (c :: cs) = c :: unescaped cs := by
  rw [unescaped]
  exact h

/-- Text behind a whole selector keeps its escapes. -/
theorem unescaped_append {u : List Char} (hu : '\\' ∉ unescaped u) (v : List Char) :
    unescaped (u ++ v) = unescaped u ++ unescaped v := by
  -- by the recursion of `unescaped`, which takes a backslash with the next character
  induction u using unescaped.induct with
  | case1 => rfl
  | case2 c cs ih =>
    simp only [unescaped] at hu
    simp only [List.cons_append, unescaped]
    exact ih hu
  | case3 c cs hne ih =>
    rw [unescaped_cons hne, List.mem_cons, not_or] at hu
    -- `c` is no backslash, not even a last one that would take the first character of `v`
    rw [unescaped_cons hne, List.cons_append, List.cons_append,
      unescaped_cons fun _ _ hc _ => hu.1 hc.symm, ih hu.2]

/-- A character that is not escaped ends the selector if it is an opening brace, and joins it if
not. -/
private theorem readSelectorFrom_cons {taken : List Char} {c : Char} {cs : List Char}
    (h : ∀ d ds, c = '\\' → cs = d :: ds → False) :
    readSelectorFrom taken (c :: cs) =
      if c = '{' then ⟨taken.reverse, true, cs⟩ else readSelectorFrom (c :: taken) cs := by
  rw [readSelectorFrom]
  exact h

/-- A selector with an opening brace behind it joins what was read before. -/
theorem readSelectorFrom_append (taken : List Char) {sel : List Char} (h : IsSelector sel)
    (rest : List Char) :
    readSelectorFrom taken (sel ++ '{' :: rest) = ⟨taken.reverse ++ sel, true, rest⟩ := by
  obtain ⟨hbrace, hslash⟩ := h
  -- the reader takes an escape in one step, as `unescaped` drops it
  induction sel using unescaped.induct generalizing taken with
  | case1 => simp [readSelectorFrom]
  | case2 c cs ih =>
    simp only [unescaped] at hbrace hslash
    simp only [List.cons_append, readSelectorFrom]
    rw [ih _ hbrace hslash]
    simp
  | case3 c cs hne ih =>
    rw [unescaped_cons hne, List.mem_cons, not_or] at hbrace hslash
    rw [List.cons_append, readSelectorFrom_cons fun _ _ hc _ => hslash.1 hc.symm,
      if_neg (Ne.symm hbrace.1), ih _ hbrace.2 hslash.2]
    simp

/-- Text without an unescaped opening brace joins what was read before, up to its end. -/
private theorem readSelectorFrom_of_not_mem (taken : List Char) {cs : List Char}
    (h : '{' ∉ unescaped cs) : readSelectorFrom taken cs = ⟨taken.reverse ++ cs, false, []⟩ := by
  -- as with a brace behind it, but the reader ends with the text
  induction cs using unescaped.induct generalizing taken with
  | case1 => simp [readSelectorFrom]
  | case2 c cs ih =>
    simp only [unescaped] at h
    simp only [readSelectorFrom]
    rw [ih _ h]
    simp
  | case3 c cs hne ih =>
    rw [unescaped_cons hne, List.mem_cons, not_or] at h
    rw [readSelectorFrom_cons hne, if_neg (Ne.symm h.1), ih _ h.2]
    simp

/-- A selector with an opening brace behind it is read up to that brace. -/
theorem readSelector_append {sel : List Char} (h : IsSelector sel) (rest : List Char) :
    readSelector (sel ++ '{' :: rest) = ⟨sel, true, rest⟩ :=
  readSelectorFrom_append [] h rest

/-- Text without an unescaped opening brace is read to its end. -/
theorem readSelector_of_not_mem {cs : List Char} (h : '{' ∉ unescaped cs) :
    readSelector cs = ⟨cs, false, []⟩ :=
  readSelectorFrom_of_not_mem [] h

/-- Every text starts with a selector and an opening brace, or has no unescaped opening brace. -/
theorem selector_cases (cs : List Char) :
    (∃ sel rest, IsSelector sel ∧ cs = sel ++ '{' :: rest) ∨ '{' ∉ unescaped cs := by
  -- the first brace that `unescaped` leaves is the one that ends the selector
  induction cs using unescaped.induct with
  | case1 => simp [unescaped]
  | case2 c cs ih =>
    rcases ih with ⟨sel, rest, hsel, rfl⟩ | h
    · exact .inl ⟨'\\' :: c :: sel, rest, hsel, rfl⟩
    · exact .inr h
  | case3 c cs hne ih =>
    by_cases hb : c = '{'
    · exact .inl ⟨[], cs, by simp [IsSelector, unescaped], by rw [hb]; rfl⟩
    · rcases ih with ⟨sel, rest, hsel, rfl⟩ | h
      · -- the backslash would have something to take
        have hslash : c ≠ '\\' := by
          intro hc
          cases sel with
          | nil => exact hne _ _ hc rfl
          | cons d ds => exact hne _ _ hc rfl
        have hu : unescaped (c :: sel) = c :: unescaped sel :=
          unescaped_cons fun _ _ hc _ => hslash hc
        refine .inl ⟨c :: sel, rest, ?_, rfl⟩
        rw [IsSelector, hu, List.mem_cons, List.mem_cons]
        exact ⟨by simp [Ne.symm hb, hsel.1], by simp [Ne.symm hslash, hsel.2]⟩
      · right
        rw [unescaped_cons hne, List.mem_cons, not_or]
        exact ⟨Ne.symm hb, h⟩

/-! ## Block text -/

/-- Text that leaves a block open which has `inner` braces open inside: no prefix of it closes more
    braces than are open. -/
def StaysOpen (inner : Nat) (cs : List Char) : Prop :=
  ∀ p, p <+: cs → p.count '}' ≤ inner + p.count '{'

/-- Text in which every brace has its partner. -/
def Balanced (cs : List Char) : Prop :=
  StaysOpen 0 cs ∧ cs.count '{' = cs.count '}'

instance (inner : Nat) (cs : List Char) : Decidable (StaysOpen inner cs) :=
  decidable_of_iff (∀ p ∈ cs.inits, p.count '}' ≤ inner + p.count '{') <| by
    simp only [StaysOpen, List.mem_inits]

instance (cs : List Char) : Decidable (Balanced cs) :=
  inferInstanceAs (Decidable (_ ∧ _))

/-- The empty text closes nothing. -/
theorem staysOpen_nil (inner : Nat) : StaysOpen inner [] := by
  intro p hp
  rw [List.prefix_nil.mp hp]
  exact Nat.zero_le _

/-- Prefixes of a text with one more character in front. -/
private theorem forall_prefix_cons {c : Char} {cs : List Char} {P : List Char → Prop}
    (hnil : P []) : (∀ p, p <+: c :: cs → P p) ↔ ∀ p, p <+: cs → P (c :: p) := by
  constructor
  · intro h p hp
    exact h (c :: p) (List.prefix_cons_inj c |>.mpr hp)
  · intro h p hp
    rcases List.prefix_cons_iff.mp hp with rfl | ⟨q, rfl, hq⟩
    · exact hnil
    · exact h q hq

/-- Behind an opening brace one more is open. -/
private theorem staysOpen_open_cons {inner : Nat} {cs : List Char} :
    StaysOpen inner ('{' :: cs) ↔ StaysOpen (inner + 1) cs := by
  rw [StaysOpen, forall_prefix_cons (by simp), StaysOpen]
  refine forall_congr' fun p => imp_congr_right fun _ => ?_
  rw [List.count_cons_self, List.count_cons_of_ne (by decide)]
  omega

/-- A closing brace needs one that is open, and closes it. -/
private theorem staysOpen_close_cons {inner : Nat} {cs : List Char} :
    StaysOpen inner ('}' :: cs) ↔ ∃ n, inner = n + 1 ∧ StaysOpen n cs := by
  rw [StaysOpen, forall_prefix_cons (by simp)]
  constructor
  · intro h
    -- the brace alone is a prefix, so that one must be open
    have h₀ := h [] List.nil_prefix
    obtain ⟨n, rfl⟩ : ∃ n, inner = n + 1 := Nat.exists_eq_succ_of_ne_zero (by simp at h₀; omega)
    refine ⟨n, rfl, fun p hp => ?_⟩
    have hp := h p hp
    rw [List.count_cons_self, List.count_cons_of_ne (by decide)] at hp
    omega
  · rintro ⟨n, rfl, h⟩ p hp
    have hp := h p hp
    rw [List.count_cons_self, List.count_cons_of_ne (by decide)]
    omega

/-- Any other character opens and closes nothing. -/
private theorem staysOpen_cons_of_ne {inner : Nat} {c : Char} {cs : List Char} (ho : c ≠ '{')
    (hc : c ≠ '}') : StaysOpen inner (c :: cs) ↔ StaysOpen inner cs := by
  rw [StaysOpen, forall_prefix_cons (by simp), StaysOpen]
  refine forall_congr' fun p => imp_congr_right fun _ => ?_
  rw [List.count_cons_of_ne ho, List.count_cons_of_ne hc]

/-- Text behind a block that stays open, which finds as many braces open as the block leaves. -/
theorem StaysOpen.append {inner : Nat} {a b : List Char} (ha : StaysOpen inner a)
    (hb : StaysOpen (inner + a.count '{' - a.count '}') b) : StaysOpen inner (a ++ b) := by
  intro p hp
  have hle := ha a (List.prefix_refl a)
  -- a prefix of the whole ends inside `a` or goes on into `b`
  rcases List.prefix_or_prefix_of_prefix hp (List.prefix_append a b) with hp' | ⟨q, rfl⟩
  · exact ha p hp'
  · have := hb q ((List.prefix_append_right_inj a).mp hp)
    rw [List.count_append, List.count_append]
    omega

/-- Two balanced texts are balanced together. -/
theorem Balanced.append {a b : List Char} (ha : Balanced a) (hb : Balanced b) :
    Balanced (a ++ b) := by
  refine ⟨ha.1.append ?_, ?_⟩
  · rw [ha.2, Nat.zero_add, Nat.sub_self]
    exact hb.1
  · rw [List.count_append, List.count_append, ha.2, hb.2]

/-- An opening brace joins the block and is counted. -/
private theorem readBlockFrom_open_cons (inner : Nat) (taken cs : List Char) :
    readBlockFrom inner taken ('{' :: cs) = readBlockFrom (inner + 1) ('{' :: taken) cs := by
  rw [readBlockFrom.eq_def]
  rfl

/-- A closing brace of an inner block joins the block and is counted. -/
private theorem readBlockFrom_close_cons (inner : Nat) (taken cs : List Char) :
    readBlockFrom (inner + 1) taken ('}' :: cs) = readBlockFrom inner ('}' :: taken) cs := by
  rw [readBlockFrom.eq_def]
  rfl

/-- Any other character joins the block. -/
private theorem readBlockFrom_cons_of_ne {c : Char} (ho : c ≠ '{') (hc : c ≠ '}') (inner : Nat)
    (taken cs : List Char) :
    readBlockFrom inner taken (c :: cs) = readBlockFrom inner (c :: taken) cs := by
  rw [readBlockFrom.eq_def]
  simp only [if_neg ho, if_neg hc]

/-- Text that leaves the block open is passed over, and only the number of open braces changes. -/
theorem readBlockFrom_append {inner : Nat} {b : List Char} (h : StaysOpen inner b)
    (taken rest : List Char) :
    readBlockFrom inner taken (b ++ rest) =
      readBlockFrom (inner + b.count '{' - b.count '}') (b.reverse ++ taken) rest := by
  -- over the text passed; `inner` and `taken` are the reader's accumulators
  induction b generalizing inner taken with
  | nil => simp
  | cons c b ih =>
    by_cases ho : c = '{'
    · subst ho
      rw [staysOpen_open_cons] at h
      rw [List.cons_append, readBlockFrom_open_cons, ih h, List.count_cons_self,
        List.count_cons_of_ne (by decide)]
      rw [show inner + 1 + b.count '{' = inner + (b.count '{' + 1) by omega]
      simp
    · by_cases hc : c = '}'
      · subst hc
        obtain ⟨n, rfl, hn⟩ := staysOpen_close_cons.mp h
        rw [List.cons_append, readBlockFrom_close_cons, ih hn, List.count_cons_self,
          List.count_cons_of_ne (by decide)]
        simp [Nat.add_right_comm]
      · rw [staysOpen_cons_of_ne ho hc] at h
        rw [List.cons_append, readBlockFrom_cons_of_ne ho hc, ih h, List.count_cons_of_ne ho,
          List.count_cons_of_ne hc]
        simp

/-- A balanced block with a closing brace behind it is read up to that brace. -/
theorem readBlock_append {b : List Char} (h : Balanced b) (rest : List Char) :
    readBlock (b ++ '}' :: rest) = ⟨b, 0, rest⟩ := by
  rw [readBlock, readBlockFrom_append h.1, h.2]
  simp [readBlockFrom]

/-- A block that is left open is read to the end of the text. -/
theorem readBlock_of_staysOpen {b : List Char} (h : StaysOpen 0 b) :
    readBlock b = ⟨b, b.count '{' - b.count '}' + 1, []⟩ := by
  have := readBlockFrom_append h [] []
  simpa [readBlock, readBlockFrom] using this

/-- Text behind an open block leaves it open or has a first brace that closes it. -/
theorem staysOpen_or_closes (inner : Nat) (cs : List Char) :
    StaysOpen inner cs ∨ ∃ b rest, cs = b ++ '}' :: rest ∧ StaysOpen inner b ∧
      inner + b.count '{' = b.count '}' := by
  -- by induction on the text, with the braces that are open before it
  induction cs generalizing inner with
  | nil => exact .inl (staysOpen_nil inner)
  | cons c cs ih =>
    by_cases ho : c = '{'
    · subst ho
      rcases ih (inner + 1) with h | ⟨b, rest, rfl, h, hcount⟩
      · exact .inl (staysOpen_open_cons.mpr h)
      · refine .inr ⟨'{' :: b, rest, rfl, staysOpen_open_cons.mpr h, ?_⟩
        rw [List.count_cons_self, List.count_cons_of_ne (by decide)]
        omega
    · by_cases hc : c = '}'
      · subst hc
        cases inner with
        | zero =>
          -- nothing is open inside: this is the brace that closes the block
          exact .inr ⟨[], cs, rfl, staysOpen_nil 0, rfl⟩
        | succ n =>
          rcases ih n with h | ⟨b, rest, rfl, h, hcount⟩
          · exact .inl (staysOpen_close_cons.mpr ⟨n, rfl, h⟩)
          · refine .inr ⟨'}' :: b, rest, rfl, staysOpen_close_cons.mpr ⟨n, rfl, h⟩, ?_⟩
            rw [List.count_cons_self, List.count_cons_of_ne (by decide)]
            omega
      · rcases ih inner with h | ⟨b, rest, rfl, h, hcount⟩
        · exact .inl ((staysOpen_cons_of_ne ho hc).mpr h)
        · refine .inr ⟨c :: b, rest, rfl, (staysOpen_cons_of_ne ho hc).mpr h, ?_⟩
          rw [List.count_cons_of_ne ho, List.count_cons_of_ne hc]
          exact hcount

/-- Every text starts with a balanced block and a closing brace, or leaves the block open. -/
theorem block_cases (cs : List Char) :
    (∃ b rest, Balanced b ∧ cs = b ++ '}' :: rest) ∨ StaysOpen 0 cs := by
  rcases staysOpen_or_closes 0 cs with h | ⟨b, rest, rfl, h, hcount⟩
  · exact .inr h
  · exact .inl ⟨b, rest, ⟨h, by omega⟩, rfl⟩

end SheetAudit.Stylesheet

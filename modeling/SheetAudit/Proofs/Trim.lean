import Mathlib.Logic.Basic
import SheetAudit.Text.Blank

/-!
# Trimming

`trim` drops blank characters from the two ends of a text: first from the left, then, through the
reversed text, from the right.

## Key results

- `trim_cons`: text that starts with a character that is not blank keeps it
- `trim_append_blank` / `trim_blank_append`: blank text at an end is lost
- `trim_of_trimmed`: text that is trimmed already stays as it is
- `trim_isInfix` / `trimmed_trim`: trimming leaves a piece of the text that is trimmed
-/

namespace SheetAudit.Text

/-- Text without a blank character at either end. -/
def Trimmed (cs : List Char) : Prop :=
  (∀ c ∈ cs.head?, isBlank c = false) ∧ ∀ c ∈ cs.getLast?, isBlank c = false

instance (cs : List Char) : Decidable (Trimmed cs) :=
  decidable_of_iff (cs.head?.all (!isBlank ·) ∧ cs.getLast?.all (!isBlank ·)) <| by
    simp [Trimmed, Option.all_eq_true]

/-- Nothing is left of an empty text. -/
@[simp] theorem trim_nil : trim [] = [] := rfl

/-- The left end stays when its character is not blank. -/
theorem trimLeft_of_head {cs : List Char} (h : ∀ c ∈ cs.head?, isBlank c = false) :
    trimLeft cs = cs := by
  cases cs with
  | nil => rfl
  | cons c cs => rw [trimLeft, List.dropWhile_cons, h c rfl]; rfl

/-- The right end stays when its character is not blank. -/
private theorem trimRight_of_getLast {cs : List Char} (h : ∀ c ∈ cs.getLast?, isBlank c = false) :
    trimRight cs = cs := by
  -- the right end of the text is the left end of the reversed one
  have hrev : ∀ c ∈ cs.reverse.head?, isBlank c = false := by
    rwa [List.head?_reverse]
  have := trimLeft_of_head hrev
  rw [trimLeft] at this
  rw [trimRight, this, List.reverse_reverse]

/-- Trimming the right end never reaches a first character that is not blank. -/
private theorem trimRight_cons {c : Char} (hc : isBlank c = false) (cs : List Char) :
    trimRight (c :: cs) = c :: trimRight cs := by
  rw [trimRight, trimRight, List.reverse_cons, List.dropWhile_append]
  -- in the reversed text `c` comes last, behind `cs` that is blank or is not
  split
  · next h =>
    rw [List.isEmpty_iff.mp h, List.dropWhile_cons, hc]
    rfl
  · rw [List.reverse_append]
    rfl

/-- Text that starts with a character that is not blank keeps it. -/
theorem trim_cons {c : Char} (hc : isBlank c = false) (cs : List Char) :
    trim (c :: cs) = c :: trimRight cs := by
  have hhead : ∀ d ∈ (c :: cs).head?, isBlank d = false := by
    intro d hd
    obtain rfl : c = d := by simpa using hd
    exact hc
  rw [trim, trimLeft_of_head hhead, trimRight_cons hc]

/-- Text that is trimmed already stays as it is. -/
theorem trim_of_trimmed {cs : List Char} (h : Trimmed cs) : trim cs = cs := by
  rw [trim, trimLeft_of_head h.1, trimRight_of_getLast h.2]

/-- Blanks in front of a text are lost. -/
theorem trim_blank_append {w : List Char} (hw : ∀ c ∈ w, isBlank c = true) (cs : List Char) :
    trim (w ++ cs) = trim cs := by
  rw [trim, trimLeft, List.dropWhile_append_of_pos hw]
  rfl

/-- Blanks behind a text are lost when its right end is trimmed. -/
theorem trimRight_append_blank (cs : List Char) {w : List Char}
    (hw : ∀ c ∈ w, isBlank c = true) : trimRight (cs ++ w) = trimRight cs := by
  rw [trimRight, List.reverse_append, List.dropWhile_append_of_pos (by simpa using hw)]
  rfl

/-- Blanks behind a text that starts with another character are lost. -/
theorem trim_append_blank {cs : List Char} (h : ∀ c ∈ cs.head?, isBlank c = false)
    {w : List Char} (hw : ∀ c ∈ w, isBlank c = true) : trim (cs ++ w) = trim cs := by
  -- of an empty text and blanks nothing is left
  cases cs with
  | nil => simpa using trim_blank_append hw []
  | cons c cs =>
    rw [List.cons_append, trim_cons (h c rfl), trim_cons (h c rfl), trimRight_append_blank cs hw]

/-- Only the right end is cut after the left one. -/
private theorem trim_prefix_trimLeft (cs : List Char) : trim cs <+: trimLeft cs := by
  rw [trim, trimRight, ← List.reverse_suffix, List.reverse_reverse]
  exact List.dropWhile_suffix _

/-- What trimming leaves is a piece of the text. -/
theorem trim_isInfix (cs : List Char) : trim cs <:+: cs :=
  (trim_prefix_trimLeft cs).isInfix.trans (List.dropWhile_suffix _).isInfix

/-- Trimming leaves no blank character at either end. -/
theorem trimmed_trim (cs : List Char) : Trimmed (trim cs) := by
  constructor
  · intro c hc
    -- the first character that is left stays the first when the right end is cut
    have hhead : (trimLeft cs).head? = some c := by
      obtain ⟨w, hw⟩ := trim_prefix_trimLeft cs
      rw [← hw, List.head?_append, hc]
      rfl
    have hstop := List.head?_dropWhile_not isBlank cs
    rw [← trimLeft, hhead] at hstop
    exact hstop
  · intro c hc
    rw [trim, trimRight, List.getLast?_reverse] at hc
    have hstop := List.head?_dropWhile_not isBlank (trimLeft cs).reverse
    rw [Option.mem_def.mp hc] at hstop
    exact hstop

end SheetAudit.Text

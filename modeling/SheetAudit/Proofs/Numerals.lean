import SheetAudit.Proofs.Cut

/-!
# Numbers in texts

The text of a number has digits, and a dash in front of them if the number is negative.  Any other
character ends a number, so that it can be read back from a sentence.

## Key results

- `notMem_toString_int`: what is not in the text of a number
- `numeral?_toString`: a number is read back from its text
- `readBefore?_append`: a number in front of a mark is read back
-/

namespace SheetAudit.Text

variable {c : Char}

/-- A natural number is written with digits. -/
private theorem isDigit_of_mem_toString_nat {n : Nat} (h : c ∈ (toString n).toList) :
    c.isDigit = true := by
  rw [Nat.toString_eq_repr, Nat.toList_repr] at h
  exact Nat.isDigit_of_mem_toDigits (by decide) (by decide) h

/-- An integer is written with digits and a dash. -/
theorem isDigit_or_eq_dash_of_mem_toString_int {n : Int} (h : c ∈ (toString n).toList) :
    c.isDigit = true ∨ c = '-' := by
  rw [Int.toString_eq_repr, Int.repr_eq_if] at h
  split at h
  · exact .inl (isDigit_of_mem_toString_nat h)
  · rw [String.toList_append, List.mem_append] at h
    -- h | a negative number is a dash and the text of a natural number
    rcases h with h | h
    · exact .inr (by simpa using h)
    · exact .inl (isDigit_of_mem_toString_nat h)

/-- A number is written without any character that is not a digit or a dash. -/
theorem notMem_toString_int (hdigit : c.isDigit = false) (hdash : c ≠ '-') (n : Int) :
    c ∉ (toString n).toList := by
  intro h
  rcases isDigit_or_eq_dash_of_mem_toString_int h with h | h
  · rw [h] at hdigit
    cases hdigit
  · exact hdash h

/-- The number that a numeral stands for: decimal digits, perhaps behind a dash. -/
def numeral? (cs : List Char) : Option Int :=
  let negative := cs.head? == some '-'
  let digits := if negative then cs.tail else cs
  if digits.isEmpty || !digits.all (·.isDigit) then none
  else
    let size : Int := Nat.ofDigitChars 10 digits 0
    some (if negative then -size else size)

/-- Digits are a numeral, with and without a dash in front of them. -/
theorem numeral?_digits {digits : List Char} (hne : digits ≠ [])
    (hdigits : digits.all (·.isDigit) = true) :
    numeral? digits = some (Nat.ofDigitChars 10 digits 0 : Int) ∧
      numeral? ('-' :: digits) = some (-(Nat.ofDigitChars 10 digits 0 : Int)) := by
  obtain ⟨c, cs, rfl⟩ := List.exists_cons_of_ne_nil hne
  -- the first character is a digit, so it is no dash
  have hc : (some c == some '-') = false := by
    rw [beq_eq_false_iff_ne, ne_eq, Option.some_inj]
    rintro rfl
    cases hdigits
  constructor
  · simp only [numeral?, List.head?_cons, hc, Bool.false_eq_true, if_false, hdigits]
    rfl
  · simp only [numeral?, List.head?_cons, List.tail_cons, beq_self_eq_true, if_true, hdigits]
    rfl

/-- A number is read back from its text. -/
theorem numeral?_toString (n : Int) : numeral? (toString n).toList = some n := by
  -- first for natural numbers, with and without a dash
  have hread : ∀ m : Nat, numeral? m.repr.toList = some (m : Int) ∧
      numeral? ('-' :: m.repr.toList) = some (-(m : Int)) := by
    intro m
    have hdigits : m.repr.toList.all (·.isDigit) = true := by
      rw [List.all_eq_true, ← Nat.toString_eq_repr]
      exact fun c hc => isDigit_of_mem_toString_nat hc
    rw [Nat.toList_repr] at hdigits ⊢
    have hnumeral := numeral?_digits Nat.toDigits_ne_nil hdigits
    rwa [Nat.ofDigitChars_ten_toDigits] at hnumeral
  rw [Int.toString_eq_repr, Int.repr_eq_if]
  split
  · next hnonneg => rw [(hread n.toNat).1, Int.toNat_of_nonneg hnonneg]
  · next hneg =>
    have hpositive : 0 ≤ -n := by omega
    rw [String.toList_append]
    exact (hread (-n).toNat).2.trans (by rw [Int.toNat_of_nonneg hpositive, Int.neg_neg])

/-- The number in front of a mark, and the text behind the mark. -/
def readBefore? (mark : Char) (cs : List Char) : Option (Int × List Char) := do
  let (numeral, rest) ← cut? [mark] cs
  return (← numeral? numeral, rest)

/-- Without the mark there is no number in front of it. -/
theorem readBefore?_of_notMem {cs : List Char} (h : c ∉ cs) : readBefore? c cs = none := by
  rw [readBefore?, cut?_singleton_eq_none_iff.mpr h]
  rfl

/-- A number in front of a mark that is neither a digit nor a dash is read back. -/
theorem readBefore?_append (hdigit : c.isDigit = false) (hdash : c ≠ '-') (n : Int)
    (rest : List Char) : readBefore? c ((toString n).toList ++ c :: rest) = some (n, rest) := by
  have hcut : cut? [c] ((toString n).toList ++ c :: rest) = some ((toString n).toList, rest) :=
    cut?_singleton_eq_some_iff.mpr ⟨rfl, notMem_toString_int hdigit hdash n⟩
  simp only [readBefore?, hcut, Option.bind_eq_bind, Option.bind_some, numeral?_toString]
  rfl

end SheetAudit.Text

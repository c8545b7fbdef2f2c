import SheetAudit.Text.Word

/-!
# The ASCII form of a label

A label with letters beyond ASCII has an ASCII form: its ASCII letters, followed by digits that say,
in increasing order of code points, where which other letters go.  `encodeLabel` writes this form
and `decodeLabel?` reads it.
-/

namespace SheetAudit.Url

open SheetAudit.Text

/-- The character for a digit in base thirty-six. -/
def baseDigit (d : Nat) : Char :=
  if d < 26 then Char.ofNat (97 + d) else Char.ofNat (22 + d)

/-- The threshold of the digit at a place. -/
def threshold (place bias : Nat) : Nat :=
  if place ≤ bias then 1 else if bias + 26 ≤ place then 26 else place - bias

/-- Divides by thirty-five until the rest is small; counts the divisions in steps of thirty-six. -/
def shrink (delta steps : Nat) : Nat × Nat :=
  if h : 455 < delta then
    have : delta / 35 < delta := Nat.div_lt_self (by omega) (by omega)
    shrink (delta / 35) (steps + 36)
  else (delta, steps)
termination_by delta

/-- The bias after a letter has been placed. -/
def adapt (delta count : Nat) (isFirst : Bool) : Nat :=
  let start := if isFirst then delta / 700 else delta / 2
  let (rest, steps) := shrink (start + start / count) 0
  steps + 36 * rest / (rest + 38)

/-- A threshold lies between one and twenty-six. -/
theorem threshold_bounds (place bias : Nat) :
    1 ≤ threshold place bias ∧ threshold place bias ≤ 26 := by
  unfold threshold
  split
  · omega
  · split <;> omega

/-- The digits of a distance. -/
def distanceDigits (bias place n : Nat) : List Char :=
  let t := threshold place bias
  if h : n < t then [baseDigit n]
  else
    have : (n - t) / (36 - t) < n := by
      have := threshold_bounds place bias
      have h₁ : (n - t) / (36 - t) ≤ n - t := Nat.div_le_self _ _
      omega
    baseDigit (t + (n - t) % (36 - t)) :: distanceDigits bias (place + 36) ((n - t) / (36 - t))
termination_by n

/-- The state of placing letters. -/
structure Placing where
  /-- The distance walked since the last letter was placed. -/
  delta : Nat
  /-- The bias. -/
  bias : Nat
  /-- The number of letters placed. -/
  placed : Nat
  /-- Whether no letter has been placed yet. -/
  isFirst : Bool
  /-- The digits written. -/
  out : List Char

/-- Walks through a label and places every letter with a code point. -/
def placeLetter (code : Nat) (p : Placing) (c : Char) : Placing :=
  if c.toNat < code then { p with delta := p.delta + 1 }
  else if c.toNat = code then
    { delta := 0, bias := adapt p.delta (p.placed + 1) p.isFirst, placed := p.placed + 1,
      isFirst := false, out := p.out ++ distanceDigits p.bias 36 p.delta }
  else p

/-- The ASCII form of a label that is not ASCII, without its mark. -/
def encodeLabel (label : List Char) : List Char :=
  let ascii := label.filter (·.toNat < 128)
  let codes := ((label.filter (128 ≤ ·.toNat)).map (·.toNat)).eraseDups.mergeSort
  let start : Placing :=
    { delta := 0, bias := 72, placed := ascii.length, isFirst := true,
      out := if ascii.isEmpty then [] else ascii ++ ['-'] }
  let (_, final) := codes.foldl (fun (next, p) code =>
    let p := { p with delta := p.delta + (code - next) * (p.placed + 1) }
    let p := label.foldl (placeLetter code) p
    (code + 1, { p with delta := p.delta + 1 })) (128, start)
  final.out

/-! ## Reading the ASCII form -/

/-- The value of a digit in base thirty-six. -/
def baseValue? (c : Char) : Option Nat :=
  if 'a' ≤ c && c ≤ 'z' then some (c.toNat - 97)
  else if isDigit c then some (c.toNat - 22)
  else none

/-- Reads a distance from its digits, and gives the text behind them.  `weight` is the worth of the
next digit and `total` that of the digits read. -/
def readDistance? (bias place weight total : Nat) : List Char → Option (Nat × List Char)
  | [] => none
  | c :: cs =>
    match baseValue? c with
    | none => none
    | some d =>
      let t := threshold place bias
      if d < t then some (total + d * weight, cs)
      else readDistance? bias (place + 36) (weight * (36 - t)) (total + d * weight) cs

/-- A distance takes at least one digit. -/
theorem length_readDistance? {bias place weight total n : Nat} {cs rest : List Char}
    (h : readDistance? bias place weight total cs = some (n, rest)) : rest.length < cs.length := by
  fun_induction readDistance? bias place weight total cs with
  | case1 => simp at h
  | case2 => simp at h
  | case3 =>
    simp only [Option.some.injEq, Prod.mk.injEq] at h
    simp [h.2]
  | case4 _ _ _ _ _ _ _ _ _ ih =>
    have := ih h
    simp only [List.length_cons]
    omega

/-- Puts the letters in that digits describe.  `code` is the code point of the last letter and
`position` where the next one can stand at the earliest. -/
def insertLetters? (label : List Char) (code position bias : Nat) (isFirst : Bool)
    (digits : List Char) : Option (List Char) :=
  match digits with
  | [] => some label
  | c :: cs =>
    match _h : readDistance? bias 36 1 0 (c :: cs) with
    | none => none
    | some (distance, rest) =>
      let places := label.length + 1
      let target := position + distance
      let code := code + target / places
      if 0x10FFFF < code then none
      else
        let place := target % places
        insertLetters? (label.take place ++ Char.ofNat code :: label.drop place) code (place + 1)
          (adapt distance places isFirst) false rest
termination_by digits.length
decreasing_by exact length_readDistance? _h

/-- The label with an ASCII form, without its mark. -/
def decodeLabel? (form : List Char) : Option (List Char) :=
  let digits := (form.reverse.takeWhile (· != '-')).reverse
  let ascii := form.take (form.length - digits.length - 1)
  insertLetters? ascii 128 0 72 true digits

end SheetAudit.Url

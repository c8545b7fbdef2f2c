/-!
# Rounding to the nearest

`roundEven` gives the integer nearest to a rational; halfway between two integers it gives the even
one.  `binade` finds the power of two at or below a positive rational.
-/

namespace SheetAudit.Number

/-- The integer nearest to `q`, the even one of two that are equally near. -/
def roundEven (q : Rat) : Int :=
  let low := q.floor
  let gap := q - low
  if gap < 1 / 2 then low
  else if 1 / 2 < gap then low + 1
  else if low % 2 = 0 then low else low + 1

/-- The power of two with an integer exponent. -/
def twoPow : Int → Rat
  | .ofNat n => (Nat.pow 2 n : Rat)
  | .negSucc n => 1 / (Nat.pow 2 (n + 1) : Rat)

/-- The exponent of the largest power of two that is at most `q`, for a positive `q`. -/
def binade (q : Rat) : Int :=
  let guess : Int := (q.num.natAbs.log2 : Int) - (q.den.log2 : Int)
  if twoPow guess ≤ q then guess else guess - 1

/-- A rational without its sign. -/
def magnitude (q : Rat) : Rat :=
  if q < 0 then -q else q

end SheetAudit.Number

import SheetAudit.Number.Rounding

/-!
# Binary floating point

The numbers of the 64-bit binary format, as the exact values that they stand for.  An operation
takes the exact result of its operands and rounds it to the nearest number of the format, halfway
cases to the even significand; a result beyond the format's range is infinite.  The sign of a zero
is not kept, since no operation of this library can tell the two zeros apart.
-/

namespace SheetAudit.Number

/-- A number of the 64-bit binary format. -/
inductive Binary64 where
  /-- Not a number. -/
  | nan
  /-- An infinity. -/
  | infinite (negative : Bool)
  /-- A finite number, given by its exact value. -/
  | finite (value : Rat)
  deriving DecidableEq

/-- The ways in which a number has no answer in the kind of number asked for. -/
inductive NumberError where
  /-- A quotient of integers is beyond the range of the binary format. -/
  | quotientTooLarge
  /-- An integer is beyond the range of the binary format. -/
  | integerTooLarge
  /-- An infinity was to become an integer. -/
  | infinityToInteger
  /-- Something that is not a number was to become an integer. -/
  | nanToInteger
  deriving DecidableEq, Repr

/-- What an error says. -/
def NumberError.message : NumberError → String
  | .quotientTooLarge => "integer division result too large for a float"
  | .integerTooLarge => "int too large to convert to float"
  | .infinityToInteger => "cannot convert float infinity to integer"
  | .nanToInteger => "cannot convert float NaN to integer"

namespace Binary64

/-- The exponent of the distance between neighbouring numbers of the format around `q`. -/
def spacing (q : Rat) : Int :=
  max (binade (magnitude q) - 52) (-1074)

/-- The multiple of the spacing nearest to `q`, the even multiple of two that are equally near. -/
def nearest (q : Rat) : Rat :=
  let unit := twoPow (spacing q)
  roundEven (q / unit) * unit

/-- The number of the format that stands for `q`. -/
def ofRat (q : Rat) : Binary64 :=
  if q = 0 then .finite 0
  else
    let value := nearest q
    if twoPow 1024 ≤ magnitude value then .infinite (q < 0) else .finite value

/-- The sum of two numbers. -/
def add : Binary64 → Binary64 → Binary64
  | .finite a, .finite b => ofRat (a + b)
  | .finite _, .infinite s => .infinite s
  | .infinite s, .finite _ => .infinite s
  | .infinite s, .infinite t => if s = t then .infinite s else .nan
  | .nan, _ | _, .nan => .nan

/-- The number with the other sign. -/
def neg : Binary64 → Binary64
  | .finite a => .finite (-a)
  | .infinite s => .infinite (!s)
  | .nan => .nan

/-- The difference of two numbers. -/
def sub (a b : Binary64) : Binary64 :=
  a.add b.neg

/-- The product of two numbers. -/
def mul : Binary64 → Binary64 → Binary64
  | .finite a, .finite b => ofRat (a * b)
  | .finite a, .infinite s | .infinite s, .finite a =>
    if a = 0 then .nan else .infinite (s != decide (a < 0))
  | .infinite s, .infinite t => .infinite (s != t)
  | .nan, _ | _, .nan => .nan

instance : Add Binary64 := ⟨add⟩

instance : Sub Binary64 := ⟨sub⟩

instance : Mul Binary64 := ⟨mul⟩

/-- Whether the first number is smaller; never for what is not a number. -/
def lt : Binary64 → Binary64 → Bool
  | .finite a, .finite b => a < b
  | .finite _, .infinite s => !s
  | .infinite s, .finite _ => s
  | .infinite s, .infinite t => s && !t
  | .nan, _ | _, .nan => false

/-- The quotient of two integers, as the nearest number of the format. -/
def quotient (n : Int) (d : Nat) : Except NumberError Binary64 :=
  match ofRat (mkRat n d) with
  | .finite v => .ok (.finite v)
  | _ => .error .quotientTooLarge

/-- An integer, as the nearest number of the format. -/
def ofInt (n : Int) : Except NumberError Binary64 :=
  match ofRat n with
  | .finite v => .ok (.finite v)
  | _ => .error .integerTooLarge

/-- The exact value of a finite number. -/
def value : Binary64 → Except NumberError Rat
  | .finite v => .ok v
  | .infinite _ => .error .infinityToInteger
  | .nan => .error .nanToInteger

/-- The largest integer that is at most the number. -/
def floor (x : Binary64) : Except NumberError Int :=
  x.value.map Rat.floor

/-- The integer nearest to the number, the even one of two that are equally near. -/
def toNearestInt (x : Binary64) : Except NumberError Int :=
  x.value.map roundEven

/-! ## Bit patterns -/

/-- The place value of the sign bit of a bit pattern. -/
def signPlace : Nat := 0x8000000000000000

/-- The place value of the lowest bit of the exponent, and the value of the bit of a significand
that a bit pattern leaves out. -/
def exponentPlace : Nat := 0x10000000000000

/-- The number that a bit pattern stands for. -/
def ofBits (bits : Nat) : Binary64 :=
  let negative := bits / signPlace % 2 == 1
  let biased : Nat := bits / exponentPlace % 2048
  let fraction : Nat := bits % exponentPlace
  if biased = 2047 then if fraction = 0 then .infinite negative else .nan
  else
    let size : Rat :=
      if biased = 0 then (fraction : Rat) * twoPow (-1074)
      else ((exponentPlace + fraction : Nat) : Rat) * twoPow ((biased : Int) - 1075)
    .finite (if negative then -size else size)

/-- The bit pattern of a number. -/
def toBits : Binary64 → Nat
  | .nan => 0x7FF8000000000000
  | .infinite negative => (if negative then signPlace else 0) + 2047 * exponentPlace
  | .finite v =>
    let size := magnitude v
    let sign := if v < 0 then signPlace else 0
    if size < twoPow (-1022) then sign + (size / twoPow (-1074)).floor.toNat
    else
      let e := binade size
      let significand := (size / twoPow (e - 52)).floor.toNat
      sign + (e + 1023).toNat * exponentPlace + (significand - exponentPlace)

end Binary64

end SheetAudit.Number

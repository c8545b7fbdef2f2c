import SheetAudit.Number.Binary64

/-!
# Amounts of data

A size in bytes is shown in the largest of three units that it fills, in bytes as it is and in the
others to a tenth.
-/

namespace SheetAudit.Console

open Number

/-- A unit of size. -/
inductive SizeUnit where
  | bytes
  | kilobytes
  | megabytes
  deriving DecidableEq, Repr

/-- The number of bytes in a unit. -/
def SizeUnit.factor : SizeUnit → Nat
  | .bytes => 1
  | .kilobytes => 1024
  | .megabytes => 1024 * 1024

/-- The symbol of a unit. -/
def SizeUnit.symbol : SizeUnit → String
  | .bytes => "B"
  | .kilobytes => "KB"
  | .megabytes => "MB"

/-- The unit in which a size is shown. -/
def SizeUnit.ofSize (size : Int) : SizeUnit :=
  if size < 1024 then .bytes else if size < 1024 * 1024 then .kilobytes else .megabytes

/-- A size as it is shown: a number of tenths of a unit. -/
structure Amount where
  /-- The tenths of the unit. -/
  tenths : Int
  /-- The unit. -/
  unit : SizeUnit
  deriving DecidableEq, Repr

/-- The amount that is shown for a size: in bytes exact, in a larger unit the quotient, rounded to
binary floating point and then to tenths, halves to even. -/
def Amount.ofSize (size : Int) : Except NumberError Amount :=
  match SizeUnit.ofSize size with
  | .bytes => .ok ⟨10 * size, .bytes⟩
  | unit => do
    let share ← Binary64.quotient size unit.factor
    let value ← share.value
    return ⟨roundEven (value * 10), unit⟩

/-- The text of an amount. -/
def Amount.text (a : Amount) : String :=
  match a.unit with
  | .bytes => s!"{a.tenths / 10} B"
  | unit => s!"{a.tenths / 10}.{a.tenths % 10} {unit.symbol}"

/-- The text of a size in bytes. -/
def sizeText (size : Int) : Except NumberError String :=
  (Amount.ofSize size).map Amount.text

end SheetAudit.Console

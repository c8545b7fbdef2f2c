import Mathlib.Tactic.IntervalCases
import SheetAudit.Console.Amount
import SheetAudit.Proofs.NumberError
import SheetAudit.Proofs.Numerals

/-!
# Shown amounts of data

A size below `2 ^ 53` is divided by the factor of its unit without an error, so that its amount is
the nearest number of tenths.  The amounts of one unit keep the order of the sizes, and where one
unit follows another, the size is a multiple of both and is shown exactly.  The unit is chosen
before the rounding: the last sizes that are shown in kilobytes are rounded up to 1024 of them.

## Key results

- `Amount.ofText?_text_bytes` / `Amount.ofText?_text_of_ne`: an amount is read back from its text
- `ofSize_eq_nearest`: the amount of a size is the nearest one
- `Amount.abs_bytes_nearest_sub_le` / `Amount.bytes_nearest_le`: its error and its order
- `sizeText_amount`: what the text of a size shows
- `sizeText_not_normalized`: a size that is shown as 1024 kilobytes
-/

namespace SheetAudit.Console

open Number

/-! ## Reading an amount -/

/-- The unit with a symbol. -/
def SizeUnit.ofSymbol? (symbol : List Char) : Option SizeUnit :=
  [SizeUnit.bytes, .kilobytes, .megabytes].find? (·.symbol.toList == symbol)

/-- A unit is read back from its symbol. -/
theorem SizeUnit.ofSymbol?_symbol (unit : SizeUnit) :
    SizeUnit.ofSymbol? unit.symbol.toList = some unit := by
  cases unit <;> decide

namespace Amount

open Text

/-- The amount that a text shows: a number, in the larger units with one decimal, and the symbol of
    the unit. -/
def ofText? (text : String) : Option Amount :=
  match readBefore? '.' text.toList with
  | some (whole, tenth :: ' ' :: symbol) => do
    let unit ← SizeUnit.ofSymbol? symbol
    if tenth.isDigit then some ⟨10 * whole + (tenth.toNat - '0'.toNat : Nat), unit⟩ else none
  | _ => do
    let (whole, symbol) ← readBefore? ' ' text.toList
    return ⟨10 * whole, ← SizeUnit.ofSymbol? symbol⟩

/-- Bytes are shown as a whole number and their symbol. -/
private theorem toList_text_bytes (tenths : ℤ) :
    (text ⟨tenths, .bytes⟩).toList =
      (toString (tenths / 10)).toList ++ ' ' :: SizeUnit.bytes.symbol.toList := by
  simp [text, toString, SizeUnit.symbol]

/-- The larger units are shown with one decimal. -/
private theorem toList_text_of_ne {unit : SizeUnit} (h : unit ≠ .bytes) (tenths : ℤ) :
    (text ⟨tenths, unit⟩).toList =
      (toString (tenths / 10)).toList ++
        '.' :: ((toString (tenths % 10)).toList ++ ' ' :: unit.symbol.toList) := by
  cases unit with
  | bytes => exact absurd rfl h
  | kilobytes => simp [text, toString]
  | megabytes => simp [text, toString]

/-- Bytes have no decimal, so that they are read as a whole number. -/
theorem ofText?_text_bytes (n : ℤ) : ofText? (text ⟨10 * n, .bytes⟩) = some ⟨10 * n, .bytes⟩ := by
  have hwhole : 10 * n / 10 = n := Int.mul_ediv_cancel_left n (by decide)
  have hpoint : '.' ∉ (text ⟨10 * n, .bytes⟩).toList := by
    rw [toList_text_bytes, List.mem_append, not_or]
    exact ⟨notMem_toString_int (by decide) (by decide) _, by decide⟩
  rw [ofText?, readBefore?_of_notMem hpoint, toList_text_bytes, hwhole,
    readBefore?_append (by decide) (by decide)]
  simp only [Option.bind_eq_bind, Option.bind_some, SizeUnit.ofSymbol?_symbol]
  rfl

/-- A number below ten has one digit. -/
private theorem exists_toList_toString_eq {n : ℤ} (hlow : 0 ≤ n) (hhigh : n < 10) :
    ∃ c : Char, (toString n).toList = [c] ∧ c.isDigit = true ∧ (c.toNat - '0'.toNat : Nat) = n := by
  interval_cases n <;> exact ⟨_, rfl, by decide, by decide⟩

/-- In the larger units the number of tenths is read from both sides of the point. -/
theorem ofText?_text_of_ne {unit : SizeUnit} (h : unit ≠ .bytes) (tenths : ℤ) :
    ofText? (text ⟨tenths, unit⟩) = some ⟨tenths, unit⟩ := by
  obtain ⟨tenth, htenth, hdigit, hvalue⟩ := exists_toList_toString_eq
    (Int.emod_nonneg tenths (by decide)) (Int.emod_lt_of_pos tenths (by decide))
  have hsum : 10 * (tenths / 10) + tenths % 10 = tenths := by omega
  rw [ofText?, toList_text_of_ne h, readBefore?_append (by decide) (by decide), htenth]
  simp only [List.cons_append, List.nil_append, SizeUnit.ofSymbol?_symbol, Option.bind_eq_bind,
    Option.bind_some, hdigit, if_true, hvalue, hsum]

/-! ## The nearest amount -/

/-- The number of units that an amount shows. -/
def shown (a : Amount) : ℚ :=
  a.tenths / 10

/-- The number of bytes that an amount stands for. -/
def bytes (a : Amount) : ℚ :=
  a.shown * a.unit.factor

/-- The amount in a unit that is nearest to a size. -/
def nearest (n : ℤ) (unit : SizeUnit) : Amount :=
  ⟨roundEven (n / unit.factor * 10), unit⟩

end Amount

/-- Sizes below 1024 are shown in bytes. -/
theorem SizeUnit.ofSize_eq_bytes_iff {n : ℤ} : SizeUnit.ofSize n = .bytes ↔ n < 1024 := by
  unfold SizeUnit.ofSize
  split_ifs <;> simp_all

/-- Sizes from 1024 up to a megabyte are shown in kilobytes. -/
theorem SizeUnit.ofSize_eq_kilobytes_iff {n : ℤ} :
    SizeUnit.ofSize n = .kilobytes ↔ 1024 ≤ n ∧ n < 1048576 := by
  unfold SizeUnit.ofSize
  split_ifs <;> simp_all

/-- A unit stands for at least one byte. -/
theorem SizeUnit.factor_pos (unit : SizeUnit) : (0 : ℚ) < unit.factor := by
  cases unit <;> norm_num [SizeUnit.factor]

/-- The quotient by the factor of a unit has no error. -/
private theorem quotient_factor {n : ℤ} (hn : |n| < 2 ^ 53) (unit : SizeUnit) :
    Binary64.quotient n unit.factor = .ok (.finite (n / unit.factor)) := by
  -- the factors are powers of two, by which a quotient is exact
  obtain ⟨k, hk, hfactor⟩ : ∃ k, k ≤ 1022 ∧ unit.factor = 2 ^ k := by
    cases unit
    · exact ⟨0, by decide, rfl⟩
    · exact ⟨10, by decide, rfl⟩
    · exact ⟨20, by decide, rfl⟩
  rw [hfactor, Binary64.quotient_two_pow hn hk]
  push_cast
  rfl

/-- In bytes the nearest amount is the size itself. -/
theorem Amount.nearest_bytes (n : ℤ) : Amount.nearest n .bytes = ⟨10 * n, .bytes⟩ := by
  have hwhole : (n : ℚ) / SizeUnit.bytes.factor * 10 = ((10 * n : ℤ) : ℚ) := by
    push_cast [SizeUnit.factor]
    ring
  rw [Amount.nearest, hwhole, roundEven_intCast]

/-- The amount of a size is the nearest one in its unit. -/
theorem ofSize_eq_nearest {n : ℤ} (hn : |n| < 2 ^ 53) :
    Amount.ofSize n = .ok (Amount.nearest n (SizeUnit.ofSize n)) := by
  have hquotient := quotient_factor hn
  unfold Amount.ofSize
  generalize SizeUnit.ofSize n = unit
  cases unit with
  | bytes => rw [Amount.nearest_bytes]
  | kilobytes => simp only [hquotient, Binary64.value, Amount.nearest, bind, Except.bind]; rfl
  | megabytes => simp only [hquotient, Binary64.value, Amount.nearest, bind, Except.bind]; rfl

namespace Amount

variable {m n : ℤ}

/-- The nearest amount differs from the size by at most half a tenth of its unit. -/
theorem abs_bytes_nearest_sub_le (n : ℤ) (unit : SizeUnit) :
    |(nearest n unit).bytes - n| ≤ unit.factor / 20 := by
  have hfactor := unit.factor_pos
  have hround := abs_roundEven_sub_le (n / unit.factor * 10)
  -- the error in tenths is at most a half, brought to the scale of the unit
  have hscale : (nearest n unit).bytes - n =
      (roundEven (n / unit.factor * 10) - n / unit.factor * 10) * (unit.factor / 10) := by
    rw [bytes, shown, nearest]
    field_simp
  rw [hscale, abs_mul, abs_of_pos (by positivity : (0 : ℚ) < unit.factor / 10)]
  calc _ ≤ 1 / 2 * ((unit.factor : ℚ) / 10) := by gcongr
    _ = unit.factor / 20 := by ring

/-- The amounts of one unit keep the order of the sizes. -/
private theorem bytes_nearest_mono (unit : SizeUnit) (h : m ≤ n) :
    (nearest m unit).bytes ≤ (nearest n unit).bytes := by
  have hfactor := unit.factor_pos
  -- rounding to tenths keeps the order
  have hround :
      roundEven ((m : ℚ) / unit.factor * 10) ≤ roundEven ((n : ℚ) / unit.factor * 10) := by
    apply roundEven_mono
    have : (m : ℚ) ≤ n := by exact_mod_cast h
    gcongr
  have hcast : (roundEven ((m : ℚ) / unit.factor * 10) : ℚ) ≤
      roundEven ((n : ℚ) / unit.factor * 10) := by
    exact_mod_cast hround
  simp only [bytes, shown, nearest]
  gcongr

/-- A multiple of a unit is shown exactly. -/
private theorem bytes_nearest_of_dvd {unit : SizeUnit} (h : (unit.factor : ℤ) ∣ n) :
    (nearest n unit).bytes = n := by
  obtain ⟨k, rfl⟩ := h
  have hfactor := unit.factor_pos
  -- the number of tenths is an integer, which is not rounded
  have hwhole : ((unit.factor * k : ℤ) : ℚ) / unit.factor * 10 = ((k * 10 : ℤ) : ℚ) := by
    push_cast
    field_simp
  rw [bytes, shown, nearest, hwhole, roundEven_intCast]
  push_cast
  ring

/-- Amounts of two units keep the order of sizes with a multiple of both units between them. -/
private theorem bytes_nearest_le_of_dvd {limit : ℤ} {unit unit' : SizeUnit}
    (hunit : (unit.factor : ℤ) ∣ limit) (hunit' : (unit'.factor : ℤ) ∣ limit) (hm : m ≤ limit)
    (hn : limit ≤ n) : (nearest m unit).bytes ≤ (nearest n unit').bytes :=
  calc (nearest m unit).bytes ≤ (nearest limit unit).bytes := bytes_nearest_mono unit hm
    _ = (nearest limit unit').bytes := by
      rw [bytes_nearest_of_dvd hunit, bytes_nearest_of_dvd hunit']
    _ ≤ (nearest n unit').bytes := bytes_nearest_mono unit' hn

/-- A larger size is not shown as a smaller amount. -/
theorem bytes_nearest_le (h : m ≤ n) :
    (nearest m (SizeUnit.ofSize m)).bytes ≤ (nearest n (SizeUnit.ofSize n)).bytes := by
  -- a larger unit begins with a multiple of it and of the smaller one
  unfold SizeUnit.ofSize
  split_ifs
  · exact bytes_nearest_mono .bytes h
  · exact bytes_nearest_le_of_dvd (by decide) (by decide) (by omega : m ≤ 1024) (by omega)
  · exact bytes_nearest_le_of_dvd (by decide) (by decide) (by omega : m ≤ 1024 * 1024) (by omega)
  · omega
  · exact bytes_nearest_mono .kilobytes h
  · exact bytes_nearest_le_of_dvd (by decide) (by decide) (by omega : m ≤ 1024 * 1024) (by omega)
  · omega
  · omega
  · exact bytes_nearest_mono .megabytes h

/-- Kilobytes are rounded up to 1024 of them in the last half of a tenth. -/
private theorem shown_nearest_kilobytes_lt_iff (n : ℤ) :
    (nearest n .kilobytes).shown < 1024 ↔ n < 1048525 := by
  obtain ⟨hlow, hhigh⟩ := abs_le.mp (abs_bytes_nearest_sub_le n .kilobytes)
  have hbytes : (nearest n .kilobytes).bytes = (nearest n .kilobytes).tenths * (512 / 5) := by
    rw [bytes, shown]
    norm_num [nearest, SizeUnit.factor]
    ring
  -- fewer than 1024 kilobytes are at most 10239 tenths
  have hshown : (nearest n .kilobytes).shown < 1024 ↔ (nearest n .kilobytes).tenths < 10240 := by
    rw [shown, div_lt_iff₀ (by norm_num)]
    norm_num
    norm_cast
  rw [hshown]
  rw [hbytes] at hlow hhigh
  -- the last tenth begins at 1048524.8 bytes, and the size is a whole number
  generalize (nearest n .kilobytes).tenths = tenths at hlow hhigh
  norm_num [SizeUnit.factor] at hlow hhigh
  constructor
  · intro h
    have htenths : (tenths : ℚ) ≤ 10239 := by exact_mod_cast Int.lt_add_one_iff.mp h
    have : (n : ℚ) < 1048525 := by linarith
    exact_mod_cast this
  · intro h
    have hsize : (n : ℚ) ≤ 1048524 := by exact_mod_cast Int.lt_add_one_iff.mp h
    have : (tenths : ℚ) < 10240 := by linarith
    exact_mod_cast this

/-- No more kilobytes are shown than make a megabyte. -/
private theorem shown_nearest_kilobytes_le (h : n ≤ 1048576) :
    (nearest n .kilobytes).shown ≤ 1024 := by
  have hbytes := bytes_nearest_mono .kilobytes h
  rw [bytes_nearest_of_dvd (n := 1048576) (by decide), bytes] at hbytes
  norm_num [nearest, SizeUnit.factor] at hbytes ⊢
  linarith

end Amount

/-! ## The text of a size -/

/-- The text of a size shows its nearest amount. -/
theorem sizeText_eq_nearest {n : ℤ} (hn : |n| < 2 ^ 53) :
    ∃ text, sizeText n = .ok text ∧
      Amount.ofText? text = some (Amount.nearest n (SizeUnit.ofSize n)) := by
  refine ⟨(Amount.nearest n (SizeUnit.ofSize n)).text, ?_, ?_⟩
  · rw [sizeText, ofSize_eq_nearest hn]
    rfl
  · by_cases hunit : SizeUnit.ofSize n = .bytes
    · rw [hunit, Amount.nearest_bytes]
      exact Amount.ofText?_text_bytes n
    · exact Amount.ofText?_text_of_ne hunit _

/-- A size below `2 ^ 53` has a text, which shows an amount in the unit of the size: it differs from
    the size by at most half a tenth of the unit, and not at all in bytes; it is less than 1024
    bytes, or at most 1024 kilobytes, and these are reached only by the last sizes below a megabyte;
    and no smaller size is shown as a larger amount. -/
theorem sizeText_amount {n : ℤ} (hnonneg : 0 ≤ n) (hlt : n < 2 ^ 53) :
    ∃ text a, sizeText n = .ok text ∧ Amount.ofText? text = some a ∧
      a.unit = SizeUnit.ofSize n ∧
      (a.unit = .bytes → a.shown < 1024 ∧ a.bytes = n) ∧
      (a.unit = .kilobytes → a.shown ≤ 1024 ∧ (a.shown < 1024 ↔ n < 1048525)) ∧
      |a.bytes - n| ≤ a.unit.factor / 20 ∧
      ∀ m text' b, 0 ≤ m → m ≤ n → sizeText m = .ok text' → Amount.ofText? text' = some b →
        b.bytes ≤ a.bytes := by
  obtain ⟨text, htext, ha⟩ := sizeText_eq_nearest (abs_lt.mpr ⟨by omega, hlt⟩)
  refine ⟨text, _, htext, ha, rfl, fun hunit => ?_, fun hunit => ?_,
    Amount.abs_bytes_nearest_sub_le n _, ?_⟩
  -- in bytes the amount is the size itself
  · obtain hunit : SizeUnit.ofSize n = .bytes := hunit
    have hsmall : n < 1024 := SizeUnit.ofSize_eq_bytes_iff.mp hunit
    have hbytes : (Amount.nearest n .bytes).bytes = n := Amount.bytes_nearest_of_dvd (one_dvd n)
    have hshown : (Amount.nearest n .bytes).shown = n := by
      rwa [Amount.bytes, Amount.nearest, SizeUnit.factor, Nat.cast_one, mul_one] at hbytes
    rw [hunit, hshown]
    exact ⟨by exact_mod_cast hsmall, hbytes⟩
  · obtain hunit : SizeUnit.ofSize n = .kilobytes := hunit
    have hlarge : n < 1048576 := (SizeUnit.ofSize_eq_kilobytes_iff.mp hunit).2
    rw [hunit]
    exact ⟨Amount.shown_nearest_kilobytes_le hlarge.le, Amount.shown_nearest_kilobytes_lt_iff n⟩
  -- a smaller size has a text too, and it shows one amount only
  · intro m text' b hm hmn htext' hb
    obtain ⟨text'', htext'', hb'⟩ := sizeText_eq_nearest (abs_lt.mpr ⟨by omega, by omega⟩ : |m| < _)
    obtain rfl : text'' = text' := Except.ok.inj (htext''.symm.trans htext')
    obtain rfl := Option.some.inj (hb'.symm.trans hb)
    exact Amount.bytes_nearest_le hmn

/-- The amount of 1280 bytes lies halfway between two tenths, and the even one is shown. -/
theorem sizeText_amount_halfway :
    (0 : ℤ) ≤ 1280 ∧ (1280 : ℤ) < 2 ^ 53 ∧ sizeText 1280 = .ok "1.2 KB" ∧
      ∃ a, Amount.ofText? "1.2 KB" = some a ∧ |a.bytes - 1280| ≤ a.unit.factor / 20 := by
  have htext : sizeText 1280 = .ok "1.2 KB" := by decide +kernel
  -- the text is computed, and the theorem says what it shows
  obtain ⟨text, a, ha, hread, -, -, -, herror, -⟩ :=
    sizeText_amount (n := 1280) (by decide) (by decide)
  obtain rfl : text = "1.2 KB" := Except.ok.inj (ha.symm.trans htext)
  exact ⟨by decide, by decide, htext, a, hread, by exact_mod_cast herror⟩

/-- The last byte below a megabyte is shown as 1024 kilobytes. -/
theorem sizeText_not_normalized :
    sizeText 1048575 = .ok "1024.0 KB" ∧
      Amount.ofText? "1024.0 KB" = some ⟨10240, .kilobytes⟩ ∧
      ¬(⟨10240, .kilobytes⟩ : Amount).shown < 1024 := by
  refine ⟨by decide +kernel, ?_, by norm_num [Amount.shown]⟩
  have htext : Amount.text ⟨10240, .kilobytes⟩ = "1024.0 KB" := by decide +kernel
  rw [← htext]
  exact Amount.ofText?_text_of_ne (by decide) 10240

end SheetAudit.Console

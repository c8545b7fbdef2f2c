import Mathlib.Data.List.Basic
import SheetAudit.Text.Decoding

/-!
# Text that was written as UTF-8

The bytes of a text in UTF-8 are read back as that text.  Its line breaks are then unified, which
takes one byte away for each carriage return that a line feed follows, and nothing else.

## Key results

- `readChar_encode`: the bytes of one character, whatever follows them
- `decodeUtf8_encode`: the bytes of a text
- `length_encode_unifyNewlines`: the size of a text with unified line breaks
-/

namespace SheetAudit.Text

/-- The bytes of a text in UTF-8. -/
def encodeUtf8 (cs : List Char) : List UInt8 :=
  cs.flatMap String.utf8EncodeChar

/-- No text has no bytes. -/
@[simp]
theorem encodeUtf8_nil : encodeUtf8 [] = [] := rfl

/-- The bytes of a text are those of its characters, one after the other. -/
@[simp]
theorem encodeUtf8_cons (c : Char) (cs : List Char) :
    encodeUtf8 (c :: cs) = String.utf8EncodeChar c ++ encodeUtf8 cs := rfl

/-! ## The bytes of one character -/

/-- A character of one byte is read back. -/
private theorem readChar_one {v : Nat} (hv : v ≤ 127) (tail : List UInt8) :
    readChar (UInt8.ofNat v) tail = (Char.ofNat v, tail) := by
  have hb : (UInt8.ofNat v).toNat = v := by simp; omega
  have hlt : UInt8.ofNat v < 0x80 := by
    rw [UInt8.lt_iff_toNat_lt, hb]
    exact Nat.lt_succ_of_le hv
  rw [readChar, if_pos hlt, hb]

/-- Reading a byte within the bounds adds its six bits. -/
private theorem readTail_cons {low high : UInt8} {x : Nat} (hx : x < 64)
    (hlow : low.toNat ≤ x + 128)
    (hhigh : x + 128 ≤ high.toNat) (count bits : Nat) (tail : List UInt8) :
    readTail (count + 1) low high bits (UInt8.ofNat (x + 128) :: tail) =
      readTail count 0x80 0xBF (64 * bits + x) tail := by
  have hb : (UInt8.ofNat (x + 128)).toNat = x + 128 := by simp; omega
  rw [readTail, if_pos, hb, Nat.add_sub_cancel]
  rw [UInt8.le_iff_toNat_le, UInt8.le_iff_toNat_le, hb]
  exact ⟨hlow, hhigh⟩

/-- A first byte of a longer sequence says how the others are read. -/
private theorem readChar_of_lead {b : UInt8} {lead : Lead} (h : Lead.ofByte? b = some lead)
    (hb : 128 ≤ b.toNat) (tail : List UInt8) :
    readChar b tail = readTail lead.count lead.low lead.high lead.bits tail := by
  have hlt : ¬b < 0x80 := by
    rw [UInt8.lt_iff_toNat_lt, Nat.not_lt]
    exact hb
  rw [readChar, if_neg hlt, h]

/-- A character of two bytes is read back. -/
private theorem readChar_two {v : Nat} (hv : 127 < v) (hv' : v ≤ 2047) (tail : List UInt8) :
    readChar (UInt8.ofNat (v / 64 % 32 + 192)) (UInt8.ofNat (v % 64 + 128) :: tail) =
      (Char.ofNat v, tail) := by
  have hb : (UInt8.ofNat (v / 64 % 32 + 192)).toNat = v / 64 + 192 := by simp; omega
  have hlead : Lead.ofByte? (UInt8.ofNat (v / 64 % 32 + 192)) = some ⟨1, 0x80, 0xBF, v / 64⟩ := by
    rw [Lead.ofByte?, hb]
    simp only [Nat.add_sub_cancel]
    rw [if_pos (by omega)]
  have hbits : 64 * (v / 64) + v % 64 = v := Nat.div_add_mod v 64
  rw [readChar_of_lead hlead (by omega),
    readTail_cons (by omega) (Nat.le_add_left ..) (by simp; omega), hbits, readTail]

/-- A character of three bytes is read back, unless it is a surrogate. -/
private theorem readChar_three {v : Nat} (hv : 2047 < v) (hv' : v ≤ 65535)
    (hvalid : v < 0xD800 ∨ 0xDFFF < v) (tail : List UInt8) :
    readChar (UInt8.ofNat (v / 4096 % 16 + 224))
        (UInt8.ofNat (v / 64 % 64 + 128) :: UInt8.ofNat (v % 64 + 128) :: tail) =
      (Char.ofNat v, tail) := by
  have hb : (UInt8.ofNat (v / 4096 % 16 + 224)).toNat = v / 4096 + 224 := by simp; omega
  -- the bounds of the second byte depend on the first one
  obtain ⟨low, high, hlead, hlow, hhigh⟩ : ∃ low high : UInt8,
      Lead.ofByte? (UInt8.ofNat (v / 4096 % 16 + 224)) = some ⟨2, low, high, v / 4096⟩ ∧
        low.toNat ≤ v / 64 % 64 + 128 ∧ v / 64 % 64 + 128 ≤ high.toNat := by
    rcases (by omega : v / 4096 = 0 ∨ v / 4096 = 13 ∨
      v / 4096 ≠ 0 ∧ v / 4096 ≠ 13 ∧ v / 4096 ≤ 15) with h | h | ⟨h₀, h₁₃, h₁₅⟩
    · exact ⟨0xA0, 0xBF, by simp [Lead.ofByte?, h], by simp; omega, by simp; omega⟩
    · exact ⟨0x80, 0x9F, by simp [Lead.ofByte?, h], by simp, by simp; omega⟩
    · refine ⟨0x80, 0xBF, ?_, by simp, by simp; omega⟩
      rw [Lead.ofByte?, hb]
      simp only [Nat.add_sub_cancel]
      rw [if_neg (by omega), if_neg (by omega), if_neg (by omega), if_pos (by omega)]
  have hbits : 64 * (64 * (v / 4096) + v / 64 % 64) + v % 64 = v := by omega
  rw [readChar_of_lead hlead (by omega), readTail_cons (by omega) hlow hhigh,
    readTail_cons (by omega) (Nat.le_add_left ..) (by simp; omega), hbits, readTail]

/-- A character of four bytes is read back. -/
private theorem readChar_four {v : Nat} (hv : 65535 < v) (hv' : v < 0x110000) (tail : List UInt8) :
    readChar (UInt8.ofNat (v / 262144 % 8 + 240))
        (UInt8.ofNat (v / 4096 % 64 + 128) :: UInt8.ofNat (v / 64 % 64 + 128) ::
          UInt8.ofNat (v % 64 + 128) :: tail) =
      (Char.ofNat v, tail) := by
  have hb : (UInt8.ofNat (v / 262144 % 8 + 240)).toNat = v / 262144 + 240 := by simp; omega
  -- as for three bytes, the first one bounds the second
  obtain ⟨low, high, hlead, hlow, hhigh⟩ : ∃ low high : UInt8,
      Lead.ofByte? (UInt8.ofNat (v / 262144 % 8 + 240)) = some ⟨3, low, high, v / 262144⟩ ∧
        low.toNat ≤ v / 4096 % 64 + 128 ∧ v / 4096 % 64 + 128 ≤ high.toNat := by
    rcases (by omega : v / 262144 = 0 ∨ v / 262144 = 4 ∨
      v / 262144 ≠ 0 ∧ v / 262144 ≤ 3) with h | h | ⟨h₀, h₃⟩
    · exact ⟨0x90, 0xBF, by simp [Lead.ofByte?, h], by simp; omega, by simp; omega⟩
    · exact ⟨0x80, 0x8F, by simp [Lead.ofByte?, h], by simp, by simp; omega⟩
    · refine ⟨0x80, 0xBF, ?_, by simp, by simp; omega⟩
      rw [Lead.ofByte?, hb]
      simp only [Nat.add_sub_cancel]
      rw [if_neg (by omega), if_neg (by omega), if_neg (by omega), if_neg (by omega),
        if_neg (by omega), if_pos (by omega)]
  have hbits : 64 * (64 * (64 * (v / 262144) + v / 4096 % 64) + v / 64 % 64) + v % 64 = v := by
    omega
  rw [readChar_of_lead hlead (by omega), readTail_cons (by omega) hlow hhigh,
    readTail_cons (by omega) (Nat.le_add_left ..) (by simp; omega),
    readTail_cons (by omega) (Nat.le_add_left ..) (by simp; omega), hbits, readTail]

/-- The bytes of a character are read as that character, whatever follows them. -/
theorem readChar_encode (c : Char) :
    ∃ b bytes, String.utf8EncodeChar c = b :: bytes ∧
      ∀ tail, readChar b (bytes ++ tail) = (c, tail) := by
  have hc : Char.ofNat c.val.toNat = c := Char.ofNat_toNat c
  have hvalid : c.val.toNat < 0xD800 ∨ 0xDFFF < c.val.toNat ∧ c.val.toNat < 0x110000 := c.valid
  unfold String.utf8EncodeChar
  dsimp only
  -- by the number of bytes, which the code point decides
  split
  · next h₁ =>
    exact ⟨_, _, rfl, fun tail => by rw [List.nil_append, readChar_one h₁, hc]⟩
  · next h₁ =>
    split
    · next h₂ =>
      refine ⟨_, _, rfl, fun tail => ?_⟩
      rw [List.cons_append, List.nil_append, readChar_two (by omega) h₂, hc]
    · next h₂ =>
      split
      · next h₃ =>
        refine ⟨_, _, rfl, fun tail => ?_⟩
        rw [List.cons_append, List.cons_append, List.nil_append,
          readChar_three (by omega) h₃ (by omega), hc]
      · next h₃ =>
        refine ⟨_, _, rfl, fun tail => ?_⟩
        rw [List.cons_append, List.cons_append, List.cons_append, List.nil_append,
          readChar_four (by omega) (by omega), hc]

/-- Only the character with that code point has a byte below 128. -/
private theorem eq_of_mem_utf8EncodeChar {c : Char} {b : UInt8} (h : b ∈ String.utf8EncodeChar c)
    (hb : b.toNat < 128) : c.toNat = b.toNat := by
  have hvalue : c.toNat = c.val.toNat := rfl
  unfold String.utf8EncodeChar at h
  dsimp only at h
  split at h
  · obtain rfl := List.mem_singleton.mp h
    rw [UInt8.toNat_ofNat', hvalue]
    omega
  · -- every byte of a longer sequence has its highest bit set
    exfalso
    split at h
    · simp only [List.mem_cons, List.not_mem_nil, or_false] at h
      rcases h with rfl | rfl <;> simp only [UInt8.toNat_ofNat'] at hb <;> omega
    · split at h
      · simp only [List.mem_cons, List.not_mem_nil, or_false] at h
        rcases h with rfl | rfl | rfl <;> simp only [UInt8.toNat_ofNat'] at hb <;> omega
      · simp only [List.mem_cons, List.not_mem_nil, or_false] at h
        rcases h with rfl | rfl | rfl | rfl <;> simp only [UInt8.toNat_ofNat'] at hb <;> omega

/-! ## The bytes of a text -/

/-- The bytes of a text are read behind what was read before. -/
theorem decodeUtf8From_encode (out cs : List Char) :
    decodeUtf8From out (encodeUtf8 cs) = out.reverse ++ cs := by
  -- by induction on the text, character by character
  induction cs generalizing out with
  | nil => simp [decodeUtf8From]
  | cons c cs ih =>
    obtain ⟨b, bytes, hc, hread⟩ := readChar_encode c
    rw [encodeUtf8_cons, hc, List.cons_append, decodeUtf8From, hread, ih]
    simp

/-- The bytes of a text are read as that text. -/
theorem decodeUtf8_encode (cs : List Char) : decodeUtf8 (encodeUtf8 cs) = cs := by
  rw [decodeUtf8, decodeUtf8From_encode]
  rfl

/-! ## Line breaks -/

/-- What was read before stays in front. -/
private theorem unifyNewlinesFrom_eq_append (cs : List Char) :
    ∀ out, unifyNewlinesFrom out cs = out.reverse ++ unifyNewlines cs := by
  -- by the recursion of the reader, for every output at once
  induction ([] : List Char), cs using unifyNewlinesFrom.induct with
  | case1 => simp [unifyNewlines, unifyNewlinesFrom]
  | case2 _ cs ih =>
    intro out
    rw [unifyNewlinesFrom, unifyNewlines, unifyNewlinesFrom, ih, ih]
    simp
  | case3 _ cs hcs ih =>
    intro out
    rw [unifyNewlinesFrom.eq_3 _ _ hcs, unifyNewlines, unifyNewlinesFrom.eq_3 _ _ hcs, ih, ih]
    simp
  | case4 _ c cs hpair hreturn ih =>
    intro out
    rw [unifyNewlinesFrom.eq_4 _ _ _ hpair hreturn, unifyNewlines,
      unifyNewlinesFrom.eq_4 _ _ _ hpair hreturn, ih, ih]
    simp

/-- A carriage return and a line feed are one line break. -/
private theorem unifyNewlines_pair (cs : List Char) :
    unifyNewlines ('\r' :: '\n' :: cs) = '\n' :: unifyNewlines cs := by
  rw [unifyNewlines, unifyNewlinesFrom, unifyNewlinesFrom_eq_append]
  rfl

/-- A carriage return alone is a line break. -/
private theorem unifyNewlines_return {cs : List Char} (h : ∀ cs', cs ≠ '\n' :: cs') :
    unifyNewlines ('\r' :: cs) = '\n' :: unifyNewlines cs := by
  rw [unifyNewlines, unifyNewlinesFrom.eq_3 _ _ h, unifyNewlinesFrom_eq_append]
  rfl

/-- Any other character stays as it is. -/
private theorem unifyNewlines_cons {c : Char} (h : c ≠ '\r') (cs : List Char) :
    unifyNewlines (c :: cs) = c :: unifyNewlines cs := by
  rw [unifyNewlines, unifyNewlinesFrom.eq_4 _ _ _ (fun _ hc _ => h hc) h,
    unifyNewlinesFrom_eq_append]
  rfl

/-- The number of carriage returns that a line feed follows. -/
def breakPairs (bytes : List UInt8) : Nat :=
  (bytes.zip bytes.tail).count (13, 10)

/-- A byte other than a carriage return starts no pair. -/
private theorem breakPairs_cons_of_ne {b : UInt8} (h : b ≠ 13) (bytes : List UInt8) :
    breakPairs (b :: bytes) = breakPairs bytes := by
  cases bytes with
  | nil => rfl
  | cons b' bytes => simp [breakPairs, h]

/-- Bytes without a carriage return have no pairs, whatever follows them. -/
private theorem breakPairs_append_of_not_mem {bytes : List UInt8} (h : 13 ∉ bytes)
    (tail : List UInt8) :
    breakPairs (bytes ++ tail) = breakPairs tail := by
  -- by induction on the bytes in front
  induction bytes with
  | nil => rfl
  | cons b bytes ih =>
    rw [List.cons_append, breakPairs_cons_of_ne (by rintro rfl; simp at h),
      ih fun hmem => h (List.mem_cons_of_mem b hmem)]

/-- A carriage return without a line feed behind it starts no pair. -/
private theorem breakPairs_return_cons {bytes : List UInt8} (h : bytes.head? ≠ some 10) :
    breakPairs (13 :: bytes) = breakPairs bytes := by
  cases bytes with
  | nil => rfl
  | cons b bytes =>
    have hb : b ≠ 10 := by simpa using h
    simp [breakPairs, hb]

/-- The bytes of a text start with a line feed only if the text does. -/
private theorem head?_encodeUtf8_ne {cs : List Char} (h : ∀ cs', cs ≠ '\n' :: cs') :
    (encodeUtf8 cs).head? ≠ some 10 := by
  cases cs with
  | nil => simp
  | cons c cs =>
    obtain ⟨b, bytes, hc, -⟩ := readChar_encode c
    rw [encodeUtf8_cons, hc, List.cons_append, List.head?_cons]
    intro hb
    obtain rfl := Option.some.inj hb
    have hvalue := eq_of_mem_utf8EncodeChar (hc ▸ List.mem_cons_self) (by decide)
    exact h cs (congrArg (· :: cs) (Char.toNat_inj.mp hvalue))

/-- Unified line breaks take one byte less for each pair of carriage return and line feed. -/
theorem length_encode_unifyNewlines (cs : List Char) :
    (encodeUtf8 (unifyNewlines cs)).length + breakPairs (encodeUtf8 cs) =
      (encodeUtf8 cs).length := by
  have hreturn : String.utf8EncodeChar '\r' = [13] := rfl
  have hfeed : String.utf8EncodeChar '\n' = [10] := rfl
  -- a pair loses its carriage return, and every other character keeps its bytes
  induction ([] : List Char), cs using unifyNewlinesFrom.induct with
  | case1 => rfl
  | case2 _ cs ih =>
    have hpair : breakPairs (13 :: 10 :: encodeUtf8 cs) = breakPairs (10 :: encodeUtf8 cs) + 1 := by
      simp [breakPairs]
    simp only [unifyNewlines_pair, encodeUtf8_cons, hreturn, hfeed, List.cons_append,
      List.nil_append, List.length_cons, hpair,
      breakPairs_cons_of_ne (show (10 : UInt8) ≠ 13 by decide)]
    omega
  | case3 _ cs hcs ih =>
    simp only [unifyNewlines_return hcs, encodeUtf8_cons, hreturn, hfeed, List.cons_append,
      List.nil_append, List.length_cons, breakPairs_return_cons (head?_encodeUtf8_ne hcs)]
    omega
  | case4 _ c cs _ hc ih =>
    -- only the carriage return itself has its byte
    have hnone : 13 ∉ String.utf8EncodeChar c := fun hmem =>
      hc (Char.toNat_inj.mp (eq_of_mem_utf8EncodeChar hmem (by decide)))
    simp only [unifyNewlines_cons hc, encodeUtf8_cons, List.length_append,
      breakPairs_append_of_not_mem hnone]
    omega

end SheetAudit.Text

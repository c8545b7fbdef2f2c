/-!
# Reading bytes as text

`decodeUtf8` reads UTF-8.  Bytes that are not UTF-8 become replacement characters: one for each
longest beginning of a sequence that breaks off, one for each byte that cannot start a sequence.
`decodeLatin1` takes every byte for the code point of its value.  `unifyNewlines` makes every line
break a single line feed.
-/

namespace SheetAudit.Text

/-- The character that stands for bytes that are no text. -/
def replacementChar : Char := '\uFFFD'

/-- What the first byte of a sequence of several bytes says about those that follow. -/
structure Lead where
  /-- The number of bytes that follow. -/
  count : Nat
  /-- The least value of the second byte. -/
  low : UInt8
  /-- The greatest value of the second byte. -/
  high : UInt8
  /-- The bits of the code point that the first byte holds. -/
  bits : Nat

/-- Reads the first byte of a sequence of several bytes.  The bounds on the second byte leave out
what a shorter sequence could say, surrogates, and what is beyond the last code point. -/
def Lead.ofByte? (b : UInt8) : Option Lead :=
  let n := b.toNat
  if 0xC2 ≤ n ∧ n ≤ 0xDF then some ⟨1, 0x80, 0xBF, n - 0xC0⟩
  else if n = 0xE0 then some ⟨2, 0xA0, 0xBF, 0⟩
  else if n = 0xED then some ⟨2, 0x80, 0x9F, 0xD⟩
  else if 0xE1 ≤ n ∧ n ≤ 0xEF then some ⟨2, 0x80, 0xBF, n - 0xE0⟩
  else if n = 0xF0 then some ⟨3, 0x90, 0xBF, 0⟩
  else if 0xF1 ≤ n ∧ n ≤ 0xF3 then some ⟨3, 0x80, 0xBF, n - 0xF0⟩
  else if n = 0xF4 then some ⟨3, 0x80, 0x8F, 4⟩
  else none

/-- Reads the bytes that follow the first byte of a sequence.  The result is the character, or the
replacement character if the sequence breaks off, and the bytes not read. -/
def readTail : (count : Nat) → (low high : UInt8) → (bits : Nat) → List UInt8 → Char × List UInt8
  | 0, _, _, bits, bytes => (Char.ofNat bits, bytes)
  | _ + 1, _, _, _, [] => (replacementChar, [])
  | count + 1, low, high, bits, b :: bytes =>
    if low ≤ b ∧ b ≤ high then readTail count 0x80 0xBF (64 * bits + (b.toNat - 0x80)) bytes
    else (replacementChar, b :: bytes)

/-- The bytes not read are no more than those given. -/
theorem length_readTail (count : Nat) (low high : UInt8) (bits : Nat) (bytes : List UInt8) :
    (readTail count low high bits bytes).2.length ≤ bytes.length := by
  fun_induction readTail count low high bits bytes with
  | case1 => exact Nat.le_refl _
  | case2 => exact Nat.le_refl _
  | case3 _ _ _ _ _ _ _ ih => exact Nat.le_succ_of_le ih
  | case4 => exact Nat.le_refl _

/-- Reads the first character of a text and gives the bytes behind it. -/
def readChar (b : UInt8) (bytes : List UInt8) : Char × List UInt8 :=
  if b < 0x80 then (Char.ofNat b.toNat, bytes)
  else
    match Lead.ofByte? b with
    | some lead => readTail lead.count lead.low lead.high lead.bits bytes
    | none => (replacementChar, bytes)

/-- The bytes behind the first character are no more than those behind its first byte. -/
theorem length_readChar (b : UInt8) (bytes : List UInt8) :
    (readChar b bytes).2.length ≤ bytes.length := by
  unfold readChar
  split
  · exact Nat.le_refl _
  · split
    · exact length_readTail ..
    · exact Nat.le_refl _

/-- Reads UTF-8; `out` holds the characters read, last one first. -/
def decodeUtf8From (out : List Char) (bytes : List UInt8) : List Char :=
  match bytes with
  | [] => out.reverse
  | b :: rest => decodeUtf8From ((readChar b rest).1 :: out) (readChar b rest).2
termination_by bytes.length
decreasing_by
  have := length_readChar b rest
  simp only [List.length_cons]
  omega

/-- The text that bytes stand for in UTF-8. -/
def decodeUtf8 (bytes : List UInt8) : List Char :=
  decodeUtf8From [] bytes

/-- The text whose code points are the values of the bytes. -/
def decodeLatin1 (bytes : List UInt8) : List Char :=
  bytes.map fun b => Char.ofNat b.toNat

/-- Replaces line breaks; `out` holds the characters read, last one first. -/
def unifyNewlinesFrom (out : List Char) : List Char → List Char
  | [] => out.reverse
  | '\r' :: '\n' :: cs => unifyNewlinesFrom ('\n' :: out) cs
  | '\r' :: cs => unifyNewlinesFrom ('\n' :: out) cs
  | c :: cs => unifyNewlinesFrom (c :: out) cs

/-- The text with a line feed for each carriage return, with or without a line feed after it. -/
def unifyNewlines (cs : List Char) : List Char :=
  unifyNewlinesFrom [] cs

end SheetAudit.Text

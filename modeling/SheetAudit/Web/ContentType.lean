import SheetAudit.Text.Blank
import SheetAudit.Text.Case
import SheetAudit.Text.Cut
import SheetAudit.Text.Hex

/-!
# Content types

A content type is followed by parameters, divided by semicolons: `text/css; charset=utf-8`.  The
value of a parameter may be in quotes, and it may be spread over numbered sections, `charset*0` and
so on; a section whose name ends with a star has bytes as percent escapes, and its value starts with
a charset and a language of its own.  `charset?` gives the charset that a content type names, in the
form in which charsets are compared.
-/

namespace SheetAudit.Web

open SheetAudit.Text

/-! ## Parameters -/

/-- Cuts a text at its semicolons, except between quotes.  `done` holds the parts and `part` the
current one, both last one first; `inQuotes` says whether an odd number of quotes has been passed in
it. -/
def splitParametersFrom (done : List (List Char)) (part : List Char) (inQuotes : Bool) :
    List Char → List (List Char)
  | [] => (part.reverse :: done).reverse
  | c :: cs =>
    if c = ';' ∧ !inQuotes then splitParametersFrom (part.reverse :: done) [] false cs
    else
      let isQuote := c == '"' && part.head? != some '\\'
      splitParametersFrom done (c :: part) (inQuotes != isQuote) cs

/-- A value without quotes or angle brackets around it. -/
def unquoteValue (cs : List Char) : List Char :=
  let inside := (cs.drop 1).dropLast
  match cs.head?, cs.getLast? with
  | some '"', some '"' => if 2 ≤ cs.length then inside else cs
  | some '<', some '>' => inside
  | _, _ => cs

/-- The name and the value of a parameter; one without a value has an empty one. -/
def readParameter (part : List Char) : List Char × List Char :=
  let (name, value) := partition ['='] part
  (lower (trim name), unquoteValue (trim value))

/-- The parameters of a content type.  The type itself counts as one. -/
def parameters (contentType : List Char) : List (List Char × List Char) :=
  (splitParametersFrom [] [] false contentType).map readParameter

/-! ## Values in sections -/

/-- A section of a value. -/
structure Section where
  /-- The name of the parameter. -/
  name : List Char
  /-- The number of the section; a value in one piece has none. -/
  number : Option Nat
  /-- The text. -/
  text : List Char
  /-- Whether the text has bytes as percent escapes. -/
  isEscaped : Bool

/-- Reads a parameter as a section, if its name has the form of one. -/
def section? (name text : List Char) : Option Section :=
  let isNameChar := fun c => isLetter c || isDigit c || c == '_'
  let base := name.takeWhile isNameChar
  match name.dropWhile isNameChar with
  | '*' :: number =>
    let digits := number.takeWhile isDigit
    let tail := number.dropWhile isDigit
    if base.isEmpty then none
    else if number.isEmpty then some ⟨base, none, text, true⟩
    else if digits.isEmpty then none
    else if tail = [] ∨ tail = ['*'] then
      some ⟨base, some (digits.foldl (fun n c => 10 * n + (c.toNat - 48)) 0), text, !tail.isEmpty⟩
    else none
  | _ => none

/-- The order of sections: by number, then by text. -/
def Section.le (a b : Section) : Bool :=
  match a.number, b.number with
  | some m, some n => m < n || (m == n && !b.text.lex a.text (·.toNat < ·.toNat))
  | none, none => !b.text.lex a.text (·.toNat < ·.toNat)
  | none, some _ => true
  | some _, none => false

/-- Reads percent escapes as the characters with the values of the bytes; `out` holds what was read,
last character first. -/
def unescapeBytesFrom (out : List Char) : List Char → List Char
  | [] => out.reverse
  | '%' :: a :: b :: cs =>
    if isHexDigit a && isHexDigit b then
      unescapeBytesFrom (Char.ofNat (16 * hexValue a + hexValue b) :: out) cs
    else unescapeBytesFrom ('%' :: out) (a :: b :: cs)
  | c :: cs => unescapeBytesFrom (c :: out) cs

/-- The text of a section. -/
def Section.shown (s : Section) : List Char :=
  if s.isEscaped then unescapeBytesFrom [] s.text else s.text

/-- The text behind the charset and the language at its start, if it has both. -/
def dropLanguage (cs : List Char) : List Char :=
  match (cut? ['\''] cs).bind fun (_, rest) => cut? ['\''] rest with
  | some (_, text) => text
  | none => cs

/-- The value that sections make up. -/
def joinSections (sections : List Section) : List Char :=
  let value := (sections.mergeSort Section.le).flatMap (·.shown)
  if sections.any (·.isEscaped) then dropLanguage value else value

/-! ## Charset -/

/-- The value of a parameter: that of the first one with its name, or else that of its sections.
The type itself is no section. -/
def parameter? (name : List Char) (contentType : List Char) : Option (List Char) :=
  let all := parameters contentType
  let sections := (all.drop 1).filterMap fun (name, value) => section? name value
  match all.lookup name with
  | some value => some value
  | none =>
    let own := sections.filter (·.name == name)
    if own.isEmpty then none else some (joinSections own)

/-- The name of a charset as it is compared: letters in lower case, and anything else between
letters and digits as one low line. -/
def charsetName (cs : List Char) : String :=
  let isNameChar := fun c => isLetter c || isDigit c || c == '.'
  String.ofList (['_'].intercalate (((lower cs).splitOnP (!isNameChar ·)).filter (!·.isEmpty)))

/-- The name of the charset that a content type names; only ASCII text is a name. -/
def charset? (contentType : String) : Option String :=
  match parameter? "charset".toList contentType.toList with
  | some value => if value.all (·.toNat < 128) then some (charsetName value) else none
  | none => none

end SheetAudit.Web

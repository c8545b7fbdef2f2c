import SheetAudit.Text.Case
import SheetAudit.Text.Hex
import SheetAudit.Text.Quoted

/-!
# Lexemes of literals

The arguments of an event are literals: numbers, quoted text, and tuples, sets and dictionaries of
them.  `Lexeme.read` cuts a text into names, numbers, quoted texts and signs, each with the number
of brackets that are open behind it, or says what is wrong with the text.  `LiteralError` also has
the causes for which lexemes make no literal.
-/

namespace SheetAudit.Console

open SheetAudit.Text

/-- Why a text is no literal. -/
inductive LiteralError where
  /-- A bracket is never closed. -/
  | neverClosed (bracket : Char)
  /-- A bracket closes nothing. -/
  | unmatched (bracket : Char)
  /-- A bracket closes one of another kind. -/
  | mismatched (closing opening : Char)
  /-- A quoted text does not end; three quotes start a long one. -/
  | unterminated (isLong : Bool) (line : Nat)
  /-- A number is malformed. -/
  | malformedNumber (kind : String)
  /-- A digit is too large for the base of a number. -/
  | digitTooLarge (digit : Char) (kind : String)
  /-- A decimal number starts with zeros. -/
  | leadingZeros
  /-- A character that has no place outside quotes. -/
  | strayCharacter (c : Char)
  /-- A backslash is not at the end of a line. -/
  | strayBackslash
  /-- Quoted bytes are not ASCII. -/
  | bytesNotAscii
  /-- Quoted text and quoted bytes stand side by side. -/
  | mixedQuotes
  /-- A lexeme stands where it cannot. -/
  | unexpected
  /-- Two expressions stand side by side. -/
  | missingComma
  /-- A name is given a value. -/
  | assignment
  /-- Something that is no name is given a value. -/
  | assignmentTo (what : String)
  /-- An expression with stars before it stands alone in brackets. -/
  | starred (kind : String)
  /-- A key of a dictionary has no value. -/
  | missingValue
  /-- A key of a dictionary has no colon. -/
  | missingColon
  /-- A statement of old, now a function, has no brackets. -/
  | missingBrackets (name : String)
  /-- A member of a set or a key of a dictionary cannot be one. -/
  | unhashable (kind : String)
  /-- An expression is no literal. -/
  | notLiteral
  deriving DecidableEq, Repr

/-- Whether a text has the form of an expression, and only its value is wrong. -/
def LiteralError.isOfValue : LiteralError → Bool
  | .unhashable _ | .notLiteral => true
  | _ => false

/-- What an error says. -/
def LiteralError.message : LiteralError → String
  | .neverClosed bracket => s!"'{bracket}' was never closed"
  | .unmatched bracket => s!"unmatched '{bracket}'"
  | .mismatched closing opening =>
    s!"closing parenthesis '{closing}' does not match opening parenthesis '{opening}'"
  | .unterminated true line =>
    s!"unterminated triple-quoted string literal (detected at line {line})"
  | .unterminated false line => s!"unterminated string literal (detected at line {line})"
  | .malformedNumber kind => s!"invalid {kind} literal"
  | .digitTooLarge digit kind => s!"invalid digit '{digit}' in {kind} literal"
  | .leadingZeros =>
    "leading zeros in decimal integer literals are not permitted; " ++
      "use an 0o prefix for octal integers"
  | .strayCharacter c =>
    let code := String.ofList ((hexDigits 4 c.toNat).map Char.toUpper)
    if isPrintable c then s!"invalid character '{c}' (U+{code})"
    else s!"invalid non-printable character U+{code}"
  | .strayBackslash => "unexpected character after line continuation character"
  | .bytesNotAscii => "bytes can only contain ASCII literal characters"
  | .mixedQuotes => "cannot mix bytes and nonbytes literals"
  | .unexpected => "invalid syntax"
  | .missingComma => "invalid syntax. Perhaps you forgot a comma?"
  | .assignment => "invalid syntax. Maybe you meant '==' or ':=' instead of '='?"
  | .assignmentTo what => s!"cannot assign to {what} here. Maybe you meant '==' instead of '='?"
  | .starred kind => s!"cannot use {kind} expression here"
  | .missingValue => "expression expected after dictionary key and ':'"
  | .missingColon => "':' expected after dictionary key"
  | .missingBrackets name =>
    s!"Missing parentheses in call to '{name}'. Did you mean {name}(...)?"
  | .unhashable kind => s!"unhashable type: '{kind}'"
  | .notLiteral => "malformed node or string"

/-- A word of a literal. -/
inductive Word where
  /-- A name. -/
  | name (cs : List Char)
  /-- A number. -/
  | number (isImaginary : Bool)
  /-- Text in quotes, or bytes. -/
  | quoted (isBytes : Bool)
  /-- Text in quotes with expressions in it. -/
  | formatted
  /-- A bracket, a mark of punctuation or an operator. -/
  | sign (cs : List Char)
  deriving DecidableEq, Repr

/-- A word and the number of brackets that are open behind it. -/
structure Lexeme where
  /-- The word. -/
  word : Word
  /-- The number of open brackets. -/
  depth : Nat
  deriving DecidableEq, Repr

namespace Lexeme

/-! ## Numbers -/

/-- Reads digits with single low lines between them; `none` when a low line has no digit behind
it. -/
def skipDigits? (isDigitChar : Char → Bool) : List Char → Option (List Char)
  | [] => some []
  | ['_'] => none
  | '_' :: c :: cs => if isDigitChar c then skipDigits? isDigitChar cs else none
  | c :: cs => if isDigitChar c then skipDigits? isDigitChar cs else some (c :: cs)

/-- Whether a text starts with a word that may follow a number at once.  Of a word that starts with
the letter i, only the first two letters count. -/
def startsBehindNumber (cs : List Char) : Bool :=
  ["if", "in", "is"].contains (String.ofList (cs.take 2)) ||
    ["and", "else", "for", "not", "or"].contains
      (String.ofList (cs.takeWhile fun c => isLetter c || isDigit c || c == '_' || 128 ≤ c.toNat))

/-- Checks what follows a number. -/
def checkNumberEnd (kind : String) (cs : List Char) : Except LiteralError (List Char) :=
  match cs with
  | c :: _ =>
    if (isLetter c || isDigit c || c == '_') && !startsBehindNumber cs then
      .error (.malformedNumber kind)
    else .ok cs
  | [] => .ok []

/-- Reads the digits of a number in another base than ten, behind the letter for the base. -/
def readBase (kind : String) (isDigitChar : Char → Bool) (cs : List Char) :
    Except LiteralError (List Char) :=
  let digits := match cs with
    | '_' :: rest => rest
    | _ => cs
  let fault (rest : List Char) : LiteralError := match rest with
    | c :: _ => if isDigit c then .digitTooLarge c kind else .malformedNumber kind
    | [] => .malformedNumber kind
  if !digits.head?.any isDigitChar then .error (fault digits)
  else
    match skipDigits? isDigitChar digits with
    | none => .error (fault ((digits.dropWhile isDigitChar).drop 1))
    | some rest => if rest.head?.any isDigit then .error (fault rest) else checkNumberEnd kind rest

/-- Reads the fraction, the exponent and the letter of an imaginary number.  `zeros` says that the
whole part starts with zeros that it may not have. -/
def readNumberTail (zeros : Bool) (cs : List Char) : Except LiteralError (Bool × List Char) := do
  let decimal : LiteralError := .malformedNumber "decimal"
  let digits (cs : List Char) : Except LiteralError (List Char) :=
    match skipDigits? isDigit cs with
    | some rest => .ok rest
    | none => .error decimal
  let hasFraction := cs.head? = some '.'
  let rest ←
    match cs with
    | '.' :: c :: cs => if isDigit c then digits cs else pure (c :: cs)
    | '.' :: cs => pure cs
    | cs => pure cs
  let (hasExponent, rest) ←
    match rest with
    | e :: sign :: d :: cs =>
      if (e == 'e' || e == 'E') && (sign == '+' || sign == '-') then
        if isDigit d then pure (true, ← digits cs) else throw decimal
      else if (e == 'e' || e == 'E') && isDigit sign then pure (true, ← digits (d :: cs))
      else pure (false, rest)
    | [e, d] =>
      if (e == 'e' || e == 'E') && isDigit d then pure (true, [])
      else if (e == 'e' || e == 'E') && (d == '+' || d == '-') then throw decimal
      else pure (false, rest)
    | _ => pure (false, rest)
  match rest with
  | 'j' :: cs | 'J' :: cs => return (true, ← checkNumberEnd "imaginary" cs)
  | _ =>
    if zeros && !hasFraction && !hasExponent then throw .leadingZeros
    return (false, ← checkNumberEnd "decimal" rest)

/-- Reads a number from the start of a text: whether it is imaginary, and what follows it. -/
def readNumber (cs : List Char) : Except LiteralError (Bool × List Char) :=
  match cs with
  | '0' :: base :: rest =>
    if base == 'x' || base == 'X' then
      (readBase "hexadecimal" isHexDigit rest).map (false, ·)
    else if base == 'o' || base == 'O' then
      (readBase "octal" (fun c => '0' ≤ c && c ≤ '7') rest).map (false, ·)
    else if base == 'b' || base == 'B' then
      (readBase "binary" (fun c => c == '0' || c == '1') rest).map (false, ·)
    else
      match skipDigits? isDigit cs with
      | none => .error (.malformedNumber "decimal")
      | some after =>
        let digits := cs.take (cs.length - after.length)
        readNumberTail (digits.any fun c => c != '0' && c != '_') after
  | '.' :: _ => readNumberTail false cs
  | _ =>
    match skipDigits? isDigit cs with
    | none => .error (.malformedNumber "decimal")
    | some after => readNumberTail false after

/-! ## Quoted text -/

/-- The text behind the end of a quoted text, and the number of line breaks in it.  A short text
ends with its line. -/
def skipQuoted? (quote : Char) (isLong : Bool) (lines : Nat) : List Char → Option (Nat × List Char)
  | [] => none
  | '\\' :: c :: cs => skipQuoted? quote isLong (if c = '\n' then lines + 1 else lines) cs
  | c :: cs =>
    if c = '\n' then if isLong then skipQuoted? quote isLong (lines + 1) cs else none
    else if c = quote then
      if !isLong then some (lines, cs)
      else if [quote, quote].isPrefixOf cs then some (lines, cs.drop 2)
      else skipQuoted? quote isLong lines cs
    else skipQuoted? quote isLong lines cs

/-- The words that may stand before a quote, and whether they make bytes or a text with
expressions. -/
def quotePrefixes : List (String × Word) :=
  [("", .quoted false), ("r", .quoted false), ("u", .quoted false), ("b", .quoted true),
    ("br", .quoted true), ("rb", .quoted true), ("f", .formatted), ("fr", .formatted),
    ("rf", .formatted)]

/-- Reads a quoted text whose first quote is the head of the text: the lines it spans and what
follows it. -/
def readQuoted (word : Word) (line : Nat) (cs : List Char) :
    Except LiteralError (Nat × List Char) :=
  match cs with
  | quote :: rest =>
    let isLong := [quote, quote].isPrefixOf rest
    let body := if isLong then rest.drop 2 else rest
    match skipQuoted? quote isLong 0 body with
    | none =>
      let lines := if isLong then body.count '\n' else 0
      .error (.unterminated isLong (line + lines))
    | some (lines, after) =>
      if word = .quoted true && (body.take (body.length - after.length)).any (128 ≤ ·.toNat) then
        .error .bytesNotAscii
      else .ok (lines, after)
  | [] => .ok (0, [])

/-! ## Lexemes -/

/-- The signs of several characters, the longest first. -/
def longSigns : List (List Char) :=
  ["...", "**=", "//=", ">>=", "<<=", "**", "//", ">>", "<<", "<=", ">=", "==", "!=", "->", ":=",
    "+=", "-=", "*=", "/=", "%=", "&=", "|=", "^=", "@=", "<>"].map String.toList

/-- The bracket that closes another. -/
def closingOf (opening : Char) : Char :=
  match opening with
  | '(' => ')'
  | '[' => ']'
  | _ => '\x7d'

/-- What reading lexemes gives. -/
structure Lexemes where
  /-- The lexemes. -/
  items : List Lexeme
  /-- What is wrong with the end: a bracket is open there, or the text goes on with a backslash. -/
  fault : Option LiteralError

/-- Cuts a text into lexemes, up to a backslash that does not end its line.  `fuel` is at least the
length of the text, `line` the number of the line, `opened` holds the open brackets and `done` the
lexemes, both last one first. -/
def readFrom : (fuel : Nat) → (line : Nat) → (opened : List Char) → (done : List Lexeme) →
    List Char → Except LiteralError Lexemes
  | 0, _, opened, done, _ => .ok ⟨done.reverse, opened.head?.map .neverClosed⟩
  | _, _, opened, done, [] => .ok ⟨done.reverse, opened.head?.map .neverClosed⟩
  | fuel + 1, line, opened, done, c :: cs =>
    let add (word : Word) : List Lexeme := ⟨word, opened.length⟩ :: done
    if c = '\n' then readFrom fuel (line + 1) opened done cs
    else if c = ' ' ∨ c = '\t' ∨ c = '\x0c' then readFrom fuel line opened done cs
    else if c = '#' then readFrom fuel line opened done (cs.dropWhile (· != '\n'))
    else if c = '\\' then
      match cs with
      | '\n' :: rest => readFrom fuel (line + 1) opened done rest
      | _ => .ok ⟨done.reverse, some .strayBackslash⟩
    else if c = '"' ∨ c = '\'' then
      match readQuoted (.quoted false) line (c :: cs) with
      | .error e => .error e
      | .ok (lines, rest) => readFrom fuel (line + lines) opened (add (.quoted false)) rest
    else if isDigit c || (c == '.' && cs.head?.any isDigit) then
      match readNumber (c :: cs) with
      | .error e => .error e
      | .ok (isImaginary, rest) => readFrom fuel line opened (add (.number isImaginary)) rest
    else if isWord c then
      let name := c :: cs.takeWhile isWord
      let rest := cs.dropWhile isWord
      match quotePrefixes.lookup (String.ofList (lower name)), rest with
      | some word, quote :: _ =>
        if quote = '"' ∨ quote = '\'' then
          match readQuoted word line rest with
          | .error e => .error e
          | .ok (lines, rest) => readFrom fuel (line + lines) opened (add word) rest
        else readFrom fuel line opened (add (.name name)) rest
      | _, _ => readFrom fuel line opened (add (.name name)) rest
    else if 128 ≤ c.toNat then .error (.strayCharacter c)
    else if c = '(' ∨ c = '[' ∨ c = '\x7b' then
      readFrom fuel line (c :: opened) (⟨.sign [c], opened.length + 1⟩ :: done) cs
    else if c = ')' ∨ c = ']' ∨ c = '\x7d' then
      match opened with
      | [] => .error (.unmatched c)
      | last :: opened =>
        if closingOf last = c then readFrom fuel line opened (⟨.sign [c], opened.length⟩ :: done) cs
        else .error (.mismatched c last)
    else
      match longSigns.find? (·.isPrefixOf (c :: cs)) with
      | some sign => readFrom fuel line opened (add (.sign sign)) (cs.drop (sign.length - 1))
      | none => readFrom fuel line opened (add (.sign [c])) cs

/-- The lexemes of a text. -/
def read (cs : List Char) : Except LiteralError Lexemes :=
  readFrom cs.length 1 [] [] cs

end Lexeme

end SheetAudit.Console

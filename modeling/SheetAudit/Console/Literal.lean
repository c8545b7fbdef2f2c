import SheetAudit.Console.Lexeme

/-!
# Literals

`check` says whether a text is a literal: a number, perhaps with a sign, a complex number, quoted
text, one of the words for truth and nothing, an ellipsis, or a tuple, a set or a dictionary of
literals.  Other expressions are told apart from text that is no expression, since the complaints
differ.
-/

namespace SheetAudit.Console.Literal

open Lexeme

/-- What an expression is, as far as complaints need to know. -/
inductive Form where
  /-- A name. -/
  | name
  /-- A number without sign. -/
  | number (isImaginary : Bool)
  /-- A number with a sign. -/
  | signed
  /-- Another constant. -/
  | constant
  /-- An attribute of something. -/
  | attribute
  /-- The call of a function. -/
  | call
  /-- A tuple. -/
  | tuple
  /-- A set. -/
  | set
  /-- A dictionary. -/
  | dictionary
  /-- Anything else. -/
  | other
  deriving DecidableEq, Repr

/-- An expression. -/
structure Expression where
  /-- What it is. -/
  form : Form
  /-- What is wrong with its value. -/
  fault : Option LiteralError := none
  /-- The kind of value in it that cannot be in a set. -/
  unhashable : Option String := none

/-- Why there is no expression: the lexemes where reading stopped, or a special cause. -/
inductive Stop where
  /-- Reading stopped before these lexemes. -/
  | before (rest : List Lexeme)
  /-- A special cause. -/
  | cause (e : LiteralError)

/-- An expression and the lexemes behind it. -/
abbrev Result := Except Stop (Expression × List Lexeme)

/-- The words that are no names. -/
def keywords : List String :=
  ["and", "as", "assert", "async", "await", "break", "class", "continue", "def", "del", "elif",
    "else", "except", "finally", "for", "from", "global", "if", "import", "in", "is", "lambda",
    "nonlocal", "not", "or", "pass", "raise", "return", "try", "while", "with", "yield"]

/-- The words for truth and nothing. -/
def constantNames : List String :=
  ["True", "False", "None"]

/-- The signs and words between two operands. -/
def operators : List String :=
  ["+", "-", "*", "/", "//", "%", "@", "**", "<<", ">>", "&", "^", "|", "<", ">", "==", "!=", "<=",
    ">=", "and", "or", "in", "is"]

/-- The text of a word, for those that are signs or names. -/
def wordText (word : Word) : String :=
  match word with
  | .name cs => String.ofList cs
  | .sign cs => String.ofList cs
  | _ => ""

/-- Whether the next lexeme is a sign or a name with a text. -/
def startsWith (text : String) (ts : List Lexeme) : Bool :=
  ts.head?.any fun t => wordText t.word == text

/-- The value of two operands: of a number and an imaginary one it is a literal. -/
def combine (operator : String) (a b : Expression) : Expression :=
  let isReal := a.form = .number false || a.form = .signed
  if (operator = "+" || operator = "-") && isReal && b.form = .number true then ⟨.other, none, none⟩
  else ⟨.other, some .notLiteral, none⟩

/-- A tuple of members. -/
def tupleOf (members : List Expression) : Expression :=
  ⟨.tuple, members.findSome? (·.fault), members.findSome? (·.unhashable)⟩

/-- The fault of members of a set, or keys of a dictionary. -/
def memberFault? (members : List Expression) : Option LiteralError :=
  (members.findSome? (·.fault)).or ((members.findSome? (·.unhashable)).map .unhashable)

/-- How complaints call an expression that is given a value. -/
def Form.description? : Form → Option String
  | .number _ | .constant => some "literal"
  | .attribute => some "attribute"
  | .call => some "function call"
  | .signed | .other => some "expression"
  | .set => some "set display"
  | .dictionary => some "dict literal"
  | .name | .tuple => none

/-- The depth of the last lexeme of a list before its rest. -/
def lastDepth (ts rest : List Lexeme) : Nat :=
  ((ts.take (ts.length - rest.length)).getLast?.map (·.depth)).getD 0

/-- Whether an expression that starts with these lexemes may be followed by another one by mistake:
not a name before quotes, nor a word that can start a statement. -/
def mayLackComma (ts : List Lexeme) : Bool :=
  match ts with
  | ⟨.name cs, _⟩ :: ⟨.quoted _, _⟩ :: _ | ⟨.name cs, _⟩ :: ⟨.formatted, _⟩ :: _ =>
    constantNames.contains (String.ofList cs)
  | ⟨.name cs, _⟩ :: _ => !(["_", "case", "match"].contains (String.ofList cs))
  | _ => true

/-- The cause for an expression from `start` to `rest` with something unexpected behind it.  `whole`
reads an expression, and `first` the first part of one. -/
def stopBehind (whole first : List Lexeme → Result) (start rest : List Lexeme) : Stop :=
  if rest.isEmpty then .before []
  else
    let next := match whole rest with
      | .error (.before (_ :: _)) => first rest
      | result => result
    match next with
    | .error (.before []) => .before []
    | .error _ => .before rest
    | .ok (_, after) =>
      let word := (start.head?.map fun t => wordText t.word).getD ""
      if start.length = rest.length + 1 && (word == "print" || word == "exec") then
        .cause (.missingBrackets word)
      else if !mayLackComma start then .before rest
      else if lastDepth rest after ≠ 0 then
        -- the end inside a bracket is noticed first
        if after.isEmpty then .before [] else .cause .missingComma
      else .before rest

mutual

/-- Reads an expression. -/
def expression (fuel : Nat) (ts : List Lexeme) : Result :=
  match fuel with
  | 0 => .error (.before ts)
  | fuel + 1 => do
    let (a, rest) ← operand fuel ts
    operation fuel a rest

/-- Reads what follows the operand `a`. -/
def operation (fuel : Nat) (a : Expression) (ts : List Lexeme) : Result :=
  match fuel with
  | 0 => .error (.before ts)
  | fuel + 1 =>
    match ts with
    | ⟨word, _⟩ :: rest =>
      let text := wordText word
      if operators.contains text then do
        let rest := if text == "is" && startsWith "not" rest then rest.drop 1 else rest
        let (b, rest) ← operand fuel rest
        operation fuel (combine text a b) rest
      else if text == "not" && startsWith "in" rest then do
        let (b, rest) ← operand fuel (rest.drop 1)
        operation fuel (combine text a b) rest
      else if text == "if" then do
        let (_, rest) ← expression fuel rest
        if startsWith "else" rest then
          let (_, rest) ← expression fuel (rest.drop 1)
          return (⟨.other, some .notLiteral, none⟩, rest)
        else throw (.before rest)
      else .ok (a, ts)
    | [] => .ok (a, [])

/-- Reads an operand: signs, and something with calls and attributes behind it. -/
def operand (fuel : Nat) (ts : List Lexeme) : Result :=
  match fuel with
  | 0 => .error (.before ts)
  | fuel + 1 =>
    if startsWith "-" ts || startsWith "+" ts then do
      let (a, rest) ← operand fuel (ts.drop 1)
      match a.form with
      | .number _ => return (⟨.signed, none, none⟩, rest)
      | _ => return (⟨.other, some (a.fault.getD .notLiteral), none⟩, rest)
    else if startsWith "~" ts || startsWith "not" ts then do
      let (_, rest) ← operand fuel (ts.drop 1)
      return (⟨.other, some .notLiteral, none⟩, rest)
    else do
      let (a, rest) ← atom fuel ts
      trailers fuel a (startsWith "set" ts) rest

/-- Reads the calls and attributes behind something; `isSet` says that it is the name of the empty
set. -/
def trailers (fuel : Nat) (a : Expression) (isSet : Bool) (ts : List Lexeme) : Result :=
  match fuel with
  | 0 => .error (.before ts)
  | fuel + 1 =>
    match ts with
    | ⟨.sign ['.'], _⟩ :: ⟨.name _, _⟩ :: rest =>
      trailers fuel ⟨.attribute, some .notLiteral, none⟩ false rest
    | ⟨.sign ['.'], _⟩ :: rest => .error (.before rest)
    | ⟨.sign ['('], _⟩ :: ⟨.sign [')'], _⟩ :: rest =>
      trailers fuel ⟨.call, if isSet then none else some .notLiteral, none⟩ false rest
    | ⟨.sign ['('], _⟩ :: rest => do
      let (_, _, rest) ← members fuel true [] rest
      trailers fuel ⟨.call, some .notLiteral, none⟩ false rest
    | _ => .ok (a, ts)

/-- Reads something without calls and attributes. -/
def atom (fuel : Nat) (ts : List Lexeme) : Result :=
  match fuel with
  | 0 => .error (.before ts)
  | fuel + 1 =>
    match ts with
    | ⟨.number isImaginary, _⟩ :: rest => .ok (⟨.number isImaginary, none, none⟩, rest)
    | ⟨.quoted isBytes, _⟩ :: rest =>
      let isQuoted (t : Lexeme) : Bool := match t.word with
        | .quoted _ => true
        | _ => false
      let more := rest.takeWhile isQuoted
      if more.all (·.word == .quoted isBytes) then
        .ok (⟨.constant, none, none⟩, rest.dropWhile isQuoted)
      else .error (.cause .mixedQuotes)
    | ⟨.formatted, _⟩ :: rest => .ok (⟨.other, some .notLiteral, none⟩, rest)
    | ⟨.name cs, _⟩ :: rest =>
      if constantNames.contains (String.ofList cs) then .ok (⟨.constant, none, none⟩, rest)
      else if keywords.contains (String.ofList cs) then .error (.before ts)
      else .ok (⟨.name, some .notLiteral, none⟩, rest)
    | ⟨.sign ['.', '.', '.'], _⟩ :: rest => .ok (⟨.constant, none, none⟩, rest)
    | ⟨.sign ['('], _⟩ :: ⟨.sign [')'], _⟩ :: rest => .ok (tupleOf [], rest)
    | ⟨.sign ['('], _⟩ :: ⟨.sign ['*'], _⟩ :: rest => do
      let (_, after) ← expression fuel rest
      throw (if startsWith ")" after then .cause (.starred "starred") else .before after)
    | ⟨.sign ['('], _⟩ :: ⟨.sign ['*', '*'], _⟩ :: rest => do
      let (_, after) ← expression fuel rest
      throw (if startsWith ")" after then .cause (.starred "double starred") else .before after)
    | ⟨.sign ['('], _⟩ :: rest => do
      let (items, isTuple, rest) ← members fuel false [] rest
      match items, isTuple with
      | [item], false => return (item, rest)
      | _, _ => return (tupleOf items, rest)
    | ⟨.sign ['\x7b'], _⟩ :: ⟨.sign ['\x7d'], _⟩ :: rest =>
      .ok (⟨.dictionary, none, some "dict"⟩, rest)
    | ⟨.sign ['\x7b'], _⟩ :: rest => do
      let (_, after) ← expression fuel rest
      if startsWith ":" after then
        pairs fuel [] [] rest
      else
        let (items, _, rest) ← members fuel false [] rest
        return (⟨.set, memberFault? items, some "set"⟩, rest)
    | _ => .error (.before ts)

/-- Reads the members of a tuple, a set or a call up to the closing bracket; says also whether there
was a comma.  In a call a name may be given a value. -/
def members (fuel : Nat) (isCall : Bool) (done : List Expression) (ts : List Lexeme) :
    Except Stop (List Expression × Bool × List Lexeme) :=
  match fuel with
  | 0 => .error (.before ts)
  | fuel + 1 => do
    let (a, rest) ← expression fuel ts
    match rest with
    | ⟨.sign [')'], _⟩ :: rest | ⟨.sign ['\x7d'], _⟩ :: rest =>
      return ((a :: done).reverse, !done.isEmpty, rest)
    | ⟨.sign [','], _⟩ :: ⟨.sign [')'], _⟩ :: rest
    | ⟨.sign [','], _⟩ :: ⟨.sign ['\x7d'], _⟩ :: rest => return ((a :: done).reverse, true, rest)
    | ⟨.sign [','], _⟩ :: rest => members fuel isCall (a :: done) rest
    | ⟨.sign ['='], _⟩ :: value =>
      let (_, after) ← expression fuel value
      if isCall && a.form == .name then
        -- goes on behind the value as behind a member
        if startsWith ")" after then return ((a :: done).reverse, true, after.drop 1)
        else if startsWith "," after then members fuel isCall (a :: done) (after.drop 1)
        else throw (stopBehind (expression fuel) (atom fuel) value after)
      else if startsWith "=" after || startsWith ":=" after then throw (.before rest)
      else
        match a.form, a.form.description? with
        | .name, _ => throw (.cause .assignment)
        | _, some what => throw (.cause (.assignmentTo what))
        | _, none => throw (.before rest)
    | _ => throw (stopBehind (expression fuel) (atom fuel) ts rest)

/-- Reads the pairs of a dictionary up to the closing bracket. -/
def pairs (fuel : Nat) (keys values : List Expression) (ts : List Lexeme) : Result :=
  match fuel with
  | 0 => .error (.before ts)
  | fuel + 1 => do
    let (key, rest) ← expression fuel ts
    match rest with
    | ⟨.sign [':'], _⟩ :: ⟨.sign ['\x7d'], _⟩ :: _ | ⟨.sign [':'], _⟩ :: ⟨.sign [','], _⟩ :: _ =>
      throw (.cause .missingValue)
    | ⟨.sign [':'], _⟩ :: value =>
      let (value', after) ← expression fuel value
      let keys := key :: keys
      let values := value' :: values
      let done : Expression :=
        ⟨.dictionary, (values.reverse.findSome? (·.fault)).or (memberFault? keys.reverse),
          some "dict"⟩
      match after with
      | ⟨.sign ['\x7d'], _⟩ :: after => return (done, after)
      | ⟨.sign [','], _⟩ :: ⟨.sign ['\x7d'], _⟩ :: after => return (done, after)
      | ⟨.sign [','], _⟩ :: after => pairs fuel keys values after
      | _ => throw (stopBehind (expression fuel) (atom fuel) value after)
    | [] => throw (.before [])
    | _ =>
      match stopBehind (expression fuel) (atom fuel) ts rest with
      | .before (_ :: _) => throw (.cause .missingColon)
      | stop => throw stop

end

/-- Reads expressions with commas between them up to the end. -/
def row (fuel : Nat) (done : List Expression) (ts : List Lexeme) : Except Stop Expression :=
  match fuel with
  | 0 => .error (.before ts)
  | fuel + 1 => do
    let (a, rest) ← expression fuel ts
    match rest with
    | [] => return if done.isEmpty then a else tupleOf (a :: done).reverse
    | [⟨.sign [','], _⟩] => return tupleOf (a :: done).reverse
    | ⟨.sign [','], _⟩ :: rest => row fuel (a :: done) rest
    | _ => throw (stopBehind (expression fuel) (atom fuel) ts rest)

/-- Checks that a text is a literal. -/
def check (cs : List Char) : Except LiteralError Unit := do
  let lexemes ← Lexeme.read cs
  match row (8 * lexemes.items.length + 8) [] lexemes.items with
  | .error (.cause e) => throw e
  | .error (.before []) => throw (lexemes.fault.getD .unexpected)
  | .error (.before _) => throw .unexpected
  | .ok a =>
    if let some e := lexemes.fault.or a.fault then throw e

end SheetAudit.Console.Literal

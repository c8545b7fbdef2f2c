import SheetAudit.Console.Literal
import SheetAudit.Text.Blank
import SheetAudit.Text.Word

/-!
# Events

A tag with an at sign ties an event to its text.  Behind the equals sign stands the name of a
handler, perhaps with arguments in brackets, or arguments alone.
-/

namespace SheetAudit.Console

open SheetAudit.Text

/-- Why the arguments of an event cannot be read. -/
structure ArgumentError where
  /-- What stands behind the equals sign. -/
  written : String
  /-- The part of it that is read as arguments. -/
  arguments : String
  /-- What is wrong with the arguments. -/
  error : LiteralError
  deriving DecidableEq, Repr

/-- What an error says. -/
def ArgumentError.message (e : ArgumentError) : String :=
  if e.error.isOfValue then s!"error parsing {quoted e.written}; {e.error.message}"
  else s!"error parsing {quoted e.arguments} in {quoted e.written}; {e.error.message}"

/-- The arguments in what follows an equals sign: those in brackets behind the name of a handler,
none behind a name alone, and else all of it. -/
def argumentsOf (cs : List Char) : List Char :=
  let text := trim cs
  match text.dropWhile fun c => isWord c || c == '.' with
  | [] => ['(', ')']
  | '(' :: rest =>
    if rest.getLast? = some ')' && !rest.contains '\n' then '(' :: rest else text
  | _ => text

/-- Checks the arguments of an event. -/
def checkArguments (written : List Char) : Except ArgumentError Unit :=
  let arguments := argumentsOf written
  (Literal.check arguments).mapError fun e => ⟨String.ofList written, String.ofList arguments, e⟩

end SheetAudit.Console

import SheetAudit.Console.Screen
import SheetAudit.Number.Binary64

/-!
# Writing to a console

What a program writes is a row of pieces.  A piece with broken markup, or with a number that has no
text, cannot be shown, and nothing is written behind it: `write` gives the text before it and the
reason.
-/

namespace SheetAudit.Console

open Number

/-- Why something cannot be shown. -/
inductive ConsoleError where
  /-- A text is broken markup. -/
  | markup (e : MarkupError)
  /-- A number cannot be shown. -/
  | number (e : NumberError)
  deriving DecidableEq, Repr

/-- What an error says. -/
def ConsoleError.message : ConsoleError → String
  | .markup e => e.message
  | .number e => e.message

/-- Something to be written: its text, or why it cannot be shown. -/
abbrev Piece := Except ConsoleError (List Char)

namespace Screen

variable (screen : Screen)

/-- A text with markup, read. -/
def readMarkup (cs : List Char) : Except ConsoleError Markup.Marked :=
  (screen.markup cs).mapError .markup

/-- A text with markup, read and with its styles checked. -/
def checkedMarkup (cs : List Char) : Except ConsoleError Markup.Marked := do
  let marked ← screen.readMarkup cs
  (screen.check marked).mapError .markup
  return marked

/-- What is written for a text with markup. -/
def displayMarkup (cs : List Char) : Piece := do
  return screen.display (← screen.checkedMarkup cs).text

end Screen

/-- What came of writing. -/
structure Written where
  /-- The text that was written. -/
  text : List Char
  /-- Why the writing stopped, if it did. -/
  error : Option ConsoleError
  deriving DecidableEq, Repr

/-- Writes pieces in a row; `done` holds the texts written before, last one first. -/
def writeFrom (done : List (List Char)) : List Piece → Written
  | [] => ⟨done.reverse.flatten, none⟩
  | .ok text :: rest => writeFrom (text :: done) rest
  | .error e :: _ => ⟨done.reverse.flatten, some e⟩

/-- Writes pieces in a row, up to the first that cannot be shown. -/
def write (pieces : List Piece) : Written :=
  writeFrom [] pieces

/-- What has been written comes in front of the rest. -/
theorem writeFrom_eq (done : List (List Char)) (pieces : List Piece) :
    writeFrom done pieces =
      ⟨done.reverse.flatten ++ (write pieces).text, (write pieces).error⟩ := by
  induction pieces generalizing done with
  | nil => simp [write, writeFrom]
  | cons p rest ih =>
    cases p with
    | error e => simp [write, writeFrom]
    | ok text =>
      simp only [write, writeFrom]
      rw [ih (text :: done), ih [text]]
      simp

/-- Nothing to write is written without an error. -/
@[simp]
theorem write_nil : write [] = ⟨[], none⟩ := by
  simp [write, writeFrom]

/-- A piece that can be shown is written in front of the rest. -/
@[simp]
theorem write_ok (text : List Char) (rest : List Piece) :
    write (.ok text :: rest) = ⟨text ++ (write rest).text, (write rest).error⟩ := by
  simp [write, writeFrom, writeFrom_eq [text]]

/-- A piece that cannot be shown ends the writing. -/
@[simp]
theorem write_error (e : ConsoleError) (rest : List Piece) :
    write (.error e :: rest) = ⟨[], some e⟩ := by
  simp [write, writeFrom]

end SheetAudit.Console

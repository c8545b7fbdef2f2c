import SheetAudit.Console.Markup

/-!
# Screens

A console has a width.  A line that fits into it is shown as it is, and so is a table whose rows all
fit.  How a wider line is broken up and a wider table is made narrower is left to the console, so a
`Screen` has a function for each of the two, which may be any function.  It also reads the markup of
the texts that it is given.  `Screen.wide` is the console that the program runs with.
-/

namespace SheetAudit.Console

open SheetAudit.Text

/-- A console. -/
structure Screen where
  /-- The number of its columns. -/
  width : Nat
  /-- The lines into which a line is broken that is wider than a number of columns. -/
  fold : Nat → List Char → List (List Char)
  /-- The rows in which a table is shown that is wider than the console. -/
  narrow : List (List Char) → List (List Char)
  /-- How a text with markup is read. -/
  markup : List Char → Except MarkupError Markup.Marked
  /-- Whether the styles of a text that has been read can be shown. -/
  check : Markup.Marked → Except MarkupError Unit

namespace Screen

/-- The console of the program: it has 200 columns, and wider lines go on behind the last of
them. -/
def wide : Screen where
  width := 200
  fold _ line := [line]
  narrow rows := rows
  markup := Markup.render
  check := Markup.Marked.check

variable (screen : Screen)

/-- A line in a number of columns: as it is if it fits, else broken up. -/
def fit (columns : Nat) (line : List Char) : List (List Char) :=
  if textWidth line ≤ columns then [line] else screen.fold columns line

/-- The rows of a table: as they are if all of them fit. -/
def fitTable (rows : List (List Char)) : List (List Char) :=
  if rows.all (textWidth · ≤ screen.width) then rows else screen.narrow rows

/-- What is written for a text: its lines, each with a line break. -/
def display (cs : List Char) : List Char :=
  ((displayLines cs).flatMap (screen.fit screen.width)).flatMap (· ++ ['\n'])

end Screen

end SheetAudit.Console

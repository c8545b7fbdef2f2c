import SheetAudit.Console.Writing

/-!
# Panels

The frame around the heading of a run.
-/

namespace SheetAudit.Console

open SheetAudit.Text

/-- A panel over the whole width of a console, with a title in its upper border.  The console is at
least as wide as the title. -/
def Screen.panel (screen : Screen) (title content : String) : Piece := do
  let marked ← screen.checkedMarkup content.toList
  let heading := ' ' :: title.toList ++ [' ']
  let border := screen.width - 2
  let left := (border - textWidth heading) / 2
  let right := border - textWidth heading - left
  let rule (n : Nat) : List Char := List.replicate n '─'
  let inside := screen.width - 4
  let row (columns : Nat) (cs : List Char) : List Char :=
    "│ ".toList ++ cs ++ List.replicate (inside - columns) ' ' ++ " │\n".toList
  let rows (line : List (List Char)) : List Char :=
    if segmentWidth line ≤ inside then row (segmentWidth line) (segmentText line)
    else (screen.fold inside (segmentText line)).flatMap fun cs => row (textWidth cs) cs
  return '╭' :: rule left ++ heading ++ rule right ++ "╮\n".toList ++
    marked.lines.flatMap rows ++ '╰' :: rule border ++ "╯\n".toList

end SheetAudit.Console

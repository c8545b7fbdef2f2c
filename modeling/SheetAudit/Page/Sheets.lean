import SheetAudit.Page.Nesting
import SheetAudit.Stylesheet.Rule
import SheetAudit.Text.Blank

/-!
# The stylesheets of a page

A page holds the text of style elements and links to further sheets.  A link counts when its
relation names a stylesheet, in any letter case and perhaps among other words; its target is
trimmed, and a target counts once.
-/

namespace SheetAudit.Page

open SheetAudit.Text
open Stylesheet (Source)

/-- The sheets that style elements hold, numbered from one. -/
def inlineSheets (tags : List Tag) : List Source :=
  (tags.filter (·.name == "style".toList)).zipIdx.map fun (t, i) =>
    ⟨s!"inline-style-{i + 1}", String.ofList t.text⟩

/-- Whether a tag is a link to a stylesheet. -/
def isSheetLink (t : Tag) : Bool :=
  t.name == "link".toList &&
    match t.attribute? "rel".toList with
    | some rel => (words rel).any (lower · == "stylesheet".toList)
    | none => false

/-- The target of a link to a stylesheet, unless it is blank. -/
def sheetTarget? (t : Tag) : Option String :=
  if isSheetLink t then
    match t.attribute? "href".toList with
    | some href => if (trim href).isEmpty then none else some (String.ofList (trim href))
    | none => none
  else none

/-- The targets with a new one at the end, unless it is among them. -/
def addTarget (targets : List String) (target : String) : List String :=
  if targets.contains target then targets else targets ++ [target]

/-- The targets of the links to stylesheets, each where it first appears. -/
def sheetTargets (tags : List Tag) : List String :=
  (tags.filterMap sheetTarget?).foldl addTarget []

end SheetAudit.Page

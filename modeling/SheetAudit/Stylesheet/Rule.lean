import SheetAudit.Text.Blank

/-!
# Style rules

A style rule is a selector with the declarations of its block, and the place where it was found.
The selector may list alternatives divided by commas; each alternative is checked on its own.
-/

namespace SheetAudit.Stylesheet

open SheetAudit.Text

/-- A named stylesheet: a file, a style element of a page, or a linked sheet. -/
structure Source where
  /-- The name under which the sheet is reported. -/
  name : String
  /-- The text of the sheet. -/
  content : String
  deriving DecidableEq, Repr, Inhabited

/-- A style rule and where it stands. -/
structure Rule where
  /-- The selector, with all its alternatives. -/
  selector : String
  /-- The declarations of the block, in order. -/
  declarations : List String
  /-- The line on which the selector starts, counted from one. -/
  line : Nat
  /-- The name of the sheet that holds the rule. -/
  source : String
  deriving DecidableEq, Repr, Inhabited

/-- The non-empty entries of a declaration block, which semicolons divide, each trimmed. -/
def splitDeclarations (block : List Char) : List String :=
  (((block.splitOn ';').map trim).filter (!·.isEmpty)).map String.ofList

/-- The alternatives of a selector, which commas divide, each trimmed. -/
def Rule.selectors (r : Rule) : List String :=
  (r.selector.toList.splitOn ',').map (String.ofList <| trim ·)

/-- The number of selectors of a list of rules: the parts into which commas divide each of them,
which need not be trimmed to be counted. -/
def selectorCount (rules : List Rule) : Nat :=
  (rules.map fun r => (r.selector.toList.splitOn ',').length).foldr (· + ·) 0

/-- Each part between commas is one alternative, an empty one too. -/
theorem Rule.length_selectors (r : Rule) :
    r.selectors.length = (r.selector.toList.splitOn ',').length := by
  simp [Rule.selectors]

end SheetAudit.Stylesheet

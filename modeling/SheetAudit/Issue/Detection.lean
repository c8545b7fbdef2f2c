import SheetAudit.Issue.Basic
import SheetAudit.Selector.Shape
import SheetAudit.Selector.Specificity
import SheetAudit.Stylesheet.Declaration

/-!
# Detecting issues

Three detectors look at the rules of all sheets together: `selectorIssues` at every alternative of
every selector, `importantIssues` at every declaration, `duplicateIssues` at the groups of equal
declarations.  `detectIssues` runs them in this order.
-/

namespace SheetAudit

open Stylesheet (Rule declarationGroups DeclarationGroup)
open Selector

/-- The number of nested compound selectors that is still accepted. -/
def maxNesting : Nat := 4

/-- The number of equal declarations from which on they are reported. -/
def minRepeats : Nat := 3

/-- The number of characters of a declaration that a message shows. -/
def declarationExcerpt : Nat := 60

/-- An issue about one alternative of the selector of a rule. -/
def Issue.ofSelector (r : Rule) (selector : String) (kind : IssueKind) (severity : Severity)
    (message : String) (hint : Option String) : Issue :=
  { kind, severity, message, selector, source := r.source, line := r.line, hint }

/-- The issue with the specificity of a selector, if it is too high. -/
def specificityIssue? (r : Rule) (selector : String) : Option Issue :=
  let sp := specificity selector.toList
  if 2 ≤ sp.ids then
    some <| .ofSelector r selector .specificity .error
      s!"High specificity: {sp.ids} IDs in selector" "Replace IDs with classes"
  else if 1 ≤ sp.ids ∧ 2 ≤ sp.classes then
    some <| .ofSelector r selector .specificity .warning
      s!"Moderate specificity: {sp.ids} ID + {sp.classes} classes"
      "Drop the ID or the extra classes"
  else none

/-- The issue with an element name fused with a class or an identifier. -/
def overqualifiedIssue? (r : Rule) (selector : String) : Option Issue :=
  if isOverqualified selector.toList then
    some <| .ofSelector r selector .overqualified .info
      "Overqualified selector (tag + class/id)" "Remove the tag name"
  else none

/-- The issue with a selector of everything. -/
def universalIssue? (r : Rule) (selector : String) : Option Issue :=
  if isUniversal selector.toList then
    some <| .ofSelector r selector .universal .info
      "Universal selector (*) can hurt performance" none
  else none

/-- The issue with a selector that is nested too deeply. -/
def nestingIssue? (r : Rule) (selector : String) : Option Issue :=
  let depth := nestingDepth selector.toList
  if maxNesting < depth then
    some <| .ofSelector r selector .specificity .warning
      s!"Deeply nested selector ({depth} levels)"
      s!"Keep selectors to {maxNesting} levels or fewer"
  else none

/-- The issues with one alternative of the selector of a rule. -/
def alternativeIssues (r : Rule) (selector : String) : List Issue :=
  [specificityIssue? r selector, overqualifiedIssue? r selector, universalIssue? r selector,
    nestingIssue? r selector].filterMap id

/-- The issues with the selectors of a list of rules. -/
def selectorIssues (rules : List Rule) : List Issue :=
  rules.flatMap fun r => r.selectors.flatMap (alternativeIssues r)

/-- Whether a declaration forces its way through the cascade. -/
def isForced (declaration : String) : Bool :=
  Text.occurs "!important".toList declaration.toList

/-- The issue with a declaration that forces its way through the cascade. -/
def importantIssue? (r : Rule) (declaration : String) : Option Issue :=
  if isForced declaration then
    let excerpt := String.ofList (declaration.toList.take declarationExcerpt)
    some { kind := .important, severity := .warning, message := s!"!important used: {excerpt}",
           selector := r.selector, source := r.source, line := r.line,
           hint := "Fix the cascade instead of forcing it" }
  else none

/-- The issues with forced declarations of a list of rules. -/
def importantIssues (rules : List Rule) : List Issue :=
  rules.flatMap fun r => r.declarations.filterMap (importantIssue? r)

/-- The issue with a group of equal declarations, if there are enough of them.  It stands where the
first of them stands. -/
def duplicateIssue? (g : DeclarationGroup) : Option Issue :=
  match g.owners with
  | [] => none
  | first :: _ =>
    let uses := g.owners.length
    if uses < minRepeats then none
    else
      some { kind := .duplicate, severity := .warning,
             message := s!"Declaration \"{g.key}\" appears {uses} times",
             selector := ", ".intercalate (g.owners.map (·.selector)),
             source := first.source, line := first.line,
             hint := "Extract into a shared class or custom property", occurrences := uses }

/-- The issues with repeated declarations of a list of rules. -/
def duplicateIssues (rules : List Rule) : List Issue :=
  (declarationGroups rules).filterMap duplicateIssue?

/-- All issues of a list of rules. -/
def detectIssues (rules : List Rule) : List Issue :=
  selectorIssues rules ++ importantIssues rules ++ duplicateIssues rules

end SheetAudit

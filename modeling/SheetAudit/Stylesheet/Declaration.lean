import SheetAudit.Stylesheet.Rule
import SheetAudit.Text.Cut

/-!
# Declarations and their groups

Two declarations say the same when property and value agree.  `declarationKey?` brings a declaration
into a form in which that is equality, and `declarationGroups` collects the rules that use each key,
the keys in the order in which they first appear.
-/

namespace SheetAudit.Stylesheet

open SheetAudit.Text

/-- Property and value of a declaration, divided by its first colon and trimmed, as one text;
nothing when one of the two is empty. -/
def declarationKey? (declaration : String) : Option String :=
  let (property, value) := partition [':'] declaration.toList
  let property := trim property
  let value := trim value
  if property.isEmpty || value.isEmpty then none
  else some (String.ofList (property ++ ':' :: value))

/-- The keys of a list of rules, each with the rule that uses it, in order. -/
def keyedRules (rules : List Rule) : List (String × Rule) :=
  rules.flatMap fun r => (r.declarations.filterMap declarationKey?).map (·, r)

/-- A declaration key and the rules that use it, one entry for each use. -/
structure DeclarationGroup where
  /-- The key. -/
  key : String
  /-- The rules that use it. -/
  owners : List Rule
  deriving DecidableEq, Repr

/-- Adds a use of a key: in front of the uses in its group, or as a new group at the end. -/
def addOwner (key : String) (owner : Rule) : List DeclarationGroup → List DeclarationGroup
  | [] => [⟨key, [owner]⟩]
  | g :: gs =>
    if g.key = key then ⟨key, owner :: g.owners⟩ :: gs else g :: addOwner key owner gs

/-- The uses of each key in order, the keys in order of first appearance. -/
def declarationGroups (rules : List Rule) : List DeclarationGroup :=
  let groups := (keyedRules rules).foldl (fun groups (key, rule) => addOwner key rule groups) []
  groups.map fun g => ⟨g.key, g.owners.reverse⟩

end SheetAudit.Stylesheet

import SheetAudit.Text.Quoted

/-!
# Issues

An issue is one finding of an audit: what was found, how bad it is, and where.
-/

namespace SheetAudit

/-- How bad an issue is. -/
inductive Severity where
  | info
  | warning
  | error
  deriving DecidableEq, Repr

/-- The name of a severity. -/
def Severity.name : Severity → String
  | .info => "info"
  | .warning => "warning"
  | .error => "error"

/-- The severity with a given name. -/
def Severity.ofName? (name : String) : Option Severity :=
  [Severity.info, .warning, .error].find? (·.name == name)

/-- A name that no severity has. -/
structure UnknownSeverity where
  /-- The name. -/
  name : String
  deriving DecidableEq, Repr

/-- What the complaint about an unknown severity says. -/
def UnknownSeverity.message (e : UnknownSeverity) : String :=
  s!"{Text.quoted e.name} is not a valid Severity"

/-- The severity with a given name, or the complaint that there is none. -/
def Severity.read (name : String) : Except UnknownSeverity Severity :=
  match Severity.ofName? name with
  | some severity => .ok severity
  | none => .error ⟨name⟩

/-- The category of an issue. -/
inductive IssueKind where
  | specificity
  | duplicate
  | important
  | overqualified
  | universal
  deriving DecidableEq, Repr

/-- The name of a category. -/
def IssueKind.name : IssueKind → String
  | .specificity => "specificity"
  | .duplicate => "duplicate"
  | .important => "important"
  | .overqualified => "overqualified"
  | .universal => "universal"

/-- The category with a given name. -/
def IssueKind.ofName? (name : String) : Option IssueKind :=
  [IssueKind.specificity, .duplicate, .important, .overqualified, .universal].find? (·.name == name)

/-- One finding of an audit. -/
structure Issue where
  /-- The category. -/
  kind : IssueKind
  /-- How bad it is. -/
  severity : Severity
  /-- What was found. -/
  message : String
  /-- The selector or selectors concerned. -/
  selector : String
  /-- The name of the sheet. -/
  source : String
  /-- The line of the rule, counted from one. -/
  line : Nat
  /-- What could be done about it. -/
  hint : Option String := none
  /-- The number of places: more than one only for repeated declarations. -/
  occurrences : Int := 1
  deriving DecidableEq, Repr

end SheetAudit

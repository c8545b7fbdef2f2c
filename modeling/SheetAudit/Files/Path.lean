/-!
# Paths

An absolute path is the list of its names, from the root down.  A text stands for a path in two
ways: `resolve` takes the name `..` for the way up, whatever stands there; `locate` leaves it to the
one who walks the path.
-/

namespace SheetAudit.Files

/-- An absolute path: the names from the root down. -/
abbrev Path := List String

namespace Path

/-- Goes on from a path by one name, where `.` stays and `..` goes up. -/
def child (p : Path) (name : String) : Path :=
  if name = "" ∨ name = "." then p
  else if name = ".." then p.dropLast
  else p ++ [name]

/-- The names of a text, without those that stay where they are. -/
def namesOf (text : String) : Path :=
  ((text.toList.splitOn '/').map String.ofList).filter fun name => name != "" && name != "."

/-- Whether a text is an absolute path. -/
def isAbsolute (text : String) : Bool :=
  text.toList.head? = some '/'

/-- The path that a text stands for in a working directory. -/
def resolve (workingDirectory : Path) (text : String) : Path :=
  let names := (text.toList.splitOn '/').map String.ofList
  let start := if isAbsolute text then [] else workingDirectory
  names.foldl child start

/-- The names on the way that a text stands for in a working directory. -/
def locate (workingDirectory : Path) (text : String) : Path :=
  if isAbsolute text then namesOf text else workingDirectory ++ namesOf text

/-- Whether a text starts with two slashes and no more; they are kept. -/
def hasDoubleRoot (text : String) : Bool :=
  match text.toList with
  | '/' :: '/' :: rest => rest.head? != some '/'
  | _ => false

/-- The text of a path. -/
def toText (p : Path) : String :=
  "/" ++ "/".intercalate p

/-- The text of the way that a text stands for in a working directory. -/
def locatedText (workingDirectory : Path) (text : String) : String :=
  (if hasDoubleRoot text then "/" else "") ++ toText (locate workingDirectory text)

/-- The text of a path that starts at some directory. -/
def toRelativeText (p : Path) : String :=
  "/".intercalate p

end Path

end SheetAudit.Files

import SheetAudit.Files.Path
import SheetAudit.Stylesheet.Rule
import SheetAudit.Text.Decoding
import SheetAudit.Text.Quoted

/-!
# Files and directories

A tree of files, and the stylesheets in it.  A directory is walked with its entries sorted by name;
hidden directories and installed packages are passed over.  `FileSystem.collect` gives the named
sheets at a path: a file under its own name, or the sheets below a directory under their relative
paths.

The limits of a file system are those on the path that is given and on the names in it.  A walk
below a directory has none here: neither the length of the paths on the way nor the depth of the
tree is limited, as they are by an operating system and by the stack of a program.
-/

namespace SheetAudit.Files

open SheetAudit.Text
open Stylesheet (Source)

/-- A file or a directory. -/
inductive Entry where
  /-- A file with its bytes. -/
  | file (bytes : ByteArray)
  /-- A directory with its entries by name. -/
  | directory (entries : List (String × Entry))

/-- A tree of files and the directory in which relative paths start. -/
structure FileSystem where
  /-- The root directory. -/
  root : Entry
  /-- The working directory. -/
  workingDirectory : Path

/-- Why files could not be read. -/
inductive FilesError where
  /-- There is nothing at the path. -/
  | pathNotFound (path : String)
  /-- There is no directory to list. -/
  | noSuchDirectory (path : String)
  /-- A file was to be listed as a directory. -/
  | notADirectory (path : String)
  /-- A path, or a name in it, is longer than a file system takes. -/
  | nameTooLong (path : String)
  /-- A path holds the null character. -/
  | nullInPath
  deriving DecidableEq, Repr

/-- What an error says. -/
def FilesError.message : FilesError → String
  | .pathNotFound path => s!"Path not found: {path}"
  | .noSuchDirectory path => s!"[Errno 2] No such file or directory: {quoted path}"
  | .notADirectory path => s!"[Errno 20] Not a directory: {quoted path}"
  | .nameTooLong path => s!"[Errno 36] File name too long: {quoted path}"
  | .nullInPath => "embedded null byte"

/-- What stands at a path. -/
inductive Found where
  /-- An entry. -/
  | entry (e : Entry)
  /-- Nothing: a name on the way is missing. -/
  | missing
  /-- Nothing: a name on the way is a file. -/
  | insideFile
  /-- Nothing can stand there: a name on the way is too long. -/
  | tooLong

/-- The most bytes that a name may have. -/
def maxNameSize : Nat := 255

/-- The most bytes that the text of a path may have. -/
def maxPathSize : Nat := 4095

namespace Entry

/-- The empty directory. -/
def empty : Entry := .directory []

/-- What stands at the end of a way that starts at an entry.  The name `..` goes back to the
directory above; `above` holds the directories above the entry, the nearest first, and above the
first of all there is nothing else. -/
def walk (e : Entry) (above : List Entry) : Path → Found
  | [] => .entry e
  | name :: rest =>
    match e with
    | .file _ => .insideFile
    | .directory entries =>
      if name = ".." then
        match above with
        | [] => e.walk [] rest
        | parent :: above => parent.walk above rest
      else if maxNameSize < name.utf8ByteSize then .tooLong
      else
        match entries.lookup name with
        | some child => child.walk (e :: above) rest
        | none => .missing

/-- What stands at a path below an entry. -/
def find (e : Entry) (path : Path) : Found :=
  e.walk [] path

/-- The entries with `value` under a name, in the place of what had that name. -/
def setEntry (entries : List (String × Entry)) (name : String) (value : Entry) :
    List (String × Entry) :=
  match entries with
  | [] => [(name, value)]
  | (other, e) :: rest =>
    if other = name then (name, value) :: rest else (other, e) :: setEntry rest name value

/-- The tree with `value` at a path; directories on the way are made. -/
def insert (e : Entry) (path : Path) (value : Entry) : Entry :=
  match path with
  | [] => value
  | name :: rest =>
    let entries := match e with
      | .file _ => []
      | .directory entries => entries
    let child := (entries.lookup name).getD empty
    .directory (setEntry entries name (child.insert rest value))

/-- Whether a directory of this name is passed over. -/
def isSkipped (name : String) : Bool :=
  name.toList.head? == some '.' || name == "node_modules"

/-- Whether a file of this name is a stylesheet. -/
def isSheetName (name : String) : Bool :=
  ".css".toList.isSuffixOf name.toList

/-- The entries in the order of their names. -/
def sorted (entries : List (String × Entry)) : List (String × Entry) :=
  entries.mergeSort fun a b => decide (a.1 ≤ b.1)

/-- The stylesheets below a directory, each with its path from there. -/
def sheets : Entry → List (Path × ByteArray)
  | .file _ => []
  | .directory entries =>
    (sorted entries).attach.flatMap fun ⟨(name, e), _⟩ =>
      match e with
      | .file bytes => if isSheetName name then [([name], bytes)] else []
      | .directory below =>
        if isSkipped name then []
        else (Entry.directory below).sheets.map fun (path, bytes) => (name :: path, bytes)
decreasing_by
  have h : (name, Entry.directory below) ∈ entries := List.mem_mergeSort.1 ‹_›
  have := List.sizeOf_lt_of_mem h
  simp only [Entry.directory.sizeOf_spec, Prod.mk.sizeOf_spec] at *
  omega

end Entry

/-- The text of a file: UTF-8 with unified line breaks. -/
def fileText (bytes : ByteArray) : String :=
  String.ofList (unifyNewlines (decodeUtf8 bytes.toList))

namespace FileSystem

/-- The absolute path that a text stands for. -/
def resolve (fs : FileSystem) (path : String) : Path :=
  Path.resolve fs.workingDirectory path

/-- What stands at an absolute path, which has to be short enough for a file system. -/
def find (fs : FileSystem) (place : Path) : Found :=
  if maxPathSize < place.toText.utf8ByteSize then .tooLong else fs.root.find place

/-- The sheets at a path.  Only the path itself has to be short enough, not those below it. -/
def collect (fs : FileSystem) (path : String) : Except FilesError (List Source) :=
  let place := fs.resolve path
  if path.toList.contains '\x00' then .error .nullInPath
  else
    match fs.find place with
    | .entry (.file bytes) => .ok [⟨place.getLast?.getD "", fileText bytes⟩]
    | .entry directory =>
      .ok (directory.sheets.map fun (below, bytes) => ⟨Path.toRelativeText below, fileText bytes⟩)
    | .tooLong => .error (.nameTooLong place.toText)
    | _ => .error (.pathNotFound place.toText)

/-- The paths of the sheets below a directory, from there.  The way to the directory is walked name
by name.  Only this way has to be short enough, not the paths below the directory. -/
def listSheets (fs : FileSystem) (path : String) : Except FilesError (List String) :=
  let shown := Path.locatedText fs.workingDirectory path
  if path.toList.contains '\x00' then .error .nullInPath
  else if maxPathSize < shown.utf8ByteSize then .error (.nameTooLong shown)
  else
    match fs.root.find (Path.locate fs.workingDirectory path) with
    | .entry (.file _) => .error (.notADirectory shown)
    | .entry directory => .ok (directory.sheets.map fun (below, _) => Path.toRelativeText below)
    | .insideFile => .error (.notADirectory shown)
    | .missing => .error (.noSuchDirectory shown)
    | .tooLong => .error (.nameTooLong shown)

end FileSystem

end SheetAudit.Files

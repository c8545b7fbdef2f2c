import SheetAudit.Command.Run

/-!
# The program

The outer layer: it reads the files that a command line names, runs the command and writes what
comes of it.  It has no way to the web, so every request fails.
-/

namespace SheetAudit

open Command (Call LineReader Surroundings)
open Files (Entry)

/-- The file or directory at a path, with everything below it that is looked at. -/
partial def readEntry? (place : String) : IO (Option Entry) := do
  let here := (← IO.currentDir) / place
  if ← here.isDir then
    let mut entries := []
    for child in ← here.readDir do
      let path := here / child.fileName
      if Entry.isSkipped child.fileName && (← path.isDir) then continue
      if let some entry ← readEntry? path.toString then
        entries := (child.fileName, entry) :: entries
    return some (.directory entries)
  else if ← here.pathExists then return some (.file (← IO.FS.readBinFile here))
  else return none

/-- The path that a call reads. -/
def pathOf? : Call → Option String
  | .scan s =>
    match s.target with
    | .path path => some path
    | _ => none
  | _ => none

/-- What is around the program, as far as a command line asks for it. -/
def surroundings (words : List String) : IO Surroundings := do
  let threshold ← IO.getEnv "CSS_AUDIT_THRESHOLD"
  let workingDirectory := Files.Path.resolve [] (← IO.currentDir).toString
  let root ← match pathOf? (LineReader.builtIn.call threshold words) with
    | none => pure Entry.empty
    | some path =>
      let place := Files.Path.resolve workingDirectory path
      match ← readEntry? place.toText with
      | none => pure Entry.empty
      | some entry => pure (Entry.empty.insert place entry)
  return { files := { root, workingDirectory }, time := "", threshold,
           web := fun _ => .error (.failed "there is no way to the web") }

end SheetAudit

/-- Runs the program and gives its exit code. -/
def main (words : List String) : IO UInt32 := do
  let outcome := SheetAudit.Command.run (← SheetAudit.surroundings words) words
  IO.print (String.ofList outcome.output)
  IO.eprint (String.ofList outcome.errors)
  match outcome.ending with
  | .exit code => return code.toUInt32
  | .fault f =>
    IO.eprintln f.message
    return 1

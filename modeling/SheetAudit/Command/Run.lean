import SheetAudit.Command.Call
import SheetAudit.Console.Panel
import SheetAudit.Console.Summary
import SheetAudit.Files.Tree
import SheetAudit.Web.Collection

/-!
# Running a command

A run takes the words of a command line and what is around the program, and gives what is written
and how the run ends: with an exit code, or with a fault that nothing takes care of.  What was
written before a fault stays written.
-/

namespace SheetAudit.Command

open SheetAudit.Console
open Files (FileSystem FilesError)
open Number (NumberError)
open Stylesheet (Source)
open Url (UrlError)

/-- What is around the program. -/
structure Surroundings where
  /-- The files. -/
  files : FileSystem
  /-- The web. -/
  web : Web.Transport
  /-- The time as the log shows it. -/
  time : String
  /-- The threshold that the environment sets. -/
  threshold : Option String
  /-- The console. -/
  screen : Screen := .wide
  /-- How command lines are taken apart. -/
  reader : LineReader := .builtIn

/-- An error that no exit code stands for. -/
inductive Fault where
  /-- Something cannot be shown. -/
  | console (e : ConsoleError)
  /-- Files cannot be read. -/
  | files (e : FilesError)
  /-- A URL cannot be asked for. -/
  | url (e : UrlError)
  /-- A score cannot be computed. -/
  | number (e : NumberError)
  deriving DecidableEq, Repr

/-- What a fault says. -/
def Fault.message : Fault → String
  | .console e => e.message
  | .files e => e.message
  | .url e => e.message
  | .number e => e.message

/-- How a run ends. -/
inductive Ending where
  /-- With an exit code. -/
  | exit (code : Nat)
  /-- With a fault. -/
  | fault (f : Fault)
  deriving DecidableEq, Repr

/-- The exit code of a run that found nothing to complain about. -/
def exitOk : Nat := 0

/-- The exit code for a score below the threshold. -/
def exitBelowThreshold : Nat := 1

/-- The exit code for a command line that is refused. -/
def exitUsage : Nat := 2

/-- The exit code for a path that does not exist, or none at all. -/
def exitNotFound : Nat := 3

/-- The exit code for a place without stylesheets. -/
def exitNoSheets : Nat := 4

/-- The exit code for a page that cannot be fetched. -/
def exitFetchFailed : Nat := 5

/-- What comes of a run. -/
structure Outcome where
  /-- What is written to standard output. -/
  output : List Char
  /-- What is written to standard error. -/
  errors : List Char
  /-- How it ends. -/
  ending : Ending
  deriving DecidableEq, Repr

/-- The title of the panel at the start of a scan. -/
def panelTitle : String := "CSS-AUDIT"

/-- The panel at the start of a scan, after an empty line. -/
def heading (screen : Screen) (label subject : String) : List Piece :=
  [.ok ['\n'], screen.panel panelTitle s!"[dim]{label}:[/dim] {subject}"]

/-- What is written about an error. -/
def complaint (screen : Screen) (message : String) : Piece :=
  screen.displayMarkup s!"[bold red]Error:[/bold red] {message}".toList

/-- The end of a run with a complaint, after what was written before. -/
def complain (screen : Screen) (output errors : List Char) (message : String) (code : Nat) :
    Outcome :=
  match complaint screen message with
  | .ok text => ⟨output, errors ++ text, .exit code⟩
  | .error e => ⟨output, errors, .fault (.console e)⟩

/-- The exit code of a report. -/
def exitCode (r : Report) : Nat :=
  if r.passed then exitOk else exitBelowThreshold

/-- How a report is written. -/
def reportPieces (screen : Screen) (s : ScanSettings) (r : Report) : List Piece :=
  if s.json then [.ok (r.toJson.render 0 ++ "\n").toList] else screen.summaryPieces r s.verbose

/-- The audit of collected sheets, after what was written before. -/
def finish (screen : Screen) (s : ScanSettings) (output errors : List Char)
    (sources : List Source) : Outcome :=
  match audit sources s.threshold with
  | .error .noSheets => complain screen output errors "No CSS files found." exitNoSheets
  | .error (.number e) => ⟨output, errors, .fault (.number e)⟩
  | .ok r =>
    match write (reportPieces screen s r) with
    | ⟨text, none⟩ => ⟨output ++ text, errors, .exit (exitCode r)⟩
    | ⟨text, some e⟩ => ⟨output ++ text, errors, .fault (.console e)⟩

/-- The scan of a file or a directory. -/
def scanPath (around : Surroundings) (s : ScanSettings) (path : String) : Outcome :=
  match around.files.collect path with
  | .error (.pathNotFound place) =>
    complain around.screen [] [] (FilesError.pathNotFound place).message exitNotFound
  | .error e => ⟨[], [], .fault (.files e)⟩
  | .ok sources =>
    -- the panel comes only when the path exists
    let place := (around.files.resolve path).toText
    match write (if s.json then [] else heading around.screen "Auditing" place) with
    | ⟨text, none⟩ => finish around.screen s text [] sources
    | ⟨text, some e⟩ => ⟨text, [], .fault (.console e)⟩

/-- The log records that are shown: warnings, or all of them. -/
def shownRecords (debug : Bool) (log : List LogRecord) : List LogRecord :=
  if debug then log else log.filter (·.level == .warning)

/-- The line that shows on a terminal while a page is fetched.  Elsewhere nothing is written for it,
but its markup has to be right. -/
def fetchStatus (screen : Screen) (url : String) : Piece :=
  (screen.readMarkup s!"[bold blue]Fetching {url}...[/bold blue]".toList).map fun _ => []

/-- The scan of a page. -/
def scanPage (around : Surroundings) (s : ScanSettings) (url : String) : Outcome :=
  let opening := if s.json then [] else heading around.screen "Fetching CSS from" url
  match write (opening ++ [fetchStatus around.screen url]) with
  | ⟨text, some e⟩ => ⟨text, [], .fault (.console e)⟩
  | ⟨text, none⟩ =>
    let c := Web.collect around.web url
    let log := around.screen.logText around.time (shownRecords s.debug c.log)
    match c.outcome with
    | .ok sources => finish around.screen s text log sources
    | .error (.url e) => ⟨text, log, .fault (.url e)⟩
    | .error (.content e) => nomatch e
    | .error e => complain around.screen text log e.message exitFetchFailed

/-- The end of a scan without anything to look at. -/
def scanNothing (screen : Screen) : Outcome :=
  let lines := [complaint screen "No input provided.",
    screen.displayMarkup "Run [cyan]css-audit --help[/cyan] for usage info.\n".toList]
  match write lines with
  | ⟨text, none⟩ => ⟨[], text, .exit exitNotFound⟩
  | ⟨text, some e⟩ => ⟨[], text, .fault (.console e)⟩

/-- A scan. -/
def scan (around : Surroundings) (s : ScanSettings) : Outcome :=
  match s.target with
  | .page url => scanPage around s url
  | .path path => scanPath around s path
  | .nothing => scanNothing around.screen

/-- What a call does. -/
def Call.run (around : Surroundings) : Call → Outcome
  | .version => ⟨versionText.toList, [], .exit exitOk⟩
  | .help .main => ⟨mainHelp.toList, [], .exit exitOk⟩
  | .help .scan => ⟨scanHelp.toList, [], .exit exitOk⟩
  | .refused c e => ⟨[], (e.report c).toList, .exit exitUsage⟩
  | .scan s => Command.scan around s

/-- Runs the program on the words of a command line. -/
def run (around : Surroundings) (words : List String) : Outcome :=
  (around.reader.call around.threshold words).run around

end SheetAudit.Command

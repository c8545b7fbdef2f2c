import SheetAudit.Command.Grammar
import SheetAudit.Text.Quoted

/-!
# The commands and their usage

There is a main command, which only knows its version and its help, and the command `scan`.  This
module holds their options, their help, and the complaints about a command line.
-/

namespace SheetAudit.Command

open SheetAudit.Text

/-- The name under which the program is called. -/
def programName : String := "css-audit"

/-- The version of the program. -/
def version : String := "1.0.0"

/-- The commands. -/
inductive CommandName where
  /-- The program itself. -/
  | main
  /-- The audit of sheets. -/
  | scan
  deriving DecidableEq, Repr

/-- The words that call a command. -/
def CommandName.path : CommandName → String
  | .main => programName
  | .scan => programName ++ " scan"

/-- What follows the words that call a command. -/
def CommandName.parameters : CommandName → String
  | .main => "[OPTIONS] [COMMAND] [ARGS]..."
  | .scan => "[OPTIONS] INPUT"

/-- The line that shows how a command is called. -/
def CommandName.usage (c : CommandName) : String :=
  s!"Usage: {c.path} {c.parameters}\n"

/-- The options of the main command. -/
inductive MainOption where
  | version
  | help
  deriving DecidableEq, Repr

/-- The grammar of the main command.  The first argument is the name of a command, which reads the
rest. -/
def mainGrammar : Grammar MainOption :=
  { options := [(.version, ["--version"]), (.help, ["-h", "--help"])]
    takesValue := fun _ => false
    mixed := false }

/-- The options of `scan`. -/
inductive ScanOption where
  | url
  | threshold
  | json
  | noColor
  | verbose
  | timeout
  | debug
  | help
  deriving DecidableEq, Repr

/-- Whether an option of `scan` takes a value. -/
def ScanOption.takesValue : ScanOption → Bool
  | .url | .threshold | .timeout => true
  | _ => false

/-- The names of an option of `scan`. -/
def ScanOption.names : ScanOption → List String
  | .url => ["--url"]
  | .threshold => ["-t", "--threshold"]
  | .json => ["--json"]
  | .noColor => ["--no-color"]
  | .verbose => ["-v", "--verbose"]
  | .timeout => ["--timeout"]
  | .debug => ["--debug"]
  | .help => ["-h", "--help"]

/-- The grammar of `scan`. -/
def scanGrammar : Grammar ScanOption :=
  { options := [ScanOption.url, .threshold, .json, .noColor, .verbose, .timeout, .debug, .help].map
      fun o => (o, o.names)
    takesValue := ScanOption.takesValue
    mixed := true }

/-- Why a command line is refused. -/
inductive UsageError where
  /-- It does not follow the grammar. -/
  | grammar (e : GrammarError)
  /-- The threshold is no integer. -/
  | notAnInteger (value : String)
  /-- The threshold is not between 0 and 100. -/
  | outOfRange (value : Int)
  /-- The time limit is no number. -/
  | notANumber (value : String)
  /-- There are arguments that mean nothing. -/
  | extraArguments (arguments : List String)
  deriving DecidableEq, Repr

/-- The suggestion of close names, in alphabetical order. -/
def suggestion : List String → String
  | [] => ""
  | [name] => s!" Did you mean {quoted name}?"
  | names =>
    let sorted := names.mergeSort fun a b => decide (a ≤ b)
    " (Did you mean one of: " ++ ", ".intercalate (sorted.map quoted) ++ "?)"

/-- What a complaint about the grammar says. -/
def GrammarError.message : GrammarError → String
  | .noSuchOption name close => s!"No such option {quoted name}.{suggestion close}"
  | .valueMissing name => s!"Option {quoted name} requires an argument."
  | .valueUnwanted name => s!"Option {quoted name} does not take a value."

/-- How a complaint about the value of an option begins. -/
def invalidValue (o : ScanOption) : String :=
  "Invalid value for " ++ " / ".intercalate (o.names.map quoted) ++ ": "

/-- What a complaint says. -/
def UsageError.message : UsageError → String
  | .grammar e => e.message
  | .notAnInteger value =>
    s!"{invalidValue .threshold}{quoted value} is not a valid integer range."
  | .outOfRange value => s!"{invalidValue .threshold}{value} is not in the range 0<=x<=100."
  | .notANumber value => s!"{invalidValue .timeout}{quoted value} is not a valid float."
  | .extraArguments arguments =>
    let noun := if arguments.length = 1 then "argument" else "arguments"
    let shown := " ".intercalate arguments
    s!"Got unexpected extra {noun} ({shown})"

/-- Whether the usage is shown before a complaint.  A value that is missing or not wanted is
complained about without it. -/
def UsageError.showsUsage : UsageError → Bool
  | .grammar (.valueMissing _) | .grammar (.valueUnwanted _) => false
  | _ => true

/-- The text of a complaint about the command line of a command. -/
def UsageError.report (e : UsageError) (c : CommandName) : String :=
  let usage := if e.showsUsage then s!"{c.usage}Try '{c.path} --help' for help.\n\n" else ""
  s!"{usage}Error: {e.message}\n"

/-- The text that shows the version. -/
def versionText : String :=
  s!"{programName}, version {version}\n"

/-- Lines as one text. -/
def lines (ls : List String) : String :=
  String.join (ls.map (· ++ "\n"))

/-- The help of the main command. -/
def mainHelp : String :=
  CommandName.main.usage ++ lines [
    "",
    "  CSS Audit - find bloat, specificity issues, and bad patterns in CSS.",
    "",
    "  Quick start:",
    "      css-audit styles.css",
    "      css-audit scan ./src/styles --threshold 70",
    "      css-audit scan --url https://example.com",
    "",
    "Options:",
    "  --version   Show the version and exit.",
    "  -h, --help  Show this message and exit.",
    "",
    "Commands:",
    "  scan  Audit a CSS file, a directory of CSS files, or a URL."]

/-- The help of `scan`. -/
def scanHelp : String :=
  CommandName.scan.usage ++ lines [
    "",
    "  Audit a CSS file, a directory of CSS files, or a URL.",
    "",
    "  Examples:",
    "      css-audit scan styles.css",
    "      css-audit scan ./src/styles",
    "      css-audit scan --url https://example.com",
    "      css-audit scan styles.css --threshold 80 --json",
    "",
    "Options:",
    "  --url TEXT                     Audit the CSS of a live website",
    "  -t, --threshold INTEGER RANGE  Minimum passing score  [default: 60;",
    "                                 0<=x<=100]",
    "  --json                         Output as JSON",
    "  --no-color                     Disable colored output",
    "  -v, --verbose                  Show all issues, not just the top 15",
    "  --timeout FLOAT                Request timeout in seconds",
    "  --debug                        Log fetched resources",
    "  -h, --help                     Show this message and exit."]

end SheetAudit.Command

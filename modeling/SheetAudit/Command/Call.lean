import SheetAudit.Command.Usage
import SheetAudit.Number.Reading
import SheetAudit.Score
import SheetAudit.Url.Reference

/-!
# What a command line asks for

`LineReader.call` turns the words of a command line into a call: the version, a help, a scan with
its settings, or a refusal.  A line that does not start with a command or an option of the main
command is a line of `scan`.  How options and arguments are told apart is left to the reader, which
may be any; `LineReader.builtIn` is the one that the program runs with.
-/

namespace SheetAudit.Command

/-- The settings of a scan. -/
structure ScanSettings where
  /-- The argument. -/
  input : Option String
  /-- The URL given as an option. -/
  url : Option String
  /-- The least overall score that passes. -/
  threshold : Int
  /-- Whether the report is written as JSON. -/
  json : Bool
  /-- Whether all issues are shown. -/
  verbose : Bool
  /-- Whether all log records are shown. -/
  debug : Bool
  deriving DecidableEq, Repr

/-- What is scanned. -/
inductive ScanTarget where
  /-- The page at a URL. -/
  | page (url : String)
  /-- A file or a directory. -/
  | path (path : String)
  /-- Nothing was named. -/
  | nothing
  deriving DecidableEq, Repr

/-- What a scan looks at: a URL, given as such or as the argument, before a path.  Empty texts do
not count. -/
def ScanSettings.target (s : ScanSettings) : ScanTarget :=
  let url := s.url.getD ""
  let input := s.input.getD ""
  if !url.isEmpty then .page url
  else if input.isEmpty then .nothing
  else if Url.isUrl input then .page input
  else .path input

/-- The threshold that a text stands for: an integer from 0 to 100. -/
def readThreshold (value : String) : Except UsageError Int :=
  match Number.readInt? value.toList with
  | none => .error (.notAnInteger value)
  | some n => if 0 ≤ n ∧ n ≤ 100 then .ok n else .error (.outOfRange n)

/-- Checks the value of an option of `scan`. -/
def checkValue (p : Parsed ScanOption) (o : ScanOption) : Except UsageError Unit :=
  match o, p.value? o with
  | .threshold, some value => (readThreshold value).map fun _ => ()
  | .timeout, some value =>
    if Number.isDecimal value.toList then .ok () else .error (.notANumber value)
  | _, _ => .ok ()

/-- The threshold of a scan: the option, else the one preset by the environment unless it is empty,
else the default. -/
def chosenThreshold (preset option : Option String) : Except UsageError Int :=
  match option, preset with
  | some value, _ => readThreshold value
  | none, some value =>
    if value.isEmpty then .ok Score.defaultThreshold else readThreshold value
  | none, none => .ok Score.defaultThreshold

/-- The settings of a scan.  The values are checked in the order of the options, then the threshold
preset by the environment, then the number of arguments. -/
def ScanSettings.ofParsed (preset : Option String) (p : Parsed ScanOption) :
    Except UsageError ScanSettings := do
  p.order.forM (checkValue p)
  let threshold ← chosenThreshold preset (p.value? .threshold)
  if 1 < p.arguments.length then throw (.extraArguments (p.arguments.drop 1))
  return { input := p.arguments.head?, url := p.value? .url, threshold, json := p.has .json,
           verbose := p.has .verbose, debug := p.has .debug }

/-- What a command line asks for. -/
inductive Call where
  /-- The version. -/
  | version
  /-- The help of a command. -/
  | help (c : CommandName)
  /-- A scan. -/
  | scan (s : ScanSettings)
  /-- Nothing that can be done. -/
  | refused (c : CommandName) (e : UsageError)
  deriving DecidableEq, Repr

/-- How the lines of the main command and of `scan` are taken apart into options and arguments. -/
structure LineReader where
  /-- A line of the main command. -/
  main : List String → Except GrammarError (Parsed MainOption)
  /-- A line of `scan`. -/
  scan : List String → Except GrammarError (Parsed ScanOption)

namespace LineReader

/-- The reader that the program runs with: lines are read by the grammars of the commands. -/
def builtIn : LineReader where
  main := mainGrammar.parse
  scan := scanGrammar.parse

variable (reader : LineReader)

/-- What a line of `scan` asks for. -/
def scanCall (preset : Option String) (words : List String) : Call :=
  match reader.scan words with
  | .error e => .refused .scan (.grammar e)
  | .ok p =>
    -- the help is shown before any value is looked at
    if p.has .help then .help .scan
    else
      match ScanSettings.ofParsed preset p with
      | .error e => .refused .scan e
      | .ok s => .scan s

/-- What a line of the main command asks for, by its first option. -/
def mainCall (preset : Option String) (words : List String) : Call :=
  match reader.main words with
  | .error e => .refused .main (.grammar e)
  | .ok p =>
    match p.given, p.arguments with
    | (.version, _) :: _, _ => .version
    | (.help, _) :: _, _ => .help .main
    | [], [] => .help .main
    | [], _ :: rest => reader.scanCall preset rest

/-- The words with which a line of the main command starts. -/
def mainWords : List String := ["scan", "-h", "--help", "--version"]

/-- What a command line asks for.  `preset` is the threshold that the environment sets. -/
def call (preset : Option String) (words : List String) : Call :=
  match words.head? with
  | none => .help .main
  | some first =>
    if mainWords.contains first then reader.mainCall preset words
    else reader.scanCall preset words

end LineReader

end SheetAudit.Command

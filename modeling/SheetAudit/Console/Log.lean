import SheetAudit.Console.Screen

/-!
# The log

Records of what a run does, each with its level, and the lines in which they appear.
-/

namespace SheetAudit.Console

open SheetAudit.Text

/-- How important a log record is. -/
inductive LogLevel where
  | debug
  | info
  | warning
  deriving DecidableEq, Repr

/-- The name of a level. -/
def LogLevel.name : LogLevel → String
  | .debug => "DEBUG"
  | .info => "INFO"
  | .warning => "WARNING"

/-- A record of the log. -/
structure LogRecord where
  /-- How important it is. -/
  level : LogLevel
  /-- What it says. -/
  message : String
  deriving DecidableEq, Repr

/-- The lines of a record: time, level, and the message, which keeps to its column. -/
def Screen.recordLines (screen : Screen) (time : String) (r : LogRecord) : List Char :=
  let margin := List.replicate (time.length + 10) ' '
  let head := time.toList ++ ' ' :: padRight 8 r.level.name.toList ++ [' ']
  let rows := (displayLines r.message.toList).flatMap (screen.fit (screen.width - margin.length))
  let line (left cs : List Char) : List Char := padRight screen.width (left ++ cs) ++ ['\n']
  match rows with
  | [] => []
  | first :: rest => line head first ++ rest.flatMap (line margin)

/-- The text of a log.  All records have the same time, which is written once. -/
def Screen.logText (screen : Screen) (time : String) : List LogRecord → List Char
  | [] => []
  | first :: rest =>
    let blank := String.ofList (List.replicate time.length ' ')
    screen.recordLines time first ++ rest.flatMap (screen.recordLines blank)

end SheetAudit.Console

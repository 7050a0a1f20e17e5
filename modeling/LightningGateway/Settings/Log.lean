import LightningGateway.Text.Blank
import LightningGateway.Text.Pieces

/-
  Log levels and log lines.

  A record is printed if its level is at least as severe as the
  chosen one and its target starts with none of the filters.
  The logger can be set up once.

  Key definitions include:
    * `LogLevel`
    * `LogLevel.choose`
    * `Logger`
    * `Logger.lines`
-/

namespace LightningGateway.Settings

------------------------------------------------------------
-- Levels
------------------------------------------------------------

/- How severe a record is. -/
inductive LogLevel where
  | trace
  | debug
  | info
  | warn
  | error
  deriving DecidableEq, Repr

namespace LogLevel

/- The name of a level. -/
def name : LogLevel → String
  | .trace => "TRACE"
  | .debug => "DEBUG"
  | .info => "INFO"
  | .warn => "WARN"
  | .error => "ERROR"

/- The place of a level in the order of severity. -/
def rank : LogLevel → Nat
  | .trace => 0
  | .debug => 1
  | .info => 2
  | .warn => 3
  | .error => 4

/- The level with a name, in any case. -/
def ofName? (s : String) : Option LogLevel :=
  match String.ofList (s.toList.map Char.toLower) with
  | "trace" => some .trace
  | "debug" => some .debug
  | "info" => some .info
  | "warn" => some .warn
  | "error" => some .error
  | _ => none

/-
  The level to log at: the one that is asked for, else the one
  of the environment; a name that is no level means `info`.
-/
def choose
    (asked environment : Option String) : LogLevel :=
  (ofName? (asked.getD (environment.getD ""))).getD .info

/- The colour in which a level is printed. -/
def colour : LogLevel → String
  | .trace => "37"
  | .debug => "36"
  | .info => "34"
  | .warn => "33"
  | .error => "35"

/- The name of a level in its colour. -/
def coloured (l : LogLevel) : String :=
  "\x1b[" ++ l.colour ++ "m" ++ l.name ++ "\x1b[0m"

end LogLevel

------------------------------------------------------------
-- Records
------------------------------------------------------------

/- Something to log. -/
structure LogRecord where
  level : LogLevel
  target : String
  message : String
  deriving DecidableEq, Repr

/- The text of a record at a given time. -/
def LogRecord.render
    (r : LogRecord)
    (time : String) : String :=
  "[" ++ time ++ " " ++ r.level.coloured ++ "] " ++ r.target ++
    ": " ++ r.message

/- What is logged, and what is left out. -/
structure Logger where
  level : LogLevel
  filters : List String
  deriving DecidableEq, Repr

namespace Logger

/- Whether a text begins with another. -/
def startsWith (s start : String) : Bool :=
  (Text.after? start.toList s.toList).isSome

/- Whether a record is printed. -/
def accepts
    (l : Logger)
    (r : LogRecord) : Bool :=
  l.level.rank ≤ r.level.rank &&
    !l.filters.any (startsWith r.target)

/- A line without the carriage return at its end. -/
def withoutReturn (line : List Char) : List Char :=
  if line.getLast? = some '\r' then line.dropLast else line

/- The lines of a text. -/
def textLines (cs : List Char) : List (List Char) :=
  (Text.splitAll (· == '\n') cs).map withoutReturn

/- The lines that a record prints. -/
def lines
    (l : Logger)
    (time : String)
    (r : LogRecord) : List String :=
  if l.accepts r then
    (textLines (r.render time).toList).map String.ofList
  else []

/- The wording of a second attempt to set up a logger. -/
def secondSetup : String :=
  "logging initialization failed: attempted to set a logger " ++
    "after the logging system was already initialized"

end Logger

end LightningGateway.Settings

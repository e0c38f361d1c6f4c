/-!
Lines for a log, each with a level.
-/

namespace ComponentTree

/-- The weight of a log record. -/
inductive LogLevel where
  | error
  | warn
  | debug
  | trace
deriving DecidableEq, Repr

/-- The name of a level. -/
def LogLevel.label : LogLevel → String
  | error => "ERROR"
  | warn => "WARN"
  | debug => "DEBUG"
  | trace => "TRACE"

/-- Whether a level asks for attention. -/
def LogLevel.isAlert : LogLevel → Bool
  | error | warn => true
  | debug | trace => false

/-- A line for the log. -/
structure LogRecord where
  level : LogLevel
  text : String
deriving DecidableEq, Repr

/-- The level and the text. -/
def LogRecord.line (r : LogRecord) : String :=
  r.level.label ++ " " ++ r.text

end ComponentTree

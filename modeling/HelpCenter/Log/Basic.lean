import HelpCenter.Failure

/-!
# Log entries
-/

namespace HelpCenter

/-- How much an entry matters. -/
inductive LogLevel where
  | debug
  | info
  | warning
  | error
deriving DecidableEq

namespace LogLevel

/-- The name of a level. -/
def name : LogLevel → Text
  | .debug => lit "DEBUG"
  | .info => lit "INFO"
  | .warning => lit "WARNING"
  | .error => lit "ERROR"

/-- The place in the order of levels. -/
def rank : LogLevel → Nat
  | .debug => 0
  | .info => 1
  | .warning => 2
  | .error => 3

end LogLevel

/-- An entry of the log. -/
structure LogEntry where
  level : LogLevel
  logger : Text
  message : Text
  /-- What lies behind the message, empty if nothing is known. -/
  cause : Text := []

/-- The full name of a logger, the application's own for an empty name. -/
def loggerName (name : Text) : Text :=
  if name.isEmpty then lit "kodex" else lit "kodex." ++ name

namespace LogEntry

/-- An entry of one of the application's loggers. -/
def of (level : LogLevel) (logger : String) (message : Text) : LogEntry where
  level
  logger := loggerName (lit logger)
  message

/-- The entry at the end of something that is timed. -/
def finished (logger : String) (label : Text) : LogEntry :=
  of .info logger (label ++ lit " finished in 0 ms")

/-- The message with the cause after a colon. -/
def text (e : LogEntry) : Text :=
  if e.cause.isEmpty then e.message else e.message ++ lit ": " ++ e.cause

/-- What a console shows of an entry. -/
def consoleLine (e : LogEntry) : Text :=
  lit "[kodex] " ++ e.level.name ++ lit " " ++ e.text ++ lit "\n"

end LogEntry

end HelpCenter

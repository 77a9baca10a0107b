import HelpCenter.Log.Basic
import HelpCenter.Workspace.Basic

/-!
# Where the log goes

Entries go to the console from a threshold on, and all of them to a file if one is named.
-/

namespace HelpCenter

/-- Where log entries go. -/
structure LogSinks where
  /-- Whether the console shows entries of the lowest level too. -/
  verbose : Bool := false
  /-- The file that gets all entries. -/
  file : Option Place := none

namespace LogSinks

/-- The lowest level that the console shows. -/
def consoleLevel (s : LogSinks) : LogLevel := if s.verbose then .debug else .info

/-- The lowest level that goes anywhere. -/
def level (s : LogSinks) : LogLevel := if s.file.isSome then .debug else s.consoleLevel

/-- The number of places that entries go to. -/
def count (s : LogSinks) : Nat := if s.file.isSome then 2 else 1

/-- What the console shows of entries. -/
def consoleText (s : LogSinks) (es : List LogEntry) : Text :=
  (es.filter fun e => s.consoleLevel.rank ≤ e.level.rank).flatMap LogEntry.consoleLine

/-- What a file holds of an entry that was made at a moment. -/
def fileLine (now : Moment) (e : LogEntry) : Text :=
  now.stampText ++ lit " " ++ e.level.name ++ lit " " ++ e.logger ++ lit " [MainThread]: " ++
    e.text ++ lit "\n"

/-- Writes entries at the end of the file, if there is one. -/
def record (s : LogSinks) (es : List LogEntry) : Action Unit := do
  match s.file with
  | none => pure ()
  | some p =>
    let now ← Action.now
    let lines := es.filterMap fun e => Text.toUtf8? (fileLine now e)
    Action.changeFiles p (·.append p.collapse lines.flatten)

/-- Makes the file with the directories around it, if one is named. -/
def prepare (s : LogSinks) : Action Unit := do
  match s.file with
  | none => pure ()
  | some p => Action.makeDirs p.dropLast
  s.record []

end LogSinks

end HelpCenter

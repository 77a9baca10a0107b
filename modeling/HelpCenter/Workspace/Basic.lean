import HelpCenter.Log.Basic
import HelpCenter.Settings.Files
import HelpCenter.Time.Moment

/-!
# Workspaces

What operations work on: the files, the clock, the log and the prompts sent. An action that fails
keeps what it has already done.
-/

namespace HelpCenter

/-- A prompt that was sent to an author. -/
structure SentPrompt where
  /-- Whether the author was the offline writer. -/
  offline : Bool
  text : Text
  /-- How many tokens the reply may take. -/
  limit : Int

/-- The files, the clock, the log and the prompts sent so far. -/
structure Workspace where
  files : FileTree
  now : Moment
  log : List LogEntry := []
  sent : List SentPrompt := []

/-- An operation on a workspace. -/
abbrev Action := ExceptT Failure (StateM Workspace)

namespace Action

/-- What an operation gives, and the workspace after it. -/
def perform {α : Type} (a : Action α) (w : Workspace) : Except Failure α × Workspace :=
  (a.run).run w

/-- Goes on with a result or fails with a failure. -/
def ofExcept {α : Type} (r : Except Failure α) : Action α :=
  match r with
  | .ok a => pure a
  | .error e => throw e

/-- What an operation gives or why it fails. -/
def attempt {α : Type} (a : Action α) : Action (Except Failure α) := fun w =>
  let (r, w) := a.perform w
  (.ok r, w)

/-- Adds an entry to the log. -/
def log (e : LogEntry) : Action Unit := modify fun w => { w with log := w.log ++ [e] }

/-- Adds entries to the log. -/
def logAll (es : List LogEntry) : Action Unit := modify fun w => { w with log := w.log ++ es }

/-- Notes that prompts were sent. -/
def send (ps : List SentPrompt) : Action Unit := modify fun w => { w with sent := w.sent ++ ps }

/-- The files. -/
def files : Action FileTree := do return (← get).files

/-- The moment now. -/
def now : Action Moment := do return (← get).now

/-- Whether a file system can be asked about a place: its names hold no zero and can be encoded. -/
def checkNames (p : Place) : Except Failure Unit :=
  if p.any (·.any fun c => c.toNat == 0) then .error (.data .unreadable)
  else if p.all Text.isEncodable then .ok ()
  else .error (.data .notEncodable)

/-- Changes the files. -/
def changeFiles (p : Place) (change : FileTree → Except FileFault FileTree) : Action Unit := do
  ofExcept (checkNames p)
  match change (← files) with
  | .ok t => modify fun w => { w with files := t }
  | .error e => throw (.file e)

/-- Makes a directory and those around it, unless they are there. -/
def makeDirs (p : Place) : Action Unit := changeFiles p (·.makeDirs p)

/-- Writes a text file. A text that has no encoding leaves an empty file. -/
def writeText (p : Place) (text : Text) : Action Unit := do
  changeFiles p (·.write p [])
  match Text.toUtf8? text with
  | some bytes => changeFiles p (·.write p bytes)
  | none => throw (.data .notEncodable)

/-- Removes a file unless it is missing. -/
def removeFile (p : Place) : Action Unit :=
  changeFiles p fun t =>
    match t.remove p with
    | .error .missing => .ok t
    | r => r

/-- The text of a file. -/
def readText (p : Place) : Action Text := do
  ofExcept (checkNames p)
  ofExcept ((← files).readText p)

/-- Makes a file fault the cause of another failure. -/
def onFileFault {α : Type} (e : FileFault → Failure) (a : Action α) : Action α := do
  match ← a.attempt with
  | .ok r => return r
  | .error (.file cause) => throw (e cause)
  | .error other => throw other

end Action

end HelpCenter

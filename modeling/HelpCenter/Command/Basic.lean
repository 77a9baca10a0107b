import HelpCenter.Command.Reading
import HelpCenter.Refresh.Basic

/-!
# The commands

The command line names one of five commands. Each of them concerns the project at a path, which
is the current directory unless another one is given.
-/

namespace HelpCenter

/-- What a review does. -/
inductive ReviewTask where
  | approve (id : Text)
  | pin (id : Text)
  | unpin (id : Text)
  | list (status : Option Text)

/-- What is done about the questions that no article answers. -/
inductive GapTask where
  | add (question : Text) (page : Option Text)
  | resolve (id : Text)
  | list

/-- What a command does with a project. -/
inductive CommandTask where
  | init (product : Option Text) (overwrite : Bool)
  | scan (options : RefreshOptions)
  | review (task : ReviewTask)
  | gaps (task : GapTask)
  | serve (host : Option Text) (port : Option Int)

/-- A command line. -/
structure CommandLine where
  verbose : Bool := false
  logFile : Option Text := none
  path : Text := lit "."
  task : CommandTask

namespace CommandLine

/-- The name of the program. -/
def program : Text := lit "kodex"

/-- An option of one name. -/
def option (name : String) (kind : OptionKind) : CommandOption := ⟨[lit name], kind⟩

/-- The options that every command has. -/
def commonOptions : List CommandOption :=
  [⟨[lit "-h", lit "--help"], .help⟩, ⟨[lit "-v", lit "--verbose"], .flag⟩]

/-- The names of the commands. -/
def commandNames : List Text :=
  [lit "init", lit "scan", lit "review", lit "gaps", lit "serve"]

/-- What stands before and at the command. -/
def mainShape : CommandShape where
  program
  options := commonOptions ++ [option "--log-file" .text]
  positional := .command (lit "command") commandNames

/-- What stands behind a command. -/
def shapeOf (command : String) (options : List CommandOption) : CommandShape where
  program := program ++ lit " " ++ lit command
  options := commonOptions ++ options
  positional := .single

/-- What stands behind `init`. -/
def initShape : CommandShape :=
  shapeOf "init" [option "--force" .flag, option "--name" .text]

/-- What stands behind `scan`. -/
def scanShape : CommandShape :=
  shapeOf "scan" [option "--changed" .flag, option "--dry-run" .flag,
    option "--no-generate" .flag, option "--mock" .flag]

/-- What stands behind `review`. -/
def reviewShape : CommandShape :=
  shapeOf "review" [option "--status" (.choice Article.statuses), option "--approve" .text,
    option "--pin" .text, option "--unpin" .text]

/-- What stands behind `gaps`. -/
def gapsShape : CommandShape :=
  shapeOf "gaps" [option "--add" .text, option "--page" .text, option "--resolve" .text]

/-- What stands behind `serve`. -/
def serveShape : CommandShape :=
  shapeOf "serve" [option "--host" .text, option "--port" .integer]

/-- The text of an option unless it is empty. -/
def given? (r : ArgumentReading) (name : String) : Option Text :=
  (r.text? name).filter fun t => !t.isEmpty

/-- What `init` is asked to do. -/
def initTask (r : ArgumentReading) : CommandTask := .init (r.text? "--name") (r.isOn "--force")

/-- What `scan` is asked to do. -/
def scanTask (r : ArgumentReading) : CommandTask :=
  .scan {
    changedOnly := r.isOn "--changed"
    trial := r.isOn "--dry-run"
    write := !r.isOn "--no-generate"
    offline := r.isOn "--mock" }

/-- What `review` is asked to do: the first of approving, pinning and unpinning that names an
article, or to list articles. -/
def reviewTask (r : ArgumentReading) : CommandTask :=
  match given? r "--approve", given? r "--pin", given? r "--unpin" with
  | some id, _, _ => .review (.approve id)
  | none, some id, _ => .review (.pin id)
  | none, none, some id => .review (.unpin id)
  | none, none, none => .review (.list (r.text? "--status"))

/-- What `gaps` is asked to do: to record a question, to settle one, or to list them. -/
def gapsTask (r : ArgumentReading) : CommandTask :=
  match given? r "--add", given? r "--resolve" with
  | some question, _ => .gaps (.add question (r.text? "--page"))
  | none, some id => .gaps (.resolve id)
  | none, none => .gaps .list

/-- What `serve` is asked to do; an empty host and the port zero count as not given. -/
def serveTask (r : ArgumentReading) : CommandTask :=
  .serve (given? r "--host") ((r.integer? "--port").filter (· ≠ 0))

/-- What stands behind a command, and what the command is then asked to do. -/
def commandOf (name : Text) : CommandShape × (ArgumentReading → CommandTask) :=
  if name = lit "init" then (initShape, initTask)
  else if name = lit "scan" then (scanShape, scanTask)
  else if name = lit "review" then (reviewShape, reviewTask)
  else if name = lit "gaps" then (gapsShape, gapsTask)
  else (serveShape, serveTask)

/-- Reads a command line. -/
def read (arguments : List Text) : Except Refusal CommandLine := do
  let r ← mainShape.read arguments
  let taken := r.positional.getD []
  let (shape, task) := commandOf (taken.headD [])
  let s ← shape.read taken.tail
  let leftOver := r.leftOver ++ s.leftOver
  if !leftOver.isEmpty then throw (.usage program (.unknown leftOver))
  return {
    verbose := r.isOn "--verbose" || s.isOn "--verbose"
    logFile := r.text? "--log-file"
    path := (s.positional.getD []).headD (lit ".")
    task := task s }

end CommandLine

end HelpCenter

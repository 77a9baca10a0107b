import HelpCenter.Command.Basic
import HelpCenter.Log.Sink
import HelpCenter.Settings.Starter
import HelpCenter.Store.Gaps

/-!
# Running commands

A command prints what it has done and ends with the code zero, or it tells what is wrong and ends
with the code one; a command line that cannot be read ends with the code two. What is logged
meanwhile is printed before the text that tells what is wrong.
-/

namespace HelpCenter

/-- How a command ended: its code and what it printed. -/
structure Exit where
  code : Nat := 0
  output : Text := []
  errors : Text := []

namespace Exit

/-- A good end with lines of output. -/
def said (lines : List Text) : Exit := { output := lines.flatMap (· ++ lit "\n") }

/-- A bad end with a line that tells why. -/
def failed (why : Text) : Exit := { code := 1, errors := why ++ lit "\n" }

/-- The end of a command line that cannot be read. -/
def refused : Refusal → Exit
  | .help program => said [lit "usage: " ++ program ++ lit " [options]"]
  | .usage program fault =>
    { code := 2, errors := program ++ lit ": error: " ++ fault.message ++ lit "\n" }

end Exit

namespace Text

/-- The text with blanks behind it up to a width. -/
def padRight (width : Nat) (t : Text) : Text :=
  t ++ List.replicate (width - t.length) (CodePoint.ofChar ' ')

/-- Digits, the last first, with a comma after each three that more follow. -/
def groupReversed : Text → Text
  | a :: b :: c :: d :: rest => a :: b :: c :: ',' :: groupReversed (d :: rest)
  | t => t

/-- A natural number with commas between its thousands. -/
def ofNatGrouped (n : Nat) : Text := (groupReversed (ofNat n).reverse).reverse

end Text

namespace CommandTask

/-- Ends a command badly on failures that `why` explains. -/
def explaining (why : Failure → Option Text) (a : Action Exit) : Action Exit := do
  match ← a.attempt with
  | .ok e => return e
  | .error e =>
    match why e with
    | some text => return .failed text
    | none => throw e

/-- The place of a path that may lead through links. -/
def placeOf (cwd : Place) (path : Text) : Action Place := do
  return (← Action.files).resolve ((FilePath.ofText path).place cwd)

/-- A place as seen from the current directory if it lies there. -/
def shown (cwd p : Place) : Text :=
  if p.take cwd.length = cwd then FilePath.toText ⟨[], p.drop cwd.length⟩
  else (Place.path p).toText

/-- Makes the directory of the state in a project unless it is there. -/
def makeStateDir (root : Place) : Action Unit := do
  let dir := root ++ [lit ".kodex"]
  match (← Action.files).makeDir dir with
  | .ok t => modify fun w => { w with files := t }
  | .error .alreadyExists =>
    if !(← Action.files).isDir dir then throw (.file .alreadyExists)
  | .error fault => throw (.file fault)

/-- Why a project cannot be set up. -/
def initFault : Failure → Option Text
  | .configExists name => some (Failure.configExists name).text
  | .file .alreadyExists => some (Failure.file .alreadyExists).text
  | .file fault => some (lit "kodex init failed: " ++ fault.message)
  | _ => none

/-- Sets a project up. -/
def setUp (cwd : Place) (path : Text) (product : Option Text) (overwrite : Bool) : Action Exit := do
  let root ← placeOf cwd path
  if !(← Action.files).isDir root then
    return .failed (Failure.projectNotDirectory (Place.path root).toText).text
  explaining initFault do
    let (files, file) ←
      Action.ofExcept (Settings.writeStarter (← Action.files) root product overwrite)
    modify fun w => { w with files }
    makeStateDir root
    return .said [lit "Created " ++ shown cwd file,
      lit "Next: edit the configuration, then run `kodex scan`."]

/-- Why a project cannot be scanned. -/
def scanFault : Failure → Option Text
  | .config fault => some (Failure.config fault).text
  | .noProject path => some (Failure.noProject path).text
  | .projectNotDirectory path => some (Failure.projectNotDirectory path).text
  | .file .missing => some FileFault.missing.message
  | .file .notDirectory => some FileFault.notDirectory.message
  | .store fault =>
    some (lit "kodex scan failed: " ++ (Failure.store fault).text ++
      lit "\nRun with --verbose for more details.")
  | _ => none

/-- A line if there is something to say. -/
def lineIf (p : Bool) (line : Text) : List Text := if p then [line] else []

/-- The lines about a scan. -/
def scanLines (m : CodeMap) : List Text :=
  let framework := m.info.framework.str?.getD []
  [lit "Scanned " ++ Text.ofInt m.info.filesScanned ++ lit " files in " ++
      Text.ofInt m.info.durationMs ++ lit "ms",
    lit "  Routes: " ++ Text.ofNat m.routes.length,
    lit "  Components: " ++ Text.ofNat m.components.length,
    lit "  Pages: " ++ Text.ofNat m.pages.length,
    lit "  Features: " ++ Text.ofNat m.features.length] ++
  lineIf (!framework.isEmpty) (lit "  Framework: " ++ framework) ++
  lineIf (m.info.filesFailed ≠ 0)
    (lit "  Unparsable files skipped: " ++ Text.ofInt m.info.filesFailed)

/-- The lines about written articles. -/
def resultLines (r : BatchResult) (trial : Bool) : List Text :=
  let drafts := (r.articles.filter fun a => a.status = lit "draft").length
  [lit "  Generated: " ++ Text.ofNat r.generated ++ lit " items",
    lit "  Updated: " ++ Text.ofNat r.updated ++ lit " items",
    lit "  Skipped: " ++ Text.ofNat r.skipped ++ lit " items (pinned, unchanged, or failed)"] ++
  lineIf (r.tokens ≠ 0) (lit "  Tokens used: ~" ++ Text.ofNatGrouped r.tokens) ++
  lineIf trial (lit "Dry run - no files written") ++
  lineIf (drafts ≠ 0 && !trial)
    (Text.ofNat drafts ++ lit " items need review. Run: kodex review")

/-- Brings a project's knowledge base up to date. -/
def refresh (r : Refresher) (cwd : Place) (path : Text) (o : RefreshOptions) : Action Exit :=
  explaining scanFault do
    let outcome ← r.run ((FilePath.ofText path).place cwd) o
    let rest := match outcome.result with
      | none => [lit "Scan complete (generation skipped)"]
      | some result => resultLines result outcome.trial
    return .said (scanLines outcome.codeMap ++ rest)

/-- Why the store of a project cannot be opened. -/
def configFault : Failure → Option Text
  | .config fault => some (Failure.config fault).text
  | _ => none

/-- Goes on with the store of a project. -/
def withStore (cwd : Place) (path : Text) (a : Store → Action Exit) : Action Exit := do
  let settings := Settings.load (← Action.files) ((FilePath.ofText path).place cwd)
  match settings with
  | .ok s => a (.ofSettings s)
  | .error e => explaining configFault (throw e)

/-- Why an article cannot be put in another state. -/
def reviewFault : Failure → Option Text
  | .noDocument id => some (Failure.noDocument id).text
  | .store fault => some (lit "kodex review failed: " ++ (Failure.store fault).text)
  | _ => none

/-- The line about an article. -/
def articleLine (a : Article) : Text :=
  a.id ++ lit "  " ++ Text.padRight 8 a.status ++ lit "  " ++ a.topic ++ lit "  " ++
    a.title.display ++ (if a.humanEdited then lit " [edited]" else [])

/-- The lines about articles, sorted by topic. -/
def articleLines (as : List Article) : List Text :=
  if as.isEmpty then [lit "No documentation items found."]
  else (as.mergeSort fun a b => Text.le a.topic b.topic).map articleLine

/-- Reviews the articles of a project. -/
def inspect (s : Store) : ReviewTask → Action Exit
  | .approve id => explaining reviewFault do
    return .said [lit "Approved " ++ (← s.setStatus id (lit "approved")).id]
  | .pin id => explaining reviewFault do
    return .said [lit "Pinned " ++ (← s.setPinned id true).id]
  | .unpin id => explaining reviewFault do
    return .said [lit "Unpinned " ++ (← s.setPinned id false).id]
  | .list status => do
    let k ← s.load
    return .said (articleLines (k.articles.filter fun a => status.all (a.status = ·)))

/-- Why a question cannot be recorded or settled. -/
def gapFault (e : Failure) : Option Text :=
  match e with
  | .noGap _ | .emptyQuestion | .data .unreadable | .data (.notUtf8 _) | .data .notEncodable =>
    some e.text
  | .store _ => some (lit "kodex gaps failed: " ++ e.text)
  | _ => none

/-- The line about a question. -/
def gapLine (g : Gap) : Text :=
  g.id ++ lit "  " ++ Text.padRight 11 g.status ++ lit "  x" ++ Text.ofInt g.frequency ++
    lit "  " ++ g.question ++
    (if g.page.isNothing then [] else lit " (" ++ g.page.display ++ lit ")")

/-- The lines about questions. -/
def gapLines (gs : List Gap) : List Text :=
  if gs.isEmpty then [lit "No documentation gaps recorded."] else gs.map gapLine

/-- Keeps track of the questions of a project. -/
def trackGaps (s : Store) : GapTask → Action Exit
  | .add question page => explaining gapFault do
    let g ← s.addGap question (Json.ofText? page)
    return .said [lit "Recorded " ++ g.id ++ lit " (asked " ++ Text.ofInt g.frequency ++ lit "x)"]
  | .resolve id => explaining gapFault do
    return .said [lit "Resolved " ++ (← s.resolveGap id .null .null).id]
  | .list => do return .said (gapLines (← s.listGaps none))

/-- Tells where a project's knowledge base is to be served. -/
def announce (cwd : Place) (path : Text) (host : Option Text) (port : Option Int) : Action Exit := do
  let root ← placeOf cwd path
  explaining configFault do
    let s ← Action.ofExcept (Settings.load (← Action.files) root)
    return .said [lit "serve " ++ (Place.path root).toText ++ lit " " ++
      host.getD s.dashboard.host ++ lit " " ++ Text.ofInt (port.getD s.dashboard.port)]

/-- Does what a command is asked to do. -/
def perform (r : Refresher) (cwd : Place) (path : Text) : CommandTask → Action Exit
  | .init product overwrite => setUp cwd path product overwrite
  | .scan o => refresh r cwd path o
  | .review task => withStore cwd path fun s => inspect s task
  | .gaps task => withStore cwd path fun s => trackGaps s task
  | .serve host port => announce cwd path host port

end CommandTask

namespace CommandLine

/-- Where the log of a command line goes. -/
def sinks (c : CommandLine) (cwd : Place) : LogSinks where
  verbose := c.verbose
  file := c.logFile.map fun path => (FilePath.ofText path).place cwd

/-- Runs a command line that was read, and logs. -/
def perform (c : CommandLine) (r : Refresher) (cwd : Place) : Action Exit := do
  let sinks := c.sinks cwd
  sinks.prepare
  let before := (← get).log
  let result ← (c.task.perform r cwd c.path).attempt
  let logged := (← get).log.drop before.length
  sinks.record logged
  let e ← Action.ofExcept result
  return { e with errors := sinks.consoleText logged ++ e.errors }

/-- Runs the command line that arguments make. -/
def run (r : Refresher) (cwd : Place) (arguments : List Text) : Action Exit :=
  match read arguments with
  | .ok c => c.perform r cwd
  | .error why => return .refused why

end CommandLine

end HelpCenter

import HelpCenter.CodeMap.Merge
import HelpCenter.Scan.Discovery
import HelpCenter.Scan.Findings
import HelpCenter.Scan.Framework
import HelpCenter.Workspace.Basic

/-!
# Scanning a project

The source files of a project are read one by one and their findings put together. A file that
cannot be read or understood is counted and left out.
-/

namespace HelpCenter

/-- What a scan works with apart from the project. -/
structure Scanner where
  catalog : Catalog
  workers : Option Int := none

namespace Scanner

/-- An entry in the log of the scanner. -/
def log (level : LogLevel) (message : Text) : Action Unit :=
  Action.log (.of level "scanner" message)

/-- Reads a source of a project. -/
def readSource (files : FileTree) (root : Place) (path : Text) : Except Failure SourceUnit :=
  match files.readText (root ++ (FilePath.ofText path).names) with
  | .ok text => SourceUnit.ofText path text none
  | .error (.data (.notUtf8 fault)) => .error (.undecodableSource path fault)
  | .error (.file fault) => .error (.unreadableSource path fault)
  | .error e => .error e

/-- Whether a failure says that a source cannot be read. -/
def isUnreadable : Failure → Bool
  | .undecodableSource .. | .unreadableSource .. => true
  | _ => false

/-- The modules that a source of a project imports; one that cannot be read imports none. -/
def importsOf (files : FileTree) (root : Place) (path : Text) : Except Failure (List Text) :=
  match readSource files root path with
  | .ok u => u.imports
  | .error e => if isUnreadable e then .ok [] else .error e

/-- The framework of a project as its layout and its imports suggest. -/
def framework? (files : FileTree) (root : Place) (sources : List Text) :
    Except Failure (Option Text) := do
  if Framework.hasRouteLayout files root sources then return some (lit "nextjs")
  return Framework.ofImports (← sources.mapM (importsOf files root)).flatten

/-- The entry that tells why a source is left out. -/
def leftOut (path : Text) (e : Failure) : LogEntry :=
  let what := if isUnreadable e then lit "Skipping " else lit "Extraction failed for "
  { LogEntry.of .debug "scanner" (what ++ path) with cause := e.text }

/-- What a source of a project shows, none if it fails; the log tells why. -/
def findings? (s : Scanner) (root : Place) (framework : Option Text) (path : Text) :
    Action (Option Findings) := do
  match readSource (← Action.files) root path with
  | .error e =>
    Action.log (leftOut path e)
    return none
  | .ok u =>
    if u.program.hasErrors then
      log .debug (path ++ lit " has syntax errors; extracting what parsed")
    match u.findings framework s.catalog with
    | .ok found => return some found
    | .error e =>
      Action.log (leftOut path e)
      return none

/-- The code map of what was found, given what is known about the scan. -/
def codeMapOf (found : List Findings) (info : ScanInfo) : CodeMap :=
  let routes := found.flatMap (·.routes)
  let components := found.flatMap (·.components)
  let strings := found.flatMap (·.strings)
  { routes
    components
    pages := buildPages routes components strings
    strings
    endpoints := found.flatMap (·.endpoints)
    features := mergeFeatures (found.flatMap (·.features))
    info }

/-- The number of workers, if one is set; it has to be positive. -/
def checkWorkers (s : Scanner) (settings : ScanSettings) : Except Failure Unit :=
  let given := match settings.workers with
    | some n => if n = 0 then s.workers else some n
    | none => s.workers
  if given.any (· ≤ 0) then .error (.data .unreadable) else .ok ()

/-- The entry that sums a scan up. -/
def summary (m : CodeMap) : Text :=
  let count := fun {α : Type} (xs : List α) => Text.ofNat xs.length
  let framework := m.info.framework.str?.getD []
  lit "Scanned " ++ Text.ofInt m.info.filesScanned ++ lit " files in 0 ms (framework: " ++
    (if framework.isEmpty then lit "unknown" else framework) ++ lit "): " ++
    count m.routes ++ lit " routes, " ++ count m.components ++ lit " components, " ++
    count m.features ++ lit " features"

/-- Scans a project, whose path is named in failures as `shown`. -/
def scan (s : Scanner) (target : Place) (shown : Text) (settings : ScanSettings) :
    Action CodeMap := do
  let files ← Action.files
  let root := files.resolve target
  if !files.exists_ root then throw (.noProject shown)
  if !files.isDir root then throw (.projectNotDirectory shown)
  let sources ← Action.ofExcept (Discovery.sources files root settings.includes settings.excludes)
  log .debug (lit "Discovered " ++ Text.ofNat sources.length ++ lit " source files under " ++
    (Place.path root).toText)
  Action.ofExcept (s.checkWorkers settings)
  let framework ←
    if settings.framework = lit "auto" then Action.ofExcept (framework? files root sources)
    else pure (some settings.framework)
  let scanned ← sources.mapM (s.findings? root framework)
  let found := scanned.filterMap id
  let failed := scanned.length - found.length
  if failed ≠ 0 then
    log .warning (lit "Skipped " ++ Text.ofNat failed ++ lit " of " ++
      Text.ofNat sources.length ++ lit " files that could not be parsed")
  let m := codeMapOf found {
    scannedAt := (← Action.now).toText
    filesScanned := sources.length
    framework := Json.ofText? framework
    filesFailed := failed }
  log .info (summary m)
  return m

end Scanner

end HelpCenter

import HelpCenter.Command.Run
import Std.Time.DateTime

/-!
# The program

Reads the project that the command line names into memory, runs the command there, and writes back
what the command has changed. Calls to services outside are answered as unreachable.
-/

namespace HelpCenter.Program

/-- The path of a place for the operating system. -/
def pathOf (p : Place) : String := (Place.path p).toText.toString

/-- The place of an absolute path. -/
def placeOf (path : String) : Place := (FilePath.ofText (Text.ofString path)).names

/-- What a file holds, nothing if it cannot be read. -/
def fileAt (p : Place) : IO (List (Place × Entry)) := do
  try
    let content ← IO.FS.readBinFile (pathOf p)
    return [(p, .file content.toList)]
  catch _ => return []

/-- What stands at a place and below it. A link to a file is taken for the file, and one to a
directory is left out. -/
partial def entriesBelow (p : Place) : IO (List (Place × Entry)) := do
  let here := (← IO.currentDir) / pathOf p
  match (← here.symlinkMetadata).type with
  | .dir =>
    let names := (← here.readDir).toList.map (·.fileName)
    let below ← names.mapM fun name => entriesBelow (p ++ [Text.ofString name])
    return (p, .dir) :: below.flatten
  | .file | .symlink => fileAt p
  | .other => return []

/-- The directories around a place. -/
def around (p : Place) : List (Place × Entry) :=
  (List.range p.length).filterMap fun n => if n = 0 then none else some (p.take n, .dir)

/-- What stands at a place and below it, with the directories around it; where nothing stands, the
directories that exist. -/
partial def entriesAt (p : Place) : IO (List (Place × Entry)) := do
  let here := (← IO.currentDir) / pathOf p
  if ← here.isDir then return around p ++ (← entriesBelow p)
  else if p.isEmpty then return []
  else if ← here.pathExists then return around p.dropLast ++ (← entriesBelow p.dropLast)
  else if ← ((← IO.currentDir) / pathOf p.dropLast).isDir then return around p
  else entriesAt p.dropLast

/-- The file of the log, as far as it exists, with the directories around it. -/
def logEntries (p : Place) : IO (List (Place × Entry)) := do
  let exist ← (List.range p.length).filterMapM fun n => do
    let dir := p.take n
    if n ≠ 0 && (← ((← IO.currentDir) / pathOf dir).isDir) then return some (dir, Entry.dir)
    else return none
  return exist ++ (← fileAt p)

/-- The files that a command works on. -/
def filesFor (cwd : Place) (c : CommandLine) : IO FileTree := do
  let project ← entriesAt ((FilePath.ofText c.path).place cwd).collapse
  let log ← match c.logFile with
    | some path => logEntries ((FilePath.ofText path).place cwd).collapse
    | none => pure []
  return (around cwd ++ [(cwd, Entry.dir)] ++ log ++ project).foldl (fun t (p, e) => t.set p e) .empty

/-- Writes an entry to the disk. -/
def writeEntry : Place × Entry → IO Unit
  | (p, .dir) => IO.FS.createDirAll (pathOf p)
  | (p, .file content) => IO.FS.writeBinFile (pathOf p) ⟨content.toArray⟩
  | (_, .link _) => pure ()

/-- Writes what has changed to the disk. -/
def writeChanges (before after : FileTree) : IO Unit := do
  for (p, e) in after.entries do
    if before.entries.lookup p ≠ some e then writeEntry (p, e)
  for (p, _) in before.entries do
    if (after.entries.lookup p).isNone then IO.FS.removeFile (pathOf p)

/-- The moment now. -/
def now : IO Moment := do
  return ⟨(← Std.Time.Timestamp.now).toNanosecondsSinceUnixEpoch.val / 1000⟩

/-- The variables of the environment. -/
def environment : IO Environment := do
  try
    let bytes := (← IO.FS.readBinFile "/proc/self/environ").toList
    let settings := Text.splitOn (CodePoint.ofNat 0) (Utf8.decodeLenient bytes)
    return settings.map (Text.cutAtFirst '=')
  catch _ => return []

/-- Runs a command line on the disk. -/
def run (arguments : List String) : IO Exit := do
  let args := arguments.map Text.ofString
  let cwd := placeOf (← IO.currentDir).toString
  match CommandLine.read args with
  | .error why => return .refused why
  | .ok c =>
    let files ← filesFor cwd c
    let refresher : Refresher := {
      environment := ← environment
      send := fun _ => .unreachable (lit "no network access") }
    let (result, w) := (c.perform refresher cwd).perform { files, now := ← now }
    writeChanges files w.files
    match result with
    | .ok e => return e
    | .error e => return .failed e.text

end HelpCenter.Program

/-- Runs the command line and gives its exit code. -/
def main (arguments : List String) : IO UInt32 := do
  let e ← HelpCenter.Program.run arguments
  (← IO.getStdout).putStr e.output.toString
  (← IO.getStderr).putStr e.errors.toString
  return e.code.toUInt32

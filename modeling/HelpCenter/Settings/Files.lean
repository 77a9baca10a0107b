import HelpCenter.Json.Reader
import HelpCenter.Settings.Check
import HelpCenter.Settings.Reading

/-!
# Configuration files

A project's settings come from the first configuration file found in its directory, or from a
file named explicitly. A file that ends in `.json` holds JSON, every other one YAML.
-/

namespace HelpCenter

/-- The text of a file; all kinds of line ends become line feeds. -/
def FileTree.readText (t : FileTree) (p : Place) : Except Failure Text :=
  match t.read p with
  | .error e => .error (.file e)
  | .ok bytes =>
    match Utf8.decode bytes with
    | .ok text => .ok (Text.normalizeNewlines text)
    | .error fault => .error (.data (.notUtf8 fault))

namespace Settings

/-- Whether a value of a document stands for nothing. -/
def isNothing : Yaml.Value → Bool
  | .null => true
  | .bool b => !b
  | .int n => n == 0
  | .float x => x.isZero
  | .str t => t.isEmpty
  | .bytes b => b.isEmpty
  | .list items => items.isEmpty
  | .set members => members.isEmpty
  | .map entries => entries.isEmpty
  | .moment _ | .pair .. | .ref _ => false

/-- The document in a configuration file's text; one that stands for nothing is an empty mapping,
unless it is JSON. -/
def documentOf (name text : Text) : Except Failure Yaml.Document :=
  let blank : Yaml.Document := ⟨.map [], []⟩
  if Text.isBlank text then .ok blank
  else if (FilePath.splitName name).2 = lit ".json" then
    match Json.parse text with
    | .ok j => .ok (.ofJson j)
    | .error .malformed => .error (.config (.unparsable name))
    | .error .hugeInteger => .error (.data .unreadable)
  else
    match Yaml.parse text with
    | .ok none => .ok blank
    | .ok (some d) => if isNothing (d.deref d.root) then .ok blank else .ok d
    | .error .malformed => .error (.config (.unparsable name))
    | .error (.data fault) => .error (.data fault)

/-- The document in a configuration file. -/
def readFile (files : FileTree) (p : Place) : Except Failure Yaml.Document := do
  let name := p.getLast?.getD []
  match files.readText p with
  | .error (.file cause) => throw (.config (.unreadable name cause))
  | .error e => throw e
  | .ok text => documentOf name text

/-- The first known configuration file in a directory. -/
def findFile? (files : FileTree) (root : Place) : Option Place :=
  (fileNames.map fun name => root ++ [name]).find? files.isFile

/-- The project's directory and its configuration file, for a directory or a file. -/
def locate (files : FileTree) (target : Place) : Except Failure (Place × Place) :=
  if files.isDir target then
    let root := files.resolve target
    match findFile? files root with
    | some file => .ok (root, file)
    | none => .error (.config .notFound)
  else
    let file := files.resolve target
    if files.exists_ file then .ok (file.dropLast, file)
    else .error (.config (.fileNotFound (Place.path file).toText))

/-- Reads the settings of a directory or of a configuration file without checking them. -/
def read (files : FileTree) (target : Place) : Except Failure Settings := do
  let (root, file) ← locate files target
  let d ← readFile files file
  match d.deref d.root with
  | .map entries =>
    match ofSection root ⟨d, entries⟩ with
    | .ok s => return { s with source := file }
    | .error fault => throw (.data fault)
  | _ => throw (.config (.notMapping (file.getLast?.getD [])))

/-- Reads the settings of a directory or of a configuration file. -/
def load (files : FileTree) (target : Place) : Except Failure Settings := do
  let s ← read files target
  s.check
  return s

end Settings

end HelpCenter

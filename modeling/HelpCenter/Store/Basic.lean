import HelpCenter.Article.Markdown
import HelpCenter.Json.Printer
import HelpCenter.Json.Reader
import HelpCenter.Workspace.Basic

/-!
# The store of a knowledge base

A knowledge base lives in three files of JSON in a directory of its own, and each article is
written out as a document. Loading puts up with whatever it finds: a file that cannot be read
counts as empty, and a record that does not fit is left out.
-/

namespace HelpCenter

/-- A knowledge base on disk. -/
structure Store where
  root : Place
  docs : DocsSettings := {}
  name : Text := lit "My Product"
  version : Text := lit "1.0.0"

namespace Store

/-- The store that settings describe. -/
def ofSettings (s : Settings) : Store := ⟨s.root, s.docs, s.name, s.version⟩

/-- The place of a state file. -/
def stateFile (s : Store) (name : String) : Place := s.root ++ [lit ".kodex", lit name]

/-- The file of the articles. -/
def itemsFile (s : Store) : Place := s.stateFile "items.json"

/-- The file of the questions. -/
def gapsFile (s : Store) : Place := s.stateFile "gaps.json"

/-- The file of the code map. -/
def codeMapFile (s : Store) : Place := s.stateFile "codemap.json"

/-- The directory of the documents. -/
def docsDir (s : Store) : FilePath := (Place.path s.root).join (.ofText s.docs.outputDir)

/-- The document of an article as Markdown. -/
def markdownFile (s : Store) (a : Article) : FilePath := a.markdownPath s.docsDir

/-- The directory of the documents as JSON. -/
def jsonDir (s : Store) : FilePath := s.docsDir.join (.ofText (lit "json"))

/-- The document of an article as JSON. -/
def jsonFile (s : Store) (id : Text) : FilePath := s.jsonDir.join (.ofText (id ++ lit ".json"))

/-- A warning in the log of the store. -/
def warn (message : Text) (cause : Text) : Action Unit :=
  Action.log { LogEntry.of .warning "storage" message with cause }

/-- A warning that a file is left out of account. -/
def warnUnreadable (file : Place) (cause : Text) : Action Unit :=
  warn (lit "Ignoring unreadable " ++ file.getLast?.getD []) cause

/-! ## Loading -/

/-- The value in a state file: none where the file is missing or cannot be understood. -/
def readState (file : Place) : Action (Option Json) := do
  match ← (Action.readText file).attempt with
  | .error (.file .missing) => return none
  | .error (.file fault) =>
    warnUnreadable file fault.message
    return none
  | .error (.data (.notUtf8 fault)) =>
    warnUnreadable file fault.message
    return none
  | .error e => throw e
  | .ok text =>
    match Json.parse text with
    | .ok v => return some v
    | .error .malformed =>
      warnUnreadable file (lit "malformed JSON")
      return none
    | .error .hugeInteger => throw (.data .unreadable)

/-- Whether a fault shows that a record does not fit, so that it is left out. -/
def isMisfit : DataFault → Bool
  | .missing _ | .wrongKind | .unreadable | .notUtf8 _ | .notEncodable => true
  | .outOfRange | .noPart | .outOfBounds => false

/-- Reads a record unless it does not fit, in which case there is a warning. -/
def readRecord {α : Type} (kind : String) (read : Json → Except DataFault α) (v : Json) :
    Action (Option α) := do
  match v with
  | .obj _ =>
    match read v with
    | .ok r => return some r
    | .error fault =>
      if isMisfit fault then
        warn (lit "Skipping malformed " ++ lit kind ++ lit " record") fault.message
        return none
      else throw (.data fault)
  | _ => return none

/-- Reads the records in a list of a state file. -/
def readRecords {α : Type} (kind member : String) (read : Json → Except DataFault α)
    (state : Json) : Action (List α) := do
  match state.list member with
  | .error fault => throw (.data fault)
  | .ok vs => return (← vs.mapM (readRecord kind read)).filterMap id

/-- A value of a state file, nothing where the file does not hold an object. -/
def objectOf (state : Option Json) : Json :=
  match state with
  | some (.obj members) => .obj members
  | _ => .obj []

/-- Loads the code map. -/
def loadCodeMap (s : Store) : Action (Option CodeMap) := do
  match ← readState s.codeMapFile with
  | some (.obj members) =>
    match CodeMap.ofJson (.obj members) with
    | .ok m => return some m
    | .error fault =>
      if isMisfit fault then
        warnUnreadable s.codeMapFile fault.message
        return none
      else throw (.data fault)
  | _ => return none

/-- What the file of the articles says about the knowledge base. -/
def infoOf (s : Store) (items : Json) : KnowledgeInfo :=
  let info := (items.get? (lit "meta")).getD .null
  { name := s.name
    version := s.version
    lastScanAt := (info.get? (lit "last_scan_at")).getD .null
    lastGenerateAt := (info.get? (lit "last_generate_at")).getD .null }

/-- Loads the knowledge base. -/
def load (s : Store) : Action KnowledgeBase := do
  let items := objectOf (← readState s.itemsFile)
  let gaps := objectOf (← readState s.gapsFile)
  let articles ← readRecords "KnowledgeItem" "items" Article.ofJson items
  let gaps ← readRecords "GapItem" "gaps" Gap.ofJson gaps
  let codeMap ← s.loadCodeMap
  return { articles, gaps, codeMap, info := s.infoOf items }

/-! ## Saving -/

/-- Writes a value into a file; one that cannot be printed leaves the file as it is. -/
def writeJson (file : Place) (v : Json) : Action Unit :=
  match v.pretty? with
  | some text => Action.writeText file text
  | none => throw (.data .unreadable)

/-- Writes a state file. -/
def writeState (file : Place) (v : Json) : Action Unit :=
  Action.onFileFault (.store ∘ .unwritable (Place.path file).toText) do
    Action.makeDirs file.dropLast
    writeJson file v

/-- Saves the code map. -/
def saveCodeMap (s : Store) (m : CodeMap) : Action Unit := writeState s.codeMapFile m.toJson

/-- Writes a document. -/
def writeDocument (file : FilePath) (text : Except DataFault Text) : Action Unit := do
  Action.makeDirs (file.parent.place [])
  match text with
  | .ok text => Action.writeText (file.place []) text
  | .error fault => throw (.data fault)

/-- Whether documents are written in a format. -/
def hasFormat (s : Store) (format : String) : Bool :=
  s.docs.format = lit format || s.docs.format = lit "both"

/-- Writes the documents of an article. -/
def writeDocs (s : Store) (a : Article) : Action Unit :=
  Action.onFileFault (.store ∘ .docsUnwritable a.id) do
    if s.hasFormat "markdown" then writeDocument (s.markdownFile a) a.markdown
    if s.hasFormat "json" then
      Action.makeDirs (s.jsonDir.place [])
      writeJson ((s.jsonFile a.id).place []) a.toJson

/-- Saves a knowledge base with the documents of its articles. -/
def save (s : Store) (k : KnowledgeBase) : Action Unit := do
  writeState s.itemsFile (.ofFields [
    ("items", .arr (k.articles.map Article.toJson)), ("meta", k.info.toJson)])
  writeState s.gapsFile (.ofFields [("gaps", .arr (k.gaps.map Gap.toJson))])
  match k.codeMap with
  | some m => s.saveCodeMap m
  | none => pure ()
  k.articles.forM s.writeDocs

end Store

end HelpCenter

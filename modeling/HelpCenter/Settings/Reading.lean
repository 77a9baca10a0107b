import HelpCenter.Number.Reading
import HelpCenter.Settings.Basic
import HelpCenter.Yaml.Value

/-!
# Settings from a document

A document's entries replace the settings they name. Values of an unexpected kind are converted
where that is possible and otherwise count as absent; integers can be too long for that.
-/

namespace HelpCenter

open Yaml (Document Value)

/-- A mapping of a document. -/
structure Section where
  document : Document
  entries : List (Value × Value)

namespace Section

/-- The value of a name. -/
def get? (s : Section) (name : String) : Option Value := s.document.entry? (lit name) s.entries

/-- Whether there is a value of a name. -/
def has (s : Section) (name : String) : Bool := (s.get? name).isSome

/-- The value of the first of two names that has one. -/
def pick? (s : Section) (name other : String) : Option Value := (s.get? name).or (s.get? other)

/-- The section of a name, if it is a mapping with entries. -/
def section? (s : Section) (name : String) : Option Section :=
  match s.get? name with
  | some (.map (e :: entries)) => some ⟨s.document, e :: entries⟩
  | _ => none

end Section

namespace LooseValue

/-- The text of an integer; one with too many digits has none. -/
def integerText (n : Int) : Except DataFault Text :=
  if digitCount n.natAbs ≤ Text.maxIntegerDigits then .ok (Text.ofInt n) else .error .unreadable

/-- A text, or the text of a number or of a truth value. -/
def text? : Option Value → Except DataFault (Option Text)
  | some (.bool b) => .ok (some (lit (if b then "true" else "false")))
  | some (.str t) => .ok (some t)
  | some (.int n) => (integerText n).map some
  | some (.float x) => .ok (some x.toText)
  | _ => .ok none

/-- A text that is not empty. -/
def filled? (v : Option Value) : Except DataFault (Option Text) :=
  (text? v).map (·.filter fun t => !t.isEmpty)

/-- An integer, or a text that reads as one. -/
def integer? : Option Value → Option Int
  | some (.int n) => some n
  | some (.str t) => Text.readInteger? t
  | _ => none

/-- A double, or an integer or a text that reads as one. An integer beyond all doubles fails. -/
def double? : Option Value → Except DataFault (Option Binary64)
  | some (.int n) =>
    let x := Binary64.ofInt n
    if x.isFinite then .ok (some x) else .error .outOfRange
  | some (.float x) => .ok (some x)
  | some (.str t) => .ok (Text.readDouble? t)
  | _ => .ok none

/-- The text of a list's item, nothing for items that are neither texts nor numbers. -/
def itemText? : Value → Except DataFault (Option Text)
  | .bool b => .ok (some (lit (if b then "True" else "False")))
  | .str t => .ok (some t)
  | .int n => (integerText n).map some
  | .float x => .ok (some x.toText)
  | _ => .ok none

/-- A list of texts; one text counts as a list. -/
def texts (d : Document) : Option Value → Except DataFault (List Text)
  | some (.str t) => .ok [t]
  | some (.list items) => (items.mapM fun v => itemText? (d.deref v)).map (·.filterMap id)
  | some (.bytes bytes) => .ok (bytes.map fun b => Text.ofNat b.toNat)
  | _ => .ok []

end LooseValue

namespace Settings

open LooseValue

/-- The texts of a name, others if there is no value of it. -/
def textsOr (s : Section) (name : String) (others : List Text) : Except DataFault (List Text) :=
  if s.has name then texts s.document (s.get? name) else .ok others

/-- The scan settings of a section. -/
def readScan (s : Section) : Except DataFault ScanSettings := do
  let base : ScanSettings := {}
  let includes ← textsOr s "include" base.includes
  let excludes ← textsOr s "exclude" base.excludes
  let framework ← filled? (s.get? "framework")
  return {
    includes
    excludes
    framework := Text.toLower (framework.getD (lit "auto"))
    workers := integer? (s.get? "workers") }

/-- The custom topic of a list's item; one without an id is passed over. -/
def readTopic (d : Document) (item : Value) : Except DataFault (Option CustomTopic) :=
  match d.deref item with
  | .map entries => do
    let s : Section := ⟨d, entries⟩
    match ← filled? (s.get? "id") with
    | none => return none
    | some id =>
      let name ← filled? (s.get? "name")
      let patterns ← texts d (s.get? "patterns")
      let prompt ← text? (s.get? "prompt")
      return some { id, name := name.getD id, patterns, prompt }
  | _ => .ok none

/-- The custom topics of a value. -/
def readTopics (d : Document) : Option Value → Except DataFault (List CustomTopic)
  | some (.list items) => (items.mapM (readTopic d)).map (·.filterMap id)
  | _ => .ok []

/-- The settings of documents of a section. -/
def readDocs (s : Section) : Except DataFault DocsSettings := do
  let base : DocsSettings := {}
  let outputDir ← filled? (s.pick? "output_dir" "outputDir")
  let format ← filled? (s.get? "format")
  let topics ← textsOr s "topics" base.topics
  let customTopics ← readTopics s.document (s.pick? "custom_topics" "customTopics")
  return {
    outputDir := outputDir.getD base.outputDir
    format := (format.map Text.toLower).getD base.format
    topics
    customTopics }

/-- The model settings of a section. -/
def readModel (s : Section) : Except DataFault ModelSettings := do
  let base : ModelSettings := {}
  let provider ← filled? (s.get? "provider")
  let model ← if s.has "model" then text? (s.get? "model") else .ok base.model
  let apiKey ← text? (s.pick? "api_key" "apiKey")
  let temperature ← double? (s.get? "temperature")
  let baseUrl ← text? (s.pick? "base_url" "baseUrl")
  let timeout ← double? (s.pick? "request_timeout" "requestTimeout")
  let executable ← text? (s.get? "executable")
  return {
    provider := (provider.map Text.toLower).getD base.provider
    model
    apiKey
    maxTokens := (integer? (s.pick? "max_tokens" "maxTokens")).getD base.maxTokens
    temperature := temperature.map .double
    baseUrl
    requestTimeout := (timeout.map .double).getD base.requestTimeout
    concurrency := (integer? (s.get? "concurrency")).getD base.concurrency
    executable }

/-- The dashboard settings of a section. -/
def readDashboard (s : Section) : Except DataFault DashboardSettings := do
  let base : DashboardSettings := {}
  let host ← filled? (s.get? "host")
  return { host := host.getD base.host, port := (integer? (s.get? "port")).getD base.port }

/-- What a section of a name gives, something else if there is none. -/
def sectionOr {α : Type} (s : Section) (name : String) (read : Section → Except DataFault α)
    (other : α) : Except DataFault α :=
  match s.section? name with
  | some inner => read inner
  | none => .ok other

/-- The settings that a document's root mapping gives to the project in a directory. -/
def ofSection (root : Place) (s : Section) : Except DataFault Settings := do
  let base : Settings := { root }
  let name ← filled? (s.get? "name")
  let version ← filled? (s.get? "version")
  let scan ← sectionOr s "scan" readScan base.scan
  let docs ← sectionOr s "docs" readDocs base.docs
  let model ← sectionOr s "llm" readModel base.model
  let dashboard ← sectionOr s "dashboard" readDashboard base.dashboard
  return {
    root
    name := name.getD base.name
    version := version.getD base.version
    scan
    docs
    model
    dashboard }

end Settings

end HelpCenter

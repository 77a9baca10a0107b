import HelpCenter.CodeMap.Basic
import HelpCenter.Pattern.Matcher
import HelpCenter.Settings.Check

/-!
# Topics

A topic of help articles is recognized in code by patterns, without regard to case. A catalog is
an ordered list of topics; a project can replace entries and add its own.
-/

namespace HelpCenter

/-- What helps to recognize and to describe a topic. -/
structure Topic where
  id : Text
  patterns : List CompiledPattern
  /-- How sure a single piece of evidence makes. -/
  confidence : Number
  name : Option Text := none
  /-- Guidance for whoever writes the article. -/
  prompt : Option Text := none

namespace Topic

/-- The name that an id suggests: its last part, with blanks for hyphens. -/
def nameOfId (id : Text) : Text := Text.substitute '-' (lit " ") (Text.lastPiece '.' id)

/-- The name shown for the topic. -/
def displayName (t : Topic) : Text :=
  match t.name with
  | some (c :: name) => c :: name
  | _ => nameOfId t.id

/-- The category of the topic. -/
def category (t : Topic) : Text := topicCategory t.id

/-- Reads the patterns of a topic; they disregard case. -/
def readPatterns (sources : List Text) : Except Failure (List CompiledPattern) :=
  sources.mapM fun source =>
    match CompiledPattern.read { ignoreCase := true } source with
    | .ok p => .ok p
    | .error fault => .error fault.failure

end Topic

/-- The source of a custom pattern: what stands between slashes, or a quotation of the text. -/
def customPatternSource (pattern : Text) : Text :=
  (patternBody? pattern).getD (Pattern.quoted pattern)

/-- The topic that a project describes. -/
def CustomTopic.topic (t : CustomTopic) (confidence : Number) : Except Failure Topic := do
  return { id := t.id
           patterns := ← Topic.readPatterns (t.patterns.map customPatternSource)
           confidence
           name := some t.name
           prompt := t.prompt }

/-- An ordered list of topics. -/
abbrev Catalog := List Topic

namespace Catalog

/-- The first topic of an id. -/
def get? (c : Catalog) (id : Text) : Option Topic := c.find? fun t => t.id = id

/-- Puts a topic in the place of the first one of the same id, or at the end. -/
def put (t : Topic) : Catalog → Catalog
  | [] => [t]
  | u :: rest => if u.id = t.id then t :: rest else u :: put t rest

/-- How sure evidence for a custom topic makes. -/
def customConfidence : Number := .double (.ofDecimal false 8 (-1))

/-- The catalog with custom topics put in, in order. -/
def extend (c : Catalog) (topics : List CustomTopic) (confidence : Number) :
    Except Failure Catalog :=
  topics.foldlM (fun c t => do return c.put (← t.topic confidence)) c

/-- The name shown for a topic that may not be in the catalog. -/
def displayName (c : Catalog) (id : Text) : Text :=
  match c.get? id with
  | some t => t.displayName
  | none => Topic.nameOfId id

end Catalog

end HelpCenter

import HelpCenter.Article.Basic
import HelpCenter.Number.Decimal
import HelpCenter.Time.Moment
import HelpCenter.Topic.Detection

/-!
# Plan of the articles to write

For each detected feature it is decided whether an article is written, written again, or left as
it is. What the writer is told about a feature is its context: the pages that show it and the
evidence in the code.
-/

namespace HelpCenter

/-- What happens to the article of a feature. -/
inductive Decision where
  | skipPinned (existing : Article)
  | skipUnchanged (existing : Article)
  | update (existing : Article) (context : Text)
  | create (context : Text)

namespace Decision

/-- The name of the decision. -/
def name : Decision → Text
  | .skipPinned _ => lit "skip_pinned"
  | .skipUnchanged _ => lit "skip_unchanged"
  | .update .. => lit "update"
  | .create _ => lit "create"

/-- The article that exists already. -/
def existing? : Decision → Option Article
  | .skipPinned a | .skipUnchanged a | .update a _ => some a
  | .create _ => none

/-- What the writer is told, if an article is written. -/
def context? : Decision → Option Text
  | .update _ context | .create context => some context
  | _ => none

end Decision

/-- A feature with the decision about its article. -/
structure PlannedTopic where
  feature : Feature
  decision : Decision

/-- Whether an article is written. -/
def PlannedTopic.needsWriting (p : PlannedTopic) : Bool := p.decision.context?.isSome

/-- The features whose category is one of the given. -/
def eligibleFeatures (features : List Feature) (categories : List Text) : List Feature :=
  features.filter fun f => categories.contains f.category

/-- The texts among values that are looked up in a set; values that cannot be fail. -/
def keyTexts (values : List Json) : Except DataFault (List Text) :=
  if values.all Json.isKey then .ok (values.filterMap Json.str?) else .error .wrongKind

namespace CodeMap

/-- The pages that some evidence of a feature lies on. -/
def relevantPages (m : CodeMap) (f : Feature) : Except DataFault (List Page) :=
  m.pages.filterM fun p => do
    return (← keyTexts p.sourceFiles).any f.sourceFiles.contains

end CodeMap

namespace Page

/-- How many texts of a page the writer is told. -/
def maxTexts : Nat := 10

/-- The lines that tell the writer about a page. -/
def contextLines (p : Page) : List Text :=
  let texts := p.strings.take maxTexts
  (lit "  - " ++ p.path) ::
    (if texts.isEmpty then [] else
      lit "    UI Elements:" :: texts.map fun s =>
        lit "      - [" ++ s.kind ++ lit "] \"" ++ s.value ++ lit "\"")

end Page

namespace Feature

/-- How many pieces of evidence the writer is told. -/
def maxSnippets : Nat := 5

/-- What the writer is told about a feature. -/
def context (f : Feature) (m : CodeMap) : Except DataFault Text := do
  let pages ← m.relevantPages f
  let pageLines := if pages.isEmpty then [] else
    lit "Relevant Pages:" :: pages.flatMap Page.contextLines ++ [[]]
  let evidenceLines := (f.evidence.take maxSnippets).map fun e =>
    lit "  - " ++ e.pattern ++ lit " (" ++ e.sourceFile ++ lit ":" ++ Text.ofInt e.line ++ lit ")"
  return Text.joinWith (lit "\n") (
    [lit "Feature: " ++ f.id, lit "Confidence: " ++ f.confidence.toDouble.toGeneralText 6, []] ++
    pageLines ++ lit "Code Evidence:" :: evidenceLines)

/-- Whether there is evidence in a file that the article was not written from. -/
def hasNewFiles (f : Feature) (existing : Article) : Except DataFault Bool := do
  let known ← keyTexts existing.sourceFiles
  return f.sourceFiles.any fun file => !known.contains file

/-- The decision about a feature's article. -/
def decide (f : Feature) (m : CodeMap) (existing : Option Article) (changedOnly : Bool) :
    Except DataFault Decision := do
  match existing with
  | none => return .create (← f.context m)
  | some a =>
    if a.pinned || a.status = lit "pinned" then return .skipPinned a
    if changedOnly then
      if !(← f.hasNewFiles a) then return .skipUnchanged a
    return .update a (← f.context m)

end Feature

/-- The plan for all eligible features. Of several articles on one topic the last one counts. -/
def planArticles (m : CodeMap) (categories : List Text) (articles : List Article)
    (changedOnly : Bool) : Except DataFault (List PlannedTopic) :=
  (eligibleFeatures m.features categories).mapM fun f => do
    let existing := articles.reverse.find? fun a => a.topic = f.id
    return ⟨f, ← f.decide m existing changedOnly⟩

/-- An article as the writer delivers it. -/
structure Draft where
  title : Text
  pages : List Text
  content : Text

/-- The id of a new article on a topic. -/
def newArticleId (topic : Text) (now : Moment) : Text :=
  lit "kb-" ++ Text.substitute '.' (lit "-") topic ++ lit "-" ++ Text.ofInt now.millis

/-- The article that a draft makes. It keeps the id and the last edit of the one it replaces; it
is in no advanced state and not pinned. -/
def PlannedTopic.article (p : PlannedTopic) (d : Draft) (m : CodeMap) (now : Moment) : Article :=
  let existing := p.decision.existing?
  { id := (existing.map (·.id)).getD (newArticleId p.feature.id now)
    topic := p.feature.id
    title := .str d.title
    pages := d.pages.map .str
    content := .str d.content
    sourceFiles := p.feature.sourceFiles.map .str
    codeVersion := m.info.scannedAt
    generatedAt := now.toText
    confidence := p.feature.confidence
    lastEditedAt := (existing.map (·.lastEditedAt)).getD .null
    lastEditedBy := (existing.map (·.lastEditedBy)).getD .null }

end HelpCenter

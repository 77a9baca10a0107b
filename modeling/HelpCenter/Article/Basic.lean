import HelpCenter.CodeMap.Record

/-!
# Articles and questions

The knowledge base holds the articles written for topics, the questions that no article answers,
and the last code map.
-/

namespace HelpCenter

/-- A help article. An edit can put any value in place of its title or content. -/
structure Article where
  id : Text
  topic : Text
  title : Json := .str []
  pages : List Json := []
  content : Json := .str []
  sourceFiles : List Json := []
  codeVersion : Text := []
  generatedAt : Text := []
  status : Text := lit "draft"
  confidence : Number := .double (.zero false)
  humanEdited : Bool := false
  pinned : Bool := false
  lastEditedAt : Json := .null
  lastEditedBy : Json := .null

/-- A question that users asked and no article answers. -/
structure Gap where
  id : Text
  question : Text
  askedAt : Text := []
  frequency : Int := 1
  status : Text := lit "pending"
  page : Json := .null
  assignee : Json := .null
  resolvedBy : Json := .null
  resolution : Json := .null
  suggestedTopic : Json := .null

/-- What a knowledge base says about itself. -/
structure KnowledgeInfo where
  name : Text := lit "My Product"
  version : Text := lit "1.0.0"
  lastScanAt : Json := .null
  lastGenerateAt : Json := .null

/-- Articles, questions and the code map of one project. -/
structure KnowledgeBase where
  articles : List Article := []
  gaps : List Gap := []
  codeMap : Option CodeMap := none
  info : KnowledgeInfo := {}

/-- The states of an article. -/
def Article.statuses : List Text := ["draft", "reviewed", "approved", "pinned"]

/-- The states of a question. -/
def Gap.statuses : List Text := ["pending", "in-progress", "resolved", "wont-fix"]

namespace Article

/-- The article as JSON. -/
def toJson (a : Article) : Json := .ofFields [
  ("id", .str a.id), ("topic", .str a.topic), ("title", a.title), ("pages", .arr a.pages),
  ("content", a.content), ("source_files", .arr a.sourceFiles),
  ("code_version", .str a.codeVersion), ("generated_at", .str a.generatedAt),
  ("status", .str a.status), ("confidence", a.confidence.toJson),
  ("human_edited", .bool a.humanEdited), ("pinned", .bool a.pinned),
  ("last_edited_at", a.lastEditedAt), ("last_edited_by", a.lastEditedBy)]

/-- Reads an article. -/
def ofJson (j : Json) : Except DataFault Article := do
  return { id := ← j.text "id"
           topic := ← j.text "topic"
           title := .str (← j.textOr "title" [])
           pages := ← j.list "pages"
           content := .str (← j.textOr "content" [])
           sourceFiles := ← j.list "source_files"
           codeVersion := ← j.textOr "code_version" []
           generatedAt := ← j.textOr "generated_at" []
           status := ← j.textOr "status" (lit "draft")
           confidence := .double (← j.doubleOrZero "confidence")
           humanEdited := ← j.flag "human_edited"
           pinned := ← j.flag "pinned"
           lastEditedAt := ← j.optional "last_edited_at"
           lastEditedBy := ← j.optional "last_edited_by" }

end Article

namespace Gap

/-- The question as JSON. -/
def toJson (g : Gap) : Json := .ofFields [
  ("id", .str g.id), ("question", .str g.question), ("asked_at", .str g.askedAt),
  ("frequency", .int g.frequency), ("status", .str g.status), ("page", g.page),
  ("assignee", g.assignee), ("resolved_by", g.resolvedBy), ("resolution", g.resolution),
  ("suggested_topic", g.suggestedTopic)]

/-- Reads a question. -/
def ofJson (j : Json) : Except DataFault Gap := do
  return { id := ← j.text "id"
           question := ← j.text "question"
           askedAt := ← j.textOr "asked_at" []
           frequency := ← j.integerOr "frequency" 1
           status := ← j.textOr "status" (lit "pending")
           page := ← j.optional "page"
           assignee := ← j.optional "assignee"
           resolvedBy := ← j.optional "resolved_by"
           resolution := ← j.optional "resolution"
           suggestedTopic := ← j.optional "suggested_topic" }

end Gap

/-- The information as JSON. -/
def KnowledgeInfo.toJson (i : KnowledgeInfo) : Json := .ofFields [
  ("name", .str i.name), ("version", .str i.version), ("last_scan_at", i.lastScanAt),
  ("last_generate_at", i.lastGenerateAt)]

end HelpCenter

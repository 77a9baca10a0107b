import HelpCenter.Store.Basic

/-!
# Articles in the store

Articles are looked up, edited and removed by id. An edit loads the knowledge base, changes the
first article of the id and saves everything.
-/

namespace HelpCenter

namespace Article

/-- The article in a state; it is pinned in the state of that name alone. -/
def inStatus (a : Article) (status : Text) : Article :=
  { a with status, pinned := status = lit "pinned" }

/-- The article pinned or not; one that is no longer pinned counts as reviewed. -/
def withPin (a : Article) (pinned : Bool) : Article :=
  let status :=
    if pinned then lit "pinned"
    else if a.status = lit "pinned" then lit "reviewed"
    else a.status
  { a with pinned, status }

/-- The article with one of its fields edited; other fields and null change nothing. -/
def editField (a : Article) (field : Text) (value : Json) : Except Failure Article :=
  match value with
  | .null => .ok a
  | _ =>
    if field = lit "title" then .ok { a with title := value }
    else if field = lit "content" then .ok { a with content := value }
    else if field = lit "pages" then
      match value.items with
      | .ok items => .ok { a with pages := items.map fun v => .str v.display }
      | .error fault => .error (.data fault)
    else if field = lit "status" then
      match value with
      | .str status =>
        if statuses.contains status then .ok { a with status }
        else .error (.unknownStatus status)
      | _ => .error (.unknownStatus value.display)
    else .ok a

/-- The article with fields edited in turn. -/
def editFields (a : Article) : List (Text × Json) → Except Failure Article
  | [] => .ok a
  | (field, value) :: rest => do editFields (← a.editField field value) rest

/-- Whether an edit gives a value for a field. -/
def gives (edit : List (Text × Json)) (field : String) : Bool :=
  match Json.member? (lit field) edit with
  | none | some .null => false
  | some _ => true

/-- The article after an edit by a person: a new state settles whether it is pinned, a new content
is remembered, and so are the time and, if known, the person. -/
def edited (a : Article) (edit : List (Text × Json)) (by_ : Option Text) (now : Moment) :
    Except Failure Article := do
  let a ← a.editFields edit
  return { a with
    pinned := if gives edit "status" then a.status = lit "pinned" else a.pinned
    humanEdited := a.humanEdited || gives edit "content"
    lastEditedAt := .str now.toText
    lastEditedBy :=
      match by_ with
      | some name => if name.isEmpty then a.lastEditedBy else .str name
      | none => a.lastEditedBy }

end Article

namespace KnowledgeBase

/-- The first article of an id. -/
def article? (k : KnowledgeBase) (id : Text) : Option Article := k.articles.find? (·.id = id)

/-- The articles with the first one of an id replaced. -/
def replaceArticle (id : Text) (a : Article) : List Article → List Article
  | [] => []
  | b :: rest => if b.id = id then a :: rest else b :: replaceArticle id a rest

/-- The knowledge base with the first article of an id replaced. -/
def withArticle (k : KnowledgeBase) (id : Text) (a : Article) : KnowledgeBase :=
  { k with articles := replaceArticle id a k.articles }

end KnowledgeBase

namespace Store

/-- Goes on with the first article of an id, or fails if there is none. -/
def findArticle (k : KnowledgeBase) (id : Text) : Action Article :=
  match k.article? id with
  | some a => return a
  | none => throw (.noDocument id)

/-- The article of an id. -/
def article (s : Store) (id : Text) : Action Article := do findArticle (← s.load) id

/-- Changes the article of an id and saves. -/
def changeArticle (s : Store) (id : Text) (change : Article → Moment → Except Failure Article) :
    Action Article := do
  let k ← s.load
  let a ← findArticle k id
  let a ← Action.ofExcept (change a (← Action.now))
  s.save (k.withArticle id a)
  return a

/-- Edits an article as a person does. -/
def edit (s : Store) (id : Text) (edit : List (Text × Json)) (by_ : Option Text) :
    Action Article :=
  s.changeArticle id fun a now => a.edited edit by_ now

/-- Puts an article in a state. -/
def setStatus (s : Store) (id status : Text) : Action Article := do
  if !Article.statuses.contains status then throw (.unknownStatus status)
  s.changeArticle id fun a _ => .ok (a.inStatus status)

/-- Pins an article or unpins it. -/
def setPinned (s : Store) (id : Text) (pinned : Bool) : Action Article :=
  s.changeArticle id fun a _ => .ok (a.withPin pinned)

/-- Removes a document, if it is there. -/
def removeDocument (file : FilePath) : Action Unit :=
  Action.onFileFault (.store ∘ .unremovable file.toText) (Action.removeFile (file.place []))

/-- Removes the articles of an id and the documents of the first one. -/
def delete (s : Store) (id : Text) : Action Unit := do
  let k ← s.load
  let a ← findArticle k id
  s.save { k with articles := k.articles.filter (·.id ≠ id) }
  removeDocument (s.markdownFile a)
  removeDocument (s.jsonFile id)

end Store

end HelpCenter

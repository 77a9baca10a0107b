import HelpCenter.Dashboard.Address
import HelpCenter.Dashboard.Body
import HelpCenter.Refresh.Basic

/-!
# Resources of the dashboard

A path names a resource, and each resource answers to some methods. With the method a resource
tells what is asked for; what is asked may depend on the query or on the body.
-/

namespace HelpCenter

/-- The methods that resources answer to. -/
inductive Method where
  | get
  | put
  | post
  | delete
deriving DecidableEq

/-- The method of a name. -/
def Method.ofName? (name : Text) : Option Method :=
  if name = lit "GET" then some .get
  else if name = lit "PUT" then some .put
  else if name = lit "POST" then some .post
  else if name = lit "DELETE" then some .delete
  else none

/-- What a path names. -/
inductive Resource where
  | health
  | documents
  | document (id : Text)
  | pinning (id : Text)
  | unpinning (id : Text)
  | regeneration
  | scan
  | gaps
deriving DecidableEq

/-- What a request asks for. -/
inductive Wish where
  | health
  | listDocuments (status : Option Text)
  | showDocument (id : Text)
  | editDocument (id : Text) (edit : List (Text × Json)) (by_ : Option Text)
  | deleteDocument (id : Text)
  | setPinned (id : Text) (pinned : Bool)
  | rewriteDocument (id : Text) (offline : Bool)
  | scan (options : RefreshOptions)
  | listGaps (status : Option Text)
  | addGap (question : Text) (page : Option Text)

namespace Resource

/-- The resource that the names of a path lead to. -/
def ofNames? : List Text → Option Resource
  | [a] =>
    if a = lit "health" then some .health
    else if a = lit "docs" then some .documents
    else if a = lit "regenerate" then some .regeneration
    else if a = lit "scan" then some .scan
    else if a = lit "gaps" then some .gaps
    else none
  | [a, id] => if a = lit "docs" && !id.isEmpty then some (.document id) else none
  | [a, id, b] =>
    if a = lit "docs" && !id.isEmpty then
      if b = lit "pin" then some (.pinning id)
      else if b = lit "unpin" then some (.unpinning id)
      else none
    else none
  | _ => none

/-- The resource of exactly a path. -/
def atPath? (path : Text) : Option Resource :=
  match Text.splitOn '/' path with
  | [] :: names => ofNames? names
  | _ => none

/-- The resource of a path; slashes at its end do not count where nothing else has the path. -/
def ofPath? (path : Text) : Option Resource :=
  match atPath? path with
  | some r => some r
  | none =>
    if Text.endsWith path (lit "/") then
      atPath? (path.reverse.dropWhile (CodePoint.is '/')).reverse
    else none

/-- Whether a resource answers to a method. -/
def answers : Resource → Method → Bool
  | .health, .get | .documents, .get => true
  | .document _, .get | .document _, .put | .document _, .delete => true
  | .pinning _, .post | .unpinning _, .post | .regeneration, .post | .scan, .post => true
  | .gaps, .get | .gaps, .post => true
  | _, _ => false

/-- Whether the project's store has to be opened before a request is looked at any further. -/
def needsStore : Resource → Bool
  | .health | .regeneration | .scan => false
  | .documents | .document _ | .pinning _ | .unpinning _ | .gaps => true

end Resource

/-! ## What bodies ask for -/

namespace Body

/-- The fields of an edit that have a value. -/
def editOf (title content : Option Text) (pages : Option (List Text)) (status : Option Text) :
    List (Text × Json) :=
  let field := fun name (v : Option Json) => (v.map fun v => (lit name, v)).toList
  field "title" (title.map .str) ++ field "content" (content.map .str) ++
    field "pages" (pages.map fun ps => .arr (ps.map .str)) ++ field "status" (status.map .str)

/-- An edit of a document. -/
def edit (id : Text) (body : Option Json) : Checked Wish := do
  let ms ← members body
  let (title, content, pages, status, by_) ← (text? "title" ms).and <|
    (text? "content" ms).and <| (texts? "pages" ms).and <| (text? "status" ms).and <|
    text? "edited_by" ms
  return .editDocument id (editOf title content pages status) by_

/-- A wish to have an article written again. -/
def rewriting (body : Option Json) : Checked Wish := do
  let ms ← members body
  let (id, offline) ← (text "id" ms).and (truth "mock" false ms)
  return .rewriteDocument id offline

/-- A wish to have the project scanned. -/
def scanning (body : Option Json) : Checked Wish := do
  let ms ← members body
  let (changedOnly, trial, write, offline) ← (truth "changed_only" false ms).and <|
    (truth "dry_run" false ms).and <| (truth "generate" true ms).and <| truth "mock" false ms
  return .scan { changedOnly, trial, write, offline }

/-- A question. -/
def question (body : Option Json) : Checked Wish := do
  let ms ← members body
  let (question, page) ← (text "question" ms).and (text? "page" ms)
  return .addGap question page

end Body

/-- What a request for a resource asks for, given a method that the resource answers to. -/
def Resource.wish (r : Resource) (m : Method) (a : Address) (body : Option Json) : Checked Wish :=
  match r, m with
  | .health, _ => .ok .health
  | .documents, _ => .ok (.listDocuments (a.value? "status"))
  | .document id, .put => Body.edit id body
  | .document id, .delete => .ok (.deleteDocument id)
  | .document id, _ => .ok (.showDocument id)
  | .pinning id, _ => .ok (.setPinned id true)
  | .unpinning id, _ => .ok (.setPinned id false)
  | .regeneration, _ => Body.rewriting body
  | .scan, _ => Body.scanning body
  | .gaps, .post => Body.question body
  | .gaps, _ => .ok (.listGaps (a.value? "status"))

end HelpCenter

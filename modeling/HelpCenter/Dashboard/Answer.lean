import HelpCenter.Dashboard.Resource
import HelpCenter.Refresh.Article
import HelpCenter.Store.Gaps

/-!
# Answers of the dashboard

The dashboard shows and edits the knowledge base of one project. A request is answered with a
status and a value; what goes wrong is told with a status that fits, and failures that no request
can bring about are passed on.
-/

namespace HelpCenter

/-- A request. -/
structure Request where
  method : Text
  address : Address
  body : Option Json := none

/-- An answer; one to a request for the head alone has no body. -/
structure Response where
  status : Nat := 200
  body : Option Json

namespace Json

mutual

/-- The value with null for numbers that are not finite. -/
def finite : Json → Json
  | .float x => if x.isFinite then .float x else .null
  | .arr items => .arr (finiteItems items)
  | .obj members => .obj (finiteMembers members)
  | v => v

/-- Items with null for numbers that are not finite. -/
def finiteItems : List Json → List Json
  | [] => []
  | item :: items => finite item :: finiteItems items

/-- Members with null for numbers that are not finite. -/
def finiteMembers : List (Text × Json) → List (Text × Json)
  | [] => []
  | (name, value) :: members => (name, finite value) :: finiteMembers members

end

end Json

namespace Response

/-- A good answer. -/
def ok (fields : List (String × Json)) : Response := ⟨200, some (Json.ofFields fields).finite⟩

/-- A good answer with a record. -/
def record (v : Json) : Response := ⟨200, some v.finite⟩

/-- An answer that tells what went wrong. -/
def wrong (status : Nat) (detail : Json) : Response :=
  ⟨status, some (.ofFields [("detail", detail)])⟩

/-- The answer to a body with faults. -/
def invalid (faults : List BodyFault) : Response :=
  wrong 422 (.arr (faults.map fun f =>
    .ofFields [("type", .str f.kind.name), ("loc", .arr f.way)]))

/-- The status that fits a failure, if there is one. -/
def statusOf? : Failure → Option Nat
  | .noDocument _ | .noGap _ => some 404
  | .pinned _ => some 409
  | .generation _ => some 502
  | .config _ => some 400
  | .unknownStatus _ | .unknownGapStatus _ | .emptyQuestion => some 400
  | .data .unreadable | .data (.notUtf8 _) | .data .notEncodable => some 400
  | .store _ => some 500
  | _ => none

end Response

/-- The dashboard of a project. -/
structure Dashboard where
  root : Place
  refresher : Refresher

namespace Dashboard

/-- The store of the project. -/
def store (d : Dashboard) : Action Store := do
  return .ofSettings (← Action.ofExcept (Settings.load (← Action.files) d.root))

/-- The answer about a scan. -/
def scanned (o : RefreshOutcome) : Response :=
  let count := fun f : BatchResult → Nat => Json.int ((o.result.map f).getD 0)
  .ok [
    ("files_scanned", .int o.codeMap.info.filesScanned),
    ("features", .int o.codeMap.features.length),
    ("generated", count (·.generated)), ("updated", count (·.updated)),
    ("skipped", count (·.skipped)), ("tokens_used", count (·.tokens)),
    ("failures", .arr (((o.result.map (·.failures)).getD []).map .str)),
    ("dry_run", .bool o.trial)]

/-- Does what a request asks for. -/
def grant (d : Dashboard) : Wish → Action Response
  | .health => return .ok [("status", .str (lit "ok"))]
  | .listDocuments status => do
    let k ← (← d.store).load
    let chosen := k.articles.filter fun a => status.all (a.status = ·)
    return .ok [("items", .arr (chosen.map Article.toJson))]
  | .showDocument id => do return .record (← (← d.store).article id).toJson
  | .editDocument id edit by_ => do return .record (← (← d.store).edit id edit by_).toJson
  | .deleteDocument id => do
    (← d.store).delete id
    return .ok [("status", .str (lit "deleted")), ("id", .str id)]
  | .setPinned id pinned => do return .record (← (← d.store).setPinned id pinned).toJson
  | .rewriteDocument id offline => do
    return .record (← d.refresher.rewriteArticle d.root id offline).toJson
  | .scan o => do return scanned (← d.refresher.run d.root o)
  | .listGaps status => do
    return .ok [("gaps", .arr ((← (← d.store).listGaps status).map Gap.toJson))]
  | .addGap question page => do
    return .record (← (← d.store).addGap question (Json.ofText? page)).toJson

/-- Answers a request for a resource that the method fits. -/
def answerFor (d : Dashboard) (r : Resource) (m : Method) (q : Request) : Action Response := do
  if r.needsStore then
    let _ ← d.store
  match r.wish m q.address q.body with
  | .error faults => return .invalid faults
  | .ok wish => d.grant wish

/-- Answers failures with the status that fits. -/
def orWrong (a : Action Response) : Action Response := do
  match ← a.attempt with
  | .ok response => return response
  | .error e =>
    match Response.statusOf? e with
    | some status => return .wrong status (.str e.text)
    | none => throw e

/-- Answers a request. -/
def answer (d : Dashboard) (q : Request) : Action Response :=
  match Resource.ofPath? q.address.path with
  | none => return .wrong 404 (.str (lit "Not Found"))
  | some r =>
    match (Method.ofName? q.method).filter r.answers with
    | none => return .wrong 405 (.str (lit "Method Not Allowed"))
    | some m => orWrong (d.answerFor r m q)

/-- Answers a request; one for the head alone is answered without a body. -/
def respond (d : Dashboard) (q : Request) : Action Response := do
  let response ← d.answer q
  return if q.method = lit "HEAD" then { response with body := none } else response

end Dashboard

end HelpCenter

import HelpCenter.Article.Basic
import HelpCenter.Proofs.Json.Fields
import HelpCenter.Proofs.Json.Normal

/-!
# What written records are read back as

An article that was written is read back unless its confidence is an integer beyond all doubles, and
`Article.readBack` is what it is read back as; a question is always read back (`Gap.readBack`).
-/

namespace HelpCenter

open Json

namespace Json

/-- What a text field is read as, empty where there is nothing. -/
def asText (v : Json) : Text := if v.isNothing then [] else v.display

theorem textOr_ofFields_asText {fields : List (String × Json)} {name : String} {v : Json}
    (h : fields.lookup name = some v) : (ofFields fields).textOr name [] = .ok v.asText := by
  rw [textOr, optional_ofFields h]
  rfl

end Json

namespace Article

/-- What a state is read back as. -/
def readStatus (status : Text) : Text :=
  if Text.joinPairs status = [] then lit "draft" else Text.joinPairs status

theorem readStatus_of_mem {status : Text} (h : status ∈ statuses) : readStatus status = status := by
  have hall : ∀ name ∈ statuses, readStatus name = name := by decide
  exact hall status h

/-- What an article is read back as, with the double that is read for its confidence. -/
def readBack (a : Article) (confidence : Binary64) : Article where
  id := Text.joinPairs a.id
  topic := Text.joinPairs a.topic
  title := .str a.title.normal.asText
  pages := a.pages.map normal
  content := .str a.content.normal.asText
  sourceFiles := a.sourceFiles.map normal
  codeVersion := Text.joinPairs a.codeVersion
  generatedAt := Text.joinPairs a.generatedAt
  status := readStatus a.status
  confidence := .double confidence
  humanEdited := a.humanEdited
  pinned := a.pinned
  lastEditedAt := a.lastEditedAt.normal
  lastEditedBy := a.lastEditedBy.normal

/-- The double that is read for the confidence of a written article. -/
def readConfidence (a : Article) : Except DataFault Binary64 :=
  if a.confidence.toJson.isNothing then .ok (.zero false) else a.confidence.toJson.toDouble

/-- A confidence that is a double can be read. -/
theorem exists_readConfidence {a : Article} {x : Binary64} (h : a.confidence = .double x) :
    ∃ y, a.readConfidence = .ok y := by
  unfold readConfidence
  rw [h]
  split
  · exact ⟨_, rfl⟩
  · exact ⟨x, rfl⟩

theorem normal_confidence (a : Article) : a.confidence.toJson.normal = a.confidence.toJson := by
  cases a.confidence <;> rfl

theorem ofJson_normal (a : Article) :
    Article.ofJson a.toJson.normal = a.readConfidence.map a.readBack := by
  have hconfidence (fields : List (String × Json)) {name : String}
      (h : fields.lookup name = some a.confidence.toJson) :
      (ofFields fields).doubleOrZero name = a.readConfidence := by
    rw [doubleOrZero, optional_ofFields h]
    rfl
  rw [toJson, normal_ofFields (by simp)]
  simp only [List.map_cons, List.map_nil, normal_arr, normal_confidence]
  unfold Article.ofJson
  refine Except.bind_ok (text_ofFields rfl) <| Except.bind_ok (text_ofFields rfl) <|
    Except.bind_ok (textOr_ofFields_asText rfl) <| Except.bind_ok (list_ofFields rfl) <|
    Except.bind_ok (textOr_ofFields_asText rfl) <| Except.bind_ok (list_ofFields rfl) <|
    Except.bind_ok (textOr_ofFields rfl fun _ => rfl) <|
    Except.bind_ok (textOr_ofFields rfl fun _ => rfl) <|
    Except.bind_ok (textOr_ofFields_default rfl) ?_
  rw [hconfidence _ rfl]
  cases a.readConfidence with
  | error e => rfl
  | ok x =>
      refine Except.bind_ok rfl <| Except.bind_ok (flag_ofFields rfl) <|
        Except.bind_ok (flag_ofFields rfl) <| Except.bind_ok (optional_ofFields rfl) <|
        Except.bind_ok (optional_ofFields rfl) rfl

theorem exists_readBack {a b : Article} (h : Article.ofJson a.toJson.normal = .ok b) :
    ∃ x, a.readConfidence = .ok x ∧ b = a.readBack x := by
  rw [ofJson_normal] at h
  cases hx : a.readConfidence with
  | error e => rw [hx] at h; cases h
  | ok x => rw [hx] at h; exact ⟨x, rfl, (Except.ok.inj h).symm⟩

end Article

namespace Gap

/-- What a question is read back as. -/
def readBack (g : Gap) : Gap where
  id := Text.joinPairs g.id
  question := Text.joinPairs g.question
  askedAt := Text.joinPairs g.askedAt
  frequency := if g.frequency = 0 then 1 else g.frequency
  status := if Text.joinPairs g.status = [] then lit "pending" else Text.joinPairs g.status
  page := g.page.normal
  assignee := g.assignee.normal
  resolvedBy := g.resolvedBy.normal
  resolution := g.resolution.normal
  suggestedTopic := g.suggestedTopic.normal

theorem ofJson_normal (g : Gap) : Gap.ofJson g.toJson.normal = .ok g.readBack := by
  rw [toJson, normal_ofFields (by simp)]
  exact Except.bind_ok (text_ofFields rfl) <| Except.bind_ok (text_ofFields rfl) <|
    Except.bind_ok (textOr_ofFields rfl fun _ => rfl) <|
    Except.bind_ok (integerOr_ofFields_default rfl) <|
    Except.bind_ok (textOr_ofFields_default rfl) <| Except.bind_ok (optional_ofFields rfl) <|
    Except.bind_ok (optional_ofFields rfl) <| Except.bind_ok (optional_ofFields rfl) <|
    Except.bind_ok (optional_ofFields rfl) <| Except.bind_ok (optional_ofFields rfl) rfl

end Gap

end HelpCenter

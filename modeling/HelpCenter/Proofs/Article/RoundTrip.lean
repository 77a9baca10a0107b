import HelpCenter.Article.Basic
import HelpCenter.Proofs.CodeMap.RoundTrip

/-!
# Reading back articles and questions
-/

namespace HelpCenter

open Json

/-- The fields have the declared types, and the state has a name. -/
structure Article.IsTyped (a : Article) : Prop where
  id : a.id.isEncodable = true
  topic : a.topic.isEncodable = true
  title : a.title.IsText
  pages : ∀ v ∈ a.pages, v.IsText
  content : a.content.IsText
  sourceFiles : ∀ v ∈ a.sourceFiles, v.IsText
  codeVersion : a.codeVersion.isEncodable = true
  generatedAt : a.generatedAt.isEncodable = true
  status : a.status.isEncodable = true
  status_ne_nil : a.status ≠ []
  confidence : a.confidence.IsMeasure
  lastEditedAt : a.lastEditedAt.IsTextOrNull
  lastEditedBy : a.lastEditedBy.IsTextOrNull

theorem Article.isNormal_toJson {a : Article} (h : a.IsTyped) : IsNormal a.toJson := by
  refine isNormal_ofFields (by simp) ?_
  simp only [List.forall_mem_cons]
  exact ⟨isNormal_str h.id, isNormal_str h.topic, h.title.isNormal,
    isNormal_arr fun v hv => (h.pages v hv).isNormal, h.content.isNormal,
    isNormal_arr fun v hv => (h.sourceFiles v hv).isNormal, isNormal_str h.codeVersion,
    isNormal_str h.generatedAt, isNormal_str h.status, h.confidence.isNormal, isNormal_bool _,
    isNormal_bool _, h.lastEditedAt.isNormal, h.lastEditedBy.isNormal, nofun⟩

/-- The title and the content are texts, the state has a name, and the confidence is a double. -/
structure Article.IsRead (a : Article) : Prop where
  title : ∃ t, a.title = .str t
  content : ∃ t, a.content = .str t
  status_ne_nil : a.status ≠ []
  confidence : ∃ x, a.confidence = .double x

/-- The article with a zero without a sign. -/
def Article.settled (a : Article) : Article := { a with confidence := a.confidence.plain }

/-- An article that was read is read back with a zero without a sign. -/
theorem Article.ofJson_toJson {a : Article} (h : a.IsRead) :
    Article.ofJson a.toJson = .ok a.settled := by
  obtain ⟨⟨title, ht⟩, ⟨content, hc⟩, hs, ⟨x, hx⟩⟩ := h
  cases a
  cases hx
  cases ht
  cases hc
  exact Except.bind_ok (text_ofFields rfl) <| Except.bind_ok (text_ofFields rfl) <|
    Except.bind_ok (textOr_ofFields rfl fun _ => rfl) <| Except.bind_ok (list_ofFields rfl) <|
    Except.bind_ok (textOr_ofFields rfl fun _ => rfl) <| Except.bind_ok (list_ofFields rfl) <|
    Except.bind_ok (textOr_ofFields rfl fun _ => rfl) <|
    Except.bind_ok (textOr_ofFields rfl fun _ => rfl) <|
    Except.bind_ok (textOr_ofFields rfl fun hk => absurd hk hs) <|
    Except.bind_ok (doubleOrZero_ofFields_plain rfl) <| Except.bind_ok (flag_ofFields rfl) <|
    Except.bind_ok (flag_ofFields rfl) <| Except.bind_ok (optional_ofFields rfl) <|
    Except.bind_ok (optional_ofFields rfl) rfl

theorem Article.settled_eq_iff {a : Article} :
    a.settled = a ↔ a.confidence ≠ .double (.zero true) := by
  cases a
  simp only [settled, mk.injEq, true_and, and_true, Number.plain_eq_iff]

theorem Article.settled_settled (a : Article) : a.settled.settled = a.settled := by
  simp only [settled, Number.plain_plain]

/-- An article is read back as it is. -/
theorem Article.IsTyped.ofJson_toJson {a : Article} (h : a.IsTyped) :
    Article.ofJson a.toJson = .ok a := by
  obtain ⟨x, hx, -, hz⟩ := h.confidence
  have hread : a.IsRead :=
    ⟨h.title.imp fun _ => And.left, h.content.imp fun _ => And.left, h.status_ne_nil, x, hx⟩
  have hsettled : a.settled = a :=
    settled_eq_iff.2 (by rw [hx]; exact fun heq => hz (Number.double.inj heq))
  rw [Article.ofJson_toJson hread, hsettled]

/-- The fields have the declared types, the state has a name, and the question was asked. -/
structure Gap.IsTyped (g : Gap) : Prop where
  id : g.id.isEncodable = true
  question : g.question.isEncodable = true
  askedAt : g.askedAt.isEncodable = true
  frequency : 1 ≤ g.frequency
  status : g.status.isEncodable = true
  status_ne_nil : g.status ≠ []
  page : g.page.IsTextOrNull
  assignee : g.assignee.IsTextOrNull
  resolvedBy : g.resolvedBy.IsTextOrNull
  resolution : g.resolution.IsTextOrNull
  suggestedTopic : g.suggestedTopic.IsTextOrNull

theorem Gap.isNormal_toJson {g : Gap} (h : g.IsTyped) : IsNormal g.toJson := by
  refine isNormal_ofFields (by simp) ?_
  simp only [List.forall_mem_cons]
  exact ⟨isNormal_str h.id, isNormal_str h.question, isNormal_str h.askedAt, isNormal_int _,
    isNormal_str h.status, h.page.isNormal, h.assignee.isNormal, h.resolvedBy.isNormal,
    h.resolution.isNormal, h.suggestedTopic.isNormal, nofun⟩

/-- The question with a count other than zero, in place of which one is read. -/
def Gap.settled (g : Gap) : Gap :=
  { g with frequency := if g.frequency = 0 then 1 else g.frequency }

/-- A question whose state has a name is read back with a count other than zero. -/
theorem Gap.ofJson_toJson {g : Gap} (h : g.status ≠ []) : Gap.ofJson g.toJson = .ok g.settled :=
  Except.bind_ok (text_ofFields rfl) <| Except.bind_ok (text_ofFields rfl) <|
    Except.bind_ok (textOr_ofFields rfl fun _ => rfl) <|
    Except.bind_ok (integerOr_ofFields_default rfl) <|
    Except.bind_ok (textOr_ofFields rfl fun hk => absurd hk h) <|
    Except.bind_ok (optional_ofFields rfl) <| Except.bind_ok (optional_ofFields rfl) <|
    Except.bind_ok (optional_ofFields rfl) <| Except.bind_ok (optional_ofFields rfl) <|
    Except.bind_ok (optional_ofFields rfl) rfl

theorem Gap.settled_eq_iff {g : Gap} : g.settled = g ↔ g.frequency ≠ 0 := by
  cases g with
  | mk id question askedAt frequency status page assignee resolvedBy resolution suggestedTopic =>
      by_cases h : frequency = 0 <;> simp [settled, h]

theorem Gap.settled_settled (g : Gap) : g.settled.settled = g.settled := by
  refine settled_eq_iff.2 ?_
  unfold settled
  split
  · exact Int.one_ne_zero
  · assumption

/-- A question is read back as it is. -/
theorem Gap.IsTyped.ofJson_toJson {g : Gap} (h : g.IsTyped) : Gap.ofJson g.toJson = .ok g := by
  have hsettled : g.settled = g := settled_eq_iff.2 (by have := h.frequency; omega)
  rw [Gap.ofJson_toJson h.status_ne_nil, hsettled]

/-- The fields have the declared types. -/
structure KnowledgeInfo.IsTyped (i : KnowledgeInfo) : Prop where
  name : i.name.isEncodable = true
  version : i.version.isEncodable = true
  lastScanAt : i.lastScanAt.IsTextOrNull
  lastGenerateAt : i.lastGenerateAt.IsTextOrNull

theorem KnowledgeInfo.isNormal_toJson {i : KnowledgeInfo} (h : i.IsTyped) : IsNormal i.toJson := by
  refine isNormal_ofFields (by simp) ?_
  simp only [List.forall_mem_cons]
  exact ⟨isNormal_str h.name, isNormal_str h.version, h.lastScanAt.isNormal,
    h.lastGenerateAt.isNormal, nofun⟩

end HelpCenter

import HelpCenter.CodeMap.Record
import HelpCenter.Proofs.Json.Normal

/-!
# Reading back code maps

A record whose fields have the declared types is its own normal form as JSON and is read back as it
is.  `IsTyped` also excludes the few values in place of which a reader puts its default: an empty
kind of a text, the line zero of evidence, and minus zero as a confidence.  The last two can come
from reading as well; `settled` says what they are read back as.
-/

namespace HelpCenter

open Json

/-! ## Routes and components -/

/-- The fields have the declared types. -/
structure Route.IsTyped (r : Route) : Prop where
  path : r.path.isEncodable = true
  sourceFile : r.sourceFile.isEncodable = true
  component : r.component.IsTextOrNull
  line : r.line.IsIntegerOrNull
  params : ∀ v ∈ r.params, v.IsText

theorem Route.isNormal_toJson {r : Route} (h : r.IsTyped) : IsNormal r.toJson := by
  refine isNormal_ofFields (by simp) ?_
  simp only [List.forall_mem_cons]
  exact ⟨isNormal_str h.path, isNormal_str h.sourceFile, h.component.isNormal, h.line.isNormal,
    isNormal_arr fun v hv => (h.params v hv).isNormal, nofun⟩

theorem Route.ofJson_toJson (r : Route) : Route.ofJson r.toJson = .ok r :=
  Except.bind_ok (text_ofFields rfl) <| Except.bind_ok (text_ofFields rfl) <|
    Except.bind_ok (optional_ofFields rfl) <| Except.bind_ok (optional_ofFields rfl) <|
    Except.bind_ok (list_ofFields rfl) rfl

/-- The fields have the declared types. -/
structure Component.IsTyped (c : Component) : Prop where
  name : c.name.isEncodable = true
  sourceFile : c.sourceFile.isEncodable = true
  propsType : c.propsType.IsTextOrNull
  children : ∀ v ∈ c.children, v.IsText

theorem Component.isNormal_toJson {c : Component} (h : c.IsTyped) : IsNormal c.toJson := by
  refine isNormal_ofFields (by simp) ?_
  simp only [List.forall_mem_cons]
  exact ⟨isNormal_str h.name, isNormal_str h.sourceFile, isNormal_int _, isNormal_bool _,
    h.propsType.isNormal, isNormal_arr fun v hv => (h.children v hv).isNormal, nofun⟩

theorem Component.ofJson_toJson (c : Component) : Component.ofJson c.toJson = .ok c :=
  Except.bind_ok (text_ofFields rfl) <| Except.bind_ok (text_ofFields rfl) <|
    Except.bind_ok (integerOr_ofFields rfl fun _ => rfl) <| Except.bind_ok (flag_ofFields rfl) <|
    Except.bind_ok (optional_ofFields rfl) <| Except.bind_ok (list_ofFields rfl) rfl

/-! ## Texts, pages and endpoints -/

/-- The fields have the declared types, and there is a kind. -/
structure UiText.IsTyped (s : UiText) : Prop where
  value : s.value.isEncodable = true
  sourceFile : s.sourceFile.isEncodable = true
  kind : s.kind.isEncodable = true
  kind_ne_nil : s.kind ≠ []
  component : s.component.IsTextOrNull

theorem UiText.isNormal_toJson {s : UiText} (h : s.IsTyped) : IsNormal s.toJson := by
  refine isNormal_ofFields (by simp) ?_
  simp only [List.forall_mem_cons]
  exact ⟨isNormal_str h.value, isNormal_str h.sourceFile, isNormal_int _, isNormal_str h.kind,
    h.component.isNormal, nofun⟩

theorem UiText.ofJson_toJson {s : UiText} (h : s.kind ≠ []) : UiText.ofJson s.toJson = .ok s :=
  Except.bind_ok (text_ofFields rfl) <| Except.bind_ok (text_ofFields rfl) <|
    Except.bind_ok (integerOr_ofFields rfl fun _ => rfl) <|
    Except.bind_ok (textOr_ofFields rfl fun hk => absurd hk h) <|
    Except.bind_ok (optional_ofFields rfl) rfl

/-- The fields have the declared types. -/
structure Page.IsTyped (p : Page) : Prop where
  path : p.path.isEncodable = true
  components : ∀ v ∈ p.components, v.IsText
  sourceFiles : ∀ v ∈ p.sourceFiles, v.IsText
  strings : ∀ s ∈ p.strings, s.IsTyped
  features : ∀ v ∈ p.features, v.IsText

theorem Page.isNormal_toJson {p : Page} (h : p.IsTyped) : IsNormal p.toJson := by
  refine isNormal_ofFields (by simp) ?_
  simp only [List.forall_mem_cons]
  exact ⟨isNormal_str h.path, isNormal_arr fun v hv => (h.components v hv).isNormal,
    isNormal_arr fun v hv => (h.sourceFiles v hv).isNormal,
    isNormal_arr (List.forall_mem_map.2 fun s hs => UiText.isNormal_toJson (h.strings s hs)),
    isNormal_arr fun v hv => (h.features v hv).isNormal, nofun⟩

theorem Page.ofJson_toJson {p : Page} (h : ∀ s ∈ p.strings, s.kind ≠ []) :
    Page.ofJson p.toJson = .ok p :=
  Except.bind_ok (text_ofFields rfl) <| Except.bind_ok (list_ofFields rfl) <|
    Except.bind_ok (list_ofFields rfl) <|
    Except.bind_ok (listOf_ofFields rfl fun s hs => UiText.ofJson_toJson (h s hs)) <|
    Except.bind_ok (list_ofFields rfl) rfl

/-- The fields have the declared types. -/
structure Endpoint.IsTyped (e : Endpoint) : Prop where
  method : e.method.isEncodable = true
  path : e.path.isEncodable = true
  sourceFile : e.sourceFile.isEncodable = true
  handler : e.handler.IsTextOrNull

theorem Endpoint.isNormal_toJson {e : Endpoint} (h : e.IsTyped) : IsNormal e.toJson := by
  refine isNormal_ofFields (by simp) ?_
  simp only [List.forall_mem_cons]
  exact ⟨isNormal_str h.method, isNormal_str h.path, isNormal_str h.sourceFile,
    h.handler.isNormal, nofun⟩

theorem Endpoint.ofJson_toJson (e : Endpoint) : Endpoint.ofJson e.toJson = .ok e :=
  Except.bind_ok (text_ofFields rfl) <| Except.bind_ok (text_ofFields rfl) <|
    Except.bind_ok (text_ofFields rfl) <| Except.bind_ok (optional_ofFields rfl) rfl

/-! ## Features -/

theorem map_eq_self_iff {α : Type} {g : α → α} {xs : List α} :
    xs.map g = xs ↔ ∀ x ∈ xs, g x = x := by
  have h : xs.map g = xs.map id ↔ ∀ x ∈ xs, g x = id x := List.map_inj_left
  rwa [List.map_id] at h

/-- A finite double other than minus zero. -/
def Number.IsMeasure (x : Number) : Prop :=
  ∃ d : Binary64, x = .double d ∧ d.isFinite = true ∧ d ≠ .zero true

theorem Number.IsMeasure.isNormal {x : Number} (h : x.IsMeasure) : IsNormal x.toJson := by
  obtain ⟨d, rfl, -⟩ := h
  exact isNormal_float d

/-- The fields have the declared types, and the line counts from one. -/
structure Evidence.IsTyped (e : Evidence) : Prop where
  pattern : e.pattern.isEncodable = true
  sourceFile : e.sourceFile.isEncodable = true
  line : 1 ≤ e.line

theorem Evidence.isNormal_toJson {e : Evidence} (h : e.IsTyped) : IsNormal e.toJson := by
  refine isNormal_ofFields (by simp) ?_
  simp only [List.forall_mem_cons]
  exact ⟨isNormal_str h.pattern, isNormal_str h.sourceFile, isNormal_int _, nofun⟩

/-- The evidence with a line other than zero, in place of which the first one is read. -/
def Evidence.settled (e : Evidence) : Evidence :=
  { e with line := if e.line = 0 then 1 else e.line }

theorem Evidence.ofJson_toJson (e : Evidence) : Evidence.ofJson e.toJson = .ok e.settled :=
  Except.bind_ok (text_ofFields rfl) <| Except.bind_ok (text_ofFields rfl) <|
    Except.bind_ok (integerOr_ofFields_default rfl) rfl

theorem Evidence.settled_eq_iff {e : Evidence} : e.settled = e ↔ e.line ≠ 0 := by
  obtain ⟨pattern, sourceFile, line⟩ := e
  by_cases h : line = 0 <;> simp [settled, h]

theorem Evidence.settled_settled (e : Evidence) : e.settled.settled = e.settled := by
  refine settled_eq_iff.2 ?_
  unfold settled
  split
  · exact Int.one_ne_zero
  · assumption

/-- The fields have the declared types. -/
structure Feature.IsTyped (f : Feature) : Prop where
  id : f.id.isEncodable = true
  confidence : f.confidence.IsMeasure
  evidence : ∀ e ∈ f.evidence, e.IsTyped

theorem Feature.isNormal_toJson {f : Feature} (h : f.IsTyped) : IsNormal f.toJson := by
  refine isNormal_ofFields (by simp) ?_
  simp only [List.forall_mem_cons]
  exact ⟨isNormal_str h.id, h.confidence.isNormal,
    isNormal_arr (List.forall_mem_map.2 fun e he => Evidence.isNormal_toJson (h.evidence e he)),
    nofun⟩

/-- The same number; zero has no sign. -/
def Number.plain : Number → Number
  | .int n => .int n
  | .double x => .double x.plain

theorem Number.plain_eq_iff {x : Number} : x.plain = x ↔ x ≠ .double (.zero true) := by
  cases x with
  | int n => simp [plain]
  | double x =>
      by_cases h : x = .zero true
      · subst h
        decide
      · simp [plain, Binary64.plain, h]

theorem Number.plain_plain (x : Number) : x.plain.plain = x.plain := by
  refine plain_eq_iff.2 ?_
  by_cases h : x = .double (.zero true)
  · subst h
    decide
  · rwa [plain_eq_iff.2 h]

/-- The feature with settled evidence and a zero without a sign. -/
def Feature.settled (f : Feature) : Feature :=
  { f with confidence := f.confidence.plain, evidence := f.evidence.map Evidence.settled }

theorem Feature.ofJson_toJson {f : Feature} (h : ∃ x, f.confidence = .double x) :
    Feature.ofJson f.toJson = .ok f.settled := by
  obtain ⟨id, confidence, evidence⟩ := f
  obtain ⟨x, hx⟩ := h
  obtain rfl : confidence = .double x := hx
  exact Except.bind_ok (text_ofFields rfl) <| Except.bind_ok (doubleOrZero_ofFields_plain rfl) <|
    Except.bind_ok (listOf_ofFields_map rfl fun e _ => Evidence.ofJson_toJson e) rfl

theorem Feature.settled_eq_iff {f : Feature} :
    f.settled = f ↔ f.confidence ≠ .double (.zero true) ∧ ∀ e ∈ f.evidence, e.line ≠ 0 := by
  obtain ⟨id, confidence, evidence⟩ := f
  simp only [settled, mk.injEq, true_and, Number.plain_eq_iff, map_eq_self_iff,
    Evidence.settled_eq_iff]

theorem Feature.settled_settled (f : Feature) : f.settled.settled = f.settled := by
  simp only [settled, Number.plain_plain, List.map_map, Function.comp_def,
    Evidence.settled_settled]

theorem Feature.IsTyped.settled_eq {f : Feature} (h : f.IsTyped) : f.settled = f := by
  obtain ⟨x, hx, -, hz⟩ := h.confidence
  refine settled_eq_iff.2 ⟨by rw [hx]; exact fun heq => hz (Number.double.inj heq), fun e he => ?_⟩
  have hline := (h.evidence e he).line
  omega

/-! ## Code maps -/

/-- The fields have the declared types. -/
structure ScanInfo.IsTyped (i : ScanInfo) : Prop where
  scannedAt : i.scannedAt.isEncodable = true
  framework : i.framework.IsTextOrNull

theorem ScanInfo.isNormal_toJson {i : ScanInfo} (h : i.IsTyped) : IsNormal i.toJson := by
  refine isNormal_ofFields (by simp) ?_
  simp only [List.forall_mem_cons]
  exact ⟨isNormal_str h.scannedAt, isNormal_int _, isNormal_int _, h.framework.isNormal,
    isNormal_int _, nofun⟩

theorem ScanInfo.ofJson_toJson (i : ScanInfo) : ScanInfo.ofJson i.toJson = .ok i :=
  Except.bind_ok (textOr_ofFields rfl fun _ => rfl) <|
    Except.bind_ok (integerOr_ofFields rfl fun _ => rfl) <|
    Except.bind_ok (integerOr_ofFields rfl fun _ => rfl) <|
    Except.bind_ok (optional_ofFields rfl) <|
    Except.bind_ok (integerOr_ofFields rfl fun _ => rfl) rfl

/-- All records in the code map have fields of the declared types. -/
structure CodeMap.IsTyped (m : CodeMap) : Prop where
  routes : ∀ r ∈ m.routes, r.IsTyped
  components : ∀ c ∈ m.components, c.IsTyped
  pages : ∀ p ∈ m.pages, p.IsTyped
  strings : ∀ s ∈ m.strings, s.IsTyped
  endpoints : ∀ e ∈ m.endpoints, e.IsTyped
  features : ∀ f ∈ m.features, f.IsTyped
  info : m.info.IsTyped

theorem CodeMap.isNormal_toJson {m : CodeMap} (h : m.IsTyped) : IsNormal m.toJson := by
  refine isNormal_ofFields (by simp) ?_
  simp only [List.forall_mem_cons]
  exact ⟨isNormal_arr (List.forall_mem_map.2 fun r hr => Route.isNormal_toJson (h.routes r hr)),
    isNormal_arr (List.forall_mem_map.2 fun c hc => Component.isNormal_toJson (h.components c hc)),
    isNormal_arr (List.forall_mem_map.2 fun p hp => Page.isNormal_toJson (h.pages p hp)),
    isNormal_arr (List.forall_mem_map.2 fun s hs => UiText.isNormal_toJson (h.strings s hs)),
    isNormal_arr (List.forall_mem_map.2 fun e he => Endpoint.isNormal_toJson (h.endpoints e he)),
    isNormal_arr (List.forall_mem_map.2 fun f hf => Feature.isNormal_toJson (h.features f hf)),
    ScanInfo.isNormal_toJson h.info, nofun⟩

/-- The texts have kinds, and the confidences are doubles. -/
structure CodeMap.IsRead (m : CodeMap) : Prop where
  pages : ∀ p ∈ m.pages, ∀ s ∈ p.strings, s.kind ≠ []
  strings : ∀ s ∈ m.strings, s.kind ≠ []
  features : ∀ f ∈ m.features, ∃ x, f.confidence = .double x

/-- The code map with settled features. -/
def CodeMap.settled (m : CodeMap) : CodeMap :=
  { m with features := m.features.map Feature.settled }

/-- A code map that was read is read back with settled features. -/
theorem CodeMap.ofJson_toJson {m : CodeMap} (h : m.IsRead) :
    CodeMap.ofJson m.toJson = .ok m.settled :=
  Except.bind_ok (listOf_ofFields rfl fun r _ => Route.ofJson_toJson r) <|
    Except.bind_ok (listOf_ofFields rfl fun c _ => Component.ofJson_toJson c) <|
    Except.bind_ok (listOf_ofFields rfl fun p hp => Page.ofJson_toJson (h.pages p hp)) <|
    Except.bind_ok (listOf_ofFields rfl fun s hs => UiText.ofJson_toJson (h.strings s hs)) <|
    Except.bind_ok (listOf_ofFields rfl fun e _ => Endpoint.ofJson_toJson e) <|
    Except.bind_ok (listOf_ofFields_map rfl fun f hf => Feature.ofJson_toJson (h.features f hf)) <|
    Except.bind_ok (optional_ofFields rfl) <| Except.bind_ok (ScanInfo.ofJson_toJson m.info) rfl

theorem CodeMap.settled_eq_iff {m : CodeMap} : m.settled = m ↔ ∀ f ∈ m.features, f.settled = f := by
  obtain ⟨routes, components, pages, strings, endpoints, features, info⟩ := m
  simp only [settled, mk.injEq, true_and, and_true, map_eq_self_iff]

theorem CodeMap.settled_settled (m : CodeMap) : m.settled.settled = m.settled := by
  simp only [settled, List.map_map, Function.comp_def, Feature.settled_settled]

theorem CodeMap.IsTyped.isRead {m : CodeMap} (h : m.IsTyped) : m.IsRead where
  pages p hp s hs := ((h.pages p hp).strings s hs).kind_ne_nil
  strings s hs := (h.strings s hs).kind_ne_nil
  features f hf := (h.features f hf).confidence.imp fun _ => And.left

/-- A code map is read back as it is. -/
theorem CodeMap.IsTyped.ofJson_toJson {m : CodeMap} (h : m.IsTyped) :
    CodeMap.ofJson m.toJson = .ok m := by
  rw [CodeMap.ofJson_toJson h.isRead, settled_eq_iff.2 fun f hf => (h.features f hf).settled_eq]

end HelpCenter

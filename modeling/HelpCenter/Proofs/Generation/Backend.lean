import HelpCenter.Generation.Backend
import HelpCenter.Proofs.Except
import HelpCenter.Proofs.Text.Trim

/-!
# Keys of backends

The key of a service is settled when its backend is chosen.  It is the text in the settings or the
value of a variable, and a variable that is not set is a fault of the configuration.  What is not
looked at is whether the key says anything: a text of blanks is trimmed to an empty key, and the
value of a variable may be blank.  These are the only ways in which a service that needs a key goes
without one (`Backend.findsKey_iff`), except that a variable's name may be one that no environment
can hold, and then the reading of the environment itself fails.
-/

namespace HelpCenter

open Text Except

/-! ## Variables -/

namespace Environment

variable {env : Environment} {name value : Text}

theorem value?_of_nameBytes? (h : nameBytes? name = none) :
    env.value? name = .error (.data .notEncodable) := by
  rw [value?, h]

theorem exists_value? (env : Environment) (h : nameBytes? name ≠ none) :
    ∃ found, env.value? name = .ok found := by
  obtain ⟨bytes, hbytes⟩ := Option.ne_none_iff_exists'.1 h
  rw [value?, hbytes]
  exact ⟨_, rfl⟩

theorem ne_nil_of_value? (h : env.value? name = .ok (some value)) : value ≠ [] := by
  unfold value? at h
  split at h
  · exact absurd h nofun
  · have hsome := (Option.filter_eq_some_iff.1 (Except.ok.inj h)).2
    rintro rfl
    exact absurd hsome nofun

end Environment

/-! ## What a service is set up with -/

namespace Service

theorem apiKey_writer {service : Service} (h : service ≠ .ollama) (o : ServiceOptions) :
    (service.writer o).apiKey = o.apiKey := by
  cases service with
  | ollama => exact absurd rfl h
  | anthropic | openai | google => rfl

theorem service_writer (service : Service) (o : ServiceOptions) :
    (service.writer o).service = service := by
  cases service <;> rfl

end Service

/-! ## The key in the settings -/

namespace ModelSettings

variable {s : ModelSettings} {env : Environment} {name key : Text}

/-- Settings of a service that is not asked without a key. -/
def NeedsKey (s : ModelSettings) : Prop :=
  s.provider = lit "anthropic" ∨ s.provider = lit "google" ∨
    s.provider = lit "openai" ∧ s.baseUrl.getD [] = []

/-- The text that is configured as a key; an empty one counts as none. -/
def writtenKey? (s : ModelSettings) : Option Text := s.apiKey.filter fun key => !key.isEmpty

/-- The variable in which the key is looked for, unless it is written in the settings. -/
def lookedUp? (s : ModelSettings) : Option Text :=
  match s.writtenKey? with
  | some key => referredVariable? (trim key)
  | none => keyVariable? s.provider

/-- The ways to a key that says nothing, or to none at all without a word about the
configuration. -/
inductive MissesKey (s : ModelSettings) (env : Environment) : Prop
  /-- The written key is blank. -/
  | blankKey {key : Text} (h : s.writtenKey? = some key) (hblank : isBlank key = true)
  /-- The key is in a variable that no environment has a name for. -/
  | noName {name : Text} (h : s.lookedUp? = some name)
      (hname : Environment.nameBytes? name = none)
  /-- The key is in a variable that holds blanks. -/
  | blankValue {name value : Text} (h : s.lookedUp? = some name)
      (hvalue : env.value? name = .ok (some value)) (hblank : isBlank value = true)

/-- The key is settled when the backend is chosen: either the configuration is refused, or the
service has a key that is not blank. -/
def FindsKey (s : ModelSettings) (env : Environment) : Prop :=
  (∃ fault, Backend.ofSettings s env = .error (.config fault)) ∨
  ∃ w key, Backend.ofSettings s env = .ok (.service w) ∧ w.apiKey = some key ∧
    isBlank key = false

/-! ## Reading the key -/

theorem lookedUp?_of_isBlank (h : s.writtenKey? = some key) (hblank : isBlank key = true) :
    s.lookedUp? = none := by
  rw [lookedUp?, h]
  show referredVariable? (trim key) = none
  rw [trim_of_isBlank hblank]
  rfl

/-- A key that needs no variable is the trimmed text. -/
theorem key_of_lookedUp?_eq_none (h : s.writtenKey? = some key) (hnone : s.lookedUp? = none) :
    s.key env = .ok (some (trim key)) := by
  rw [lookedUp?, h] at hnone
  unfold ModelSettings.key
  rw [show s.apiKey.filter _ = _ from h]
  simp only [configuredKey, show referredVariable? (trim key) = none from hnone]
  rfl

theorem NeedsKey.exists_keyVariable? (h : s.NeedsKey) :
    ∃ name, keyVariable? s.provider = some name := by
  rcases h with h | h | ⟨h, -⟩
  all_goals
    rw [h]
    exact ⟨_, rfl⟩

theorem NeedsKey.exists_writtenKey? (h : s.NeedsKey) (hnone : s.lookedUp? = none) :
    ∃ key, s.writtenKey? = some key := by
  cases hwritten : s.writtenKey? with
  | some key => exact ⟨key, rfl⟩
  | none =>
      obtain ⟨name, hname⟩ := h.exists_keyVariable?
      rw [lookedUp?, hwritten] at hnone
      exact absurd (hname.symm.trans hnone) nofun

theorem NeedsKey.isOpen_eq_false (h : s.NeedsKey) :
    (decide (s.provider = lit "openai") && !(s.baseUrl.getD []).isEmpty) = false := by
  rcases h with h | h | ⟨-, h⟩
  · rw [h]
    rfl
  · rw [h]
    rfl
  · rw [h]
    exact Bool.and_false _

/-- A key in a variable is the variable's value, and a variable that is not set is a fault of the
configuration. -/
theorem key_of_lookedUp? (h : s.NeedsKey) (hname : s.lookedUp? = some name)
    (env : Environment) :
    ∃ fault, s.key env = env.value? name >>= fun
      | some value => .ok (some value)
      | none => .error (.config fault) := by
  unfold ModelSettings.key
  -- The variable is named by the written key or by the service, and only the fault tells which.
  cases hwritten : s.writtenKey? with
  | some key =>
      rw [lookedUp?, hwritten] at hname
      rw [show s.apiKey.filter _ = _ from hwritten]
      refine ⟨.variableNotSet name, ?_⟩
      simp only [configuredKey, show referredVariable? (trim key) = some name from hname]
      cases env.value? name with
      | error e => rfl
      | ok found => cases found <;> rfl
  | none =>
      rw [lookedUp?, hwritten] at hname
      rw [show s.apiKey.filter _ = _ from hwritten]
      refine ⟨.noApiKey name, ?_⟩
      simp only [show keyVariable? s.provider = some name from hname]
      refine bind_congr fun found => ?_
      cases found with
      | some value => rfl
      | none =>
          simp only [h.isOpen_eq_false]
          rfl

/-! ## Keys that say nothing -/

theorem missesKey_iff_of_lookedUp?_eq_none (h : s.writtenKey? = some key)
    (hnone : s.lookedUp? = none) : s.MissesKey env ↔ isBlank key = true := by
  refine ⟨fun hmisses => ?_, .blankKey h⟩
  cases hmisses with
  | blankKey hkey hblank => exact Option.some.inj (h.symm.trans hkey) ▸ hblank
  | noName hname _ => exact absurd (hnone.symm.trans hname) nofun
  | blankValue hname _ _ => exact absurd (hnone.symm.trans hname) nofun

theorem missesKey_iff_of_lookedUp? (h : s.lookedUp? = some name) : s.MissesKey env ↔
    Environment.nameBytes? name = none ∨
      ∃ value, env.value? name = .ok (some value) ∧ isBlank value = true := by
  constructor
  · intro hmisses
    cases hmisses with
    | blankKey hkey hblank =>
        exact absurd ((lookedUp?_of_isBlank hkey hblank).symm.trans h) nofun
    | noName hname hbytes => exact .inl (Option.some.inj (h.symm.trans hname) ▸ hbytes)
    | blankValue hname hvalue hblank =>
        exact .inr ⟨_, Option.some.inj (h.symm.trans hname) ▸ hvalue, hblank⟩
  · rintro (hbytes | ⟨value, hvalue, hblank⟩)
    · exact .noName h hbytes
    · exact .blankValue h hvalue hblank

/-- What is read as a key is settled: there is none, which the configuration is told, or one that is
not blank. -/
def IsSettled (x : Except Failure (Option Text)) : Prop :=
  (∃ fault, x = .error (.config fault)) ∨ ∃ key, x = .ok (some key) ∧ isBlank key = false

theorem isSettled_ok_iff : IsSettled (.ok (some key)) ↔ ¬ isBlank key = true := by
  rw [Bool.not_eq_true]
  constructor
  · rintro (⟨fault, hfault⟩ | ⟨key', hkey, hblank⟩)
    · exact absurd hfault nofun
    · exact Option.some.inj (Except.ok.inj hkey) ▸ hblank
  · exact fun hblank => .inr ⟨key, rfl, hblank⟩

theorem isSettled_key_iff (h : s.NeedsKey) (env : Environment) :
    IsSettled (s.key env) ↔ ¬ s.MissesKey env := by
  cases hname : s.lookedUp? with
  | none =>
      obtain ⟨key, hwritten⟩ := h.exists_writtenKey? hname
      rw [missesKey_iff_of_lookedUp?_eq_none hwritten hname,
        key_of_lookedUp?_eq_none hwritten hname, isSettled_ok_iff, isBlank_trim_eq]
  | some name =>
      obtain ⟨fault, hkey⟩ := key_of_lookedUp? h hname env
      rw [missesKey_iff_of_lookedUp? hname, hkey]
      by_cases hbytes : Environment.nameBytes? name = none
      · rw [Environment.value?_of_nameBytes? hbytes]
        refine iff_of_false ?_ fun hsettled => hsettled (.inl hbytes)
        rintro (⟨fault, hfault⟩ | ⟨key, hkey, -⟩)
        · exact absurd hfault nofun
        · exact absurd hkey nofun
      · obtain ⟨found, hfound⟩ := env.exists_value? hbytes
        rw [hfound, or_iff_right hbytes]
        -- A value is taken as it is, without a look at what it says.
        cases found with
        | none => exact iff_of_true (.inl ⟨fault, rfl⟩) nofun
        | some value =>
            refine isSettled_ok_iff.trans (not_congr ⟨fun hblank => ⟨value, rfl, hblank⟩, ?_⟩)
            rintro ⟨value', hvalue, hblank⟩
            exact Option.some.inj (Except.ok.inj hvalue) ▸ hblank

/-- What is read as a key is empty just if the key in the settings is blank. -/
theorem getD_key_eq_nil_iff (h : s.NeedsKey) {found : Option Text}
    (hfound : s.key env = .ok found) :
    found.getD [] = [] ↔ ∃ key, s.writtenKey? = some key ∧ isBlank key = true := by
  cases hname : s.lookedUp? with
  | none =>
      obtain ⟨key, hwritten⟩ := h.exists_writtenKey? hname
      rw [key_of_lookedUp?_eq_none hwritten hname] at hfound
      obtain rfl := Except.ok.inj hfound
      constructor
      · intro htrim
        refine ⟨key, hwritten, ?_⟩
        rw [← isBlank_trim_eq, show trim key = [] from htrim]
        rfl
      · rintro ⟨key', hkey, hblank⟩
        obtain rfl := Option.some.inj (hwritten.symm.trans hkey)
        exact trim_of_isBlank hblank
  | some name =>
      obtain ⟨fault, hkey⟩ := key_of_lookedUp? h hname env
      obtain ⟨value?, hvalue, hread⟩ := bind_eq_ok_iff.1 (hkey ▸ hfound)
      cases value? with
      | none => exact absurd hread nofun
      | some value =>
          obtain rfl := Except.ok.inj hread
          refine iff_of_false (Environment.ne_nil_of_value? hvalue) ?_
          rintro ⟨key, hwritten, hblank⟩
          exact absurd ((lookedUp?_of_isBlank hwritten hblank).symm.trans hname) nofun

/-! ## Choosing the backend -/

theorem NeedsKey.exists_service (h : s.NeedsKey) : ∃ service : Service,
    Service.ofName? s.provider = some service ∧ s.provider ≠ lit "mock" ∧
      s.provider ≠ lit "ollama" ∧ service ≠ .ollama ∧
      (service = .anthropic ∨ service = .google ↔ s.provider ≠ lit "openai") := by
  rcases h with h | h | ⟨h, -⟩
  all_goals
    rw [h]
    exact ⟨_, rfl, by decide, by decide, by decide, by decide⟩

/-- What the settings tell a service, with the key that was read. -/
def optionsWith (s : ModelSettings) (key : Option Text) : ServiceOptions where
  model := s.model
  apiKey := key
  baseUrl := s.baseUrl
  maxTokens := some s.maxTokens
  temperature := s.temperature
  timeout := some s.requestTimeout

theorem NeedsKey.ofSettings_eq (h : s.NeedsKey) (env : Environment) :
    ∃ service : Service, service ≠ .ollama ∧
      (service = .anthropic ∨ service = .google ↔ s.provider ≠ lit "openai") ∧
      Backend.ofSettings s env =
        (s.key env).map fun key => .service (service.writer (s.optionsWith key)) := by
  obtain ⟨service, hservice, hnotMock, hnotOllama, hollama, hopen⟩ := h.exists_service
  refine ⟨service, hollama, hopen, ?_⟩
  rw [Backend.ofSettings, if_neg hnotMock, if_neg hnotOllama]
  cases s.key env with
  | error e => rfl
  | ok key =>
      simp only [hservice]
      rfl

theorem findsKey_iff_isSettled (h : s.NeedsKey) : s.FindsKey env ↔ IsSettled (s.key env) := by
  obtain ⟨service, hollama, -, heq⟩ := h.ofSettings_eq env
  rw [FindsKey, IsSettled, heq]
  cases s.key env with
  | error e =>
      refine or_congr ⟨?_, ?_⟩ ⟨?_, ?_⟩
      · exact fun ⟨fault, hfault⟩ => ⟨fault, congrArg Except.error (Except.error.inj hfault)⟩
      · exact fun ⟨fault, hfault⟩ => ⟨fault, congrArg Except.error (Except.error.inj hfault)⟩
      · exact fun ⟨_, _, hok, _⟩ => absurd hok nofun
      · exact fun ⟨_, hok, _⟩ => absurd hok nofun
  | ok found =>
      refine or_congr ⟨?_, ?_⟩ ⟨?_, ?_⟩
      · exact fun ⟨_, hfault⟩ => absurd hfault nofun
      · exact fun ⟨_, hfault⟩ => absurd hfault nofun
      · rintro ⟨w, key, hw, hkey, hblank⟩
        obtain rfl := Backend.service.inj (Except.ok.inj hw)
        rw [Service.apiKey_writer hollama] at hkey
        exact ⟨key, congrArg Except.ok hkey, hblank⟩
      · rintro ⟨key, hkey, hblank⟩
        exact ⟨_, key, rfl, (Service.apiKey_writer hollama _).trans (Except.ok.inj hkey), hblank⟩

end ModelSettings

/-! ## Questions without a key -/

theorem Url.quotePath_eq_error {t : Text} {e : Failure} (h : quotePath t = .error e) :
    e = .data .notEncodable := by
  unfold quotePath at h
  split at h
  · exact absurd h nofun
  · exact (Except.error.inj h).symm

namespace Inquiry

variable {q : Inquiry} {e : Failure}

theorem post_eq_error {url : Text} {headers : List (Text × Text)} {body : List (String × Json)}
    (h : q.post url headers body = .error e) : e = .data .unreadable := by
  unfold post at h
  dsimp only at h
  split at h
  · exact absurd h nofun
  · exact (Except.error.inj h).symm

theorem timeoutText_eq_error (q : Inquiry) (h : q.timeoutText = .error e) :
    e = .data .unreadable := by
  unfold timeoutText at h
  split at h
  · split at h
    · exact absurd h nofun
    · exact (Except.error.inj h).symm
  · exact absurd h nofun

theorem neededKey_of_getD_eq_nil (h : q.apiKey.getD [] = []) (service : Service) :
    q.neededKey service = .error (.generation (.noApiKey service.label)) := by
  unfold neededKey
  split
  · next hkey => exact absurd (hkey ▸ h) nofun
  · rfl

theorem neededKey_of_getD_ne_nil (h : q.apiKey.getD [] ≠ []) (service : Service) :
    q.neededKey service = .ok (q.apiKey.getD []) := by
  unfold neededKey
  split
  · next hkey =>
    rw [hkey]
    rfl
  · next hkey =>
    refine absurd ?_ h
    cases hfound : q.apiKey with
    | none => rfl
    | some key =>
        cases key with
        | nil => rfl
        | cons c key => exact absurd hfound (hkey c key)

/-- A question that begins with the key comes to nothing without one, and what else becomes of it
says nothing of the key. -/
theorem neededKey_bind_eq_noApiKey_iff {service : Service} {label : Text}
    {ask : Text → Except Failure Call}
    (h : ∀ key, ask key ≠ .error (.generation (.noApiKey label))) :
    q.neededKey service >>= ask = .error (.generation (.noApiKey label)) ↔
      label = service.label ∧ q.apiKey.getD [] = [] := by
  by_cases hkey : q.apiKey.getD [] = []
  · rw [neededKey_of_getD_eq_nil hkey, and_iff_left hkey]
    constructor
    · intro hfault
      exact (GenerationFault.noApiKey.inj (Failure.generation.inj (Except.error.inj hfault))).symm
    · rintro rfl
      rfl
  · rw [neededKey_of_getD_ne_nil hkey]
    exact iff_of_false (h _) fun h => hkey h.2

/-- A question cannot be asked for want of a key just if its service insists on one. -/
theorem call_eq_noApiKey_iff (q : Inquiry) (service : Service) (label : Text) :
    q.call service = .error (.generation (.noApiKey label)) ↔
      label = service.label ∧ (service = .anthropic ∨ service = .google) ∧
        q.apiKey.getD [] = [] := by
  cases service with
  | anthropic =>
      refine (neededKey_bind_eq_noApiKey_iff fun key h => ?_).trans (by simp)
      exact absurd (post_eq_error h) nofun
  | google =>
      refine (neededKey_bind_eq_noApiKey_iff fun key h => ?_).trans (by simp)
      rcases bind_eq_error_iff.1 h with h | ⟨model, -, h⟩
      · exact absurd (Url.quotePath_eq_error h) nofun
      · exact absurd (post_eq_error h) nofun
  | openai =>
      refine iff_of_false (fun h => ?_) (by simp)
      by_cases hbase : (q.baseUrl.getD []).isEmpty = true
      · rw [call, if_pos hbase] at h
        exact absurd (Failure.generation.inj (Except.error.inj h)) nofun
      · rw [call, if_neg hbase] at h
        exact absurd (post_eq_error h) nofun
  | ollama => exact iff_of_false nofun (by simp)

end Inquiry

namespace Service

variable {service : Service} {e : Failure}

theorem object_eq_error {bytes : Bytes} (h : service.object bytes = .error e) :
    e = .data .unreadable ∨ e = .generation (.unexpectedPayload service.label) ∨
      e = .generation (.invalidJson service.label) := by
  unfold object at h
  split at h
  · exact absurd h nofun
  · exact .inr (.inl (Except.error.inj h).symm)
  · exact .inl (Except.error.inj h).symm
  · exact .inr (.inr (Except.error.inj h).symm)
  · exact .inr (.inr (Except.error.inj h).symm)

theorem neededText_eq_error {t : Text} (h : service.neededText t = .error e) :
    e = .generation (.emptyResponse service.label) := by
  unfold neededText at h
  split at h
  · exact (Except.error.inj h).symm
  · exact absurd h nofun

/-- No reply says that a key is wanting. -/
theorem text_ne_noApiKey (service : Service) (q : Inquiry) (reply : ServiceReply)
    (label : Text) : service.text q reply ≠ .error (.generation (.noApiKey label)) := by
  intro h
  cases reply with
  | body bytes =>
      rcases bind_eq_error_iff.1 h with h | ⟨reply, -, h⟩
      · rcases object_eq_error h with h | h | h <;> exact absurd h nofun
      · exact absurd (neededText_eq_error h) nofun
  | output t => exact absurd (neededText_eq_error h) nofun
  | timedOut =>
      rcases bind_eq_error_iff.1 h with h | ⟨seconds, -, h⟩
      · exact absurd (q.timeoutText_eq_error h) nofun
      · have hfault := Failure.generation.inj (Except.error.inj h)
        split at hfault <;> exact absurd hfault nofun
  | status | unreachable | noProgram | exited =>
      exact absurd (Failure.generation.inj (Except.error.inj h)) nofun

end Service

namespace Backend

/-- A prompt is refused for want of a key just if its service insists on one and has none. -/
theorem author_eq_noApiKey_iff (w : Writer) (send : Call → ServiceReply) (limit : Option Int)
    (prompt label : Text) :
    (Backend.service w).author send limit prompt = .error (.generation (.noApiKey label)) ↔
      label = w.service.label ∧ (w.service = .anthropic ∨ w.service = .google) ∧
        w.apiKey.getD [] = [] := by
  have hcall := (w.inquiry prompt limit).call_eq_noApiKey_iff w.service label
  have hkey (h : w.service = .anthropic ∨ w.service = .google) :
      (w.inquiry prompt limit).apiKey = w.apiKey := by
    rcases h with h | h <;> rw [Writer.inquiry, h]
  refine Iff.trans ⟨fun h => ?_, fun h => ?_⟩ (hcall.trans
    (and_congr_right fun _ => and_congr_right fun hservice => by rw [hkey hservice]))
  · rcases bind_eq_error_iff.1 h with h | ⟨call, -, h⟩
    · exact h
    · exact absurd h (Service.text_ne_noApiKey _ _ _ _)
  · exact bind_eq_error_iff.2 (.inl h)

/-- The key of a service that needs one is settled when the backend is chosen, unless the settings
lead to a key that says nothing or to a variable that no environment can hold.  Later on a prompt is
refused for want of a key just if the key in the settings is blank and the service is not the one
that can do without. -/
theorem findsKey_iff {s : ModelSettings} (h : s.NeedsKey) (env : Environment) :
    (s.FindsKey env ↔ ¬ s.MissesKey env) ∧
    ∀ w, ofSettings s env = .ok (.service w) → ∀ send limit prompt,
      ((∃ label, (service w).author send limit prompt = .error (.generation (.noApiKey label))) ↔
        s.provider ≠ lit "openai" ∧ ∃ key, s.writtenKey? = some key ∧ isBlank key = true) := by
  refine ⟨(ModelSettings.findsKey_iff_isSettled h).trans (ModelSettings.isSettled_key_iff h env),
    fun w hw send limit prompt => ?_⟩
  obtain ⟨protocol, hollama, hopen, heq⟩ := h.ofSettings_eq env
  rw [heq] at hw
  cases hkey : s.key env with
  | error e =>
      rw [hkey] at hw
      exact absurd hw nofun
  | ok found =>
      rw [hkey] at hw
      obtain rfl := Backend.service.inj (Except.ok.inj hw)
      simp only [author_eq_noApiKey_iff, exists_eq_left, Service.service_writer,
        Service.apiKey_writer hollama]
      exact and_congr hopen (ModelSettings.getD_key_eq_nil_iff h hkey)

/-- Settings that refer to a variable for the key. -/
def referringSettings : ModelSettings := { apiKey := some (lit " $\x7bDOCS_KEY\x7d ") }

theorem not_missesKey_referringSettings :
    ¬ referringSettings.MissesKey [(lit "DOCS_KEY", lit "k-1")] := by
  have hname : referringSettings.lookedUp? = some (lit "DOCS_KEY") := by decide
  have hvalue : Environment.value? [(lit "DOCS_KEY", lit "k-1")] (lit "DOCS_KEY") =
      .ok (some (lit "k-1")) := by decide
  rw [ModelSettings.missesKey_iff_of_lookedUp? hname, hvalue]
  rintro (hbytes | ⟨value, hvalue, hblank⟩)
  · exact absurd hbytes (by decide)
  · obtain rfl := Option.some.inj (Except.ok.inj hvalue)
    exact absurd hblank (by decide)

theorem findsKey_iff_referringSettings : referringSettings.NeedsKey ∧
    referringSettings.FindsKey [(lit "DOCS_KEY", lit "k-1")] := by
  have h : referringSettings.NeedsKey := .inl rfl
  exact ⟨h, (findsKey_iff h _).1.2 not_missesKey_referringSettings⟩

/-- Settings whose key is blank. -/
def blankSettings : ModelSettings := { apiKey := some (lit "   ") }

theorem missesKey_blankSettings : blankSettings.MissesKey [] :=
  .blankKey (show blankSettings.writtenKey? = some (lit "   ") by decide) (by decide)

theorem apiKey_blankSettings : ∃ w, ofSettings blankSettings [] = .ok (.service w) ∧
    w.service = .anthropic ∧ w.apiKey = some [] :=
  ⟨_, rfl, rfl, rfl⟩

/-- A blank key is trimmed to an empty one, with which every prompt fails. -/
theorem not_findsKey_blankSettings :
    (¬ ∀ (s : ModelSettings) (env : Environment), s.NeedsKey → s.FindsKey env) ∧
    ∃ w, ofSettings blankSettings [] = .ok (.service w) ∧
      ∀ send limit prompt, (service w).author send limit prompt =
        .error (.generation (.noApiKey (lit "Anthropic"))) := by
  have hneeds : blankSettings.NeedsKey := .inl rfl
  obtain ⟨w, hw, hservice, hkey⟩ := apiKey_blankSettings
  refine ⟨fun h => ?_, w, hw, fun send limit prompt => ?_⟩
  · have hsettled := (ModelSettings.findsKey_iff_isSettled hneeds).1 (h blankSettings [] hneeds)
    exact (ModelSettings.isSettled_key_iff hneeds []).1 hsettled missesKey_blankSettings
  · rw [author_eq_noApiKey_iff, hservice, hkey]
    exact ⟨rfl, .inl rfl, rfl⟩

end Backend

end HelpCenter

import HelpCenter.Proofs.Article.RoundTrip

/-!
# Reading a record again

A record that was read is written and read back as it is, but for two members (`settles_records`).
Where nothing is given the line of evidence and the count of a question are one; a value that only
becomes zero when it is read, as a fraction or a text can, is taken as it is and replaced by one the
next time.  The minus of a zero is lost in the same way.  After that nothing changes any more.
-/

namespace HelpCenter

open Json

/-! ## What is not empty in a record that was read -/

theorem NumberLayout.render_ne_nil (layout : NumberLayout) (d : Decimal) : layout.render d ≠ [] := by
  have hdigits := Text.ofNat_ne_nil d.normalize.digits
  have htake (n : ℕ) : (Text.ofNat d.normalize.digits).take (n + 1) ≠ [] := by
    rw [Ne, List.take_eq_nil_iff, not_or]
    exact ⟨Nat.succ_ne_zero n, hdigits⟩
  unfold render
  dsimp only
  split
  · split
    · refine List.append_ne_nil_of_left_ne_nil ?_ _
      exact List.append_ne_nil_of_left_ne_nil (List.cons_ne_nil _ _) _
    · refine List.append_ne_nil_of_left_ne_nil ?_ _
      exact List.append_ne_nil_of_left_ne_nil (htake _) _
  · refine List.append_ne_nil_of_left_ne_nil (List.append_ne_nil_of_left_ne_nil ?_ _) _
    exact List.append_ne_nil_of_left_ne_nil (htake 0) _

theorem Binary64.toText_ne_nil (x : Binary64) : x.toText ≠ [] := by
  cases x with
  | nan => exact List.cons_ne_nil _ _
  | infinite neg => exact List.append_ne_nil_of_right_ne_nil _ (List.cons_ne_nil _ _)
  | finite neg m e h =>
      show (if (finite neg m e h).isZero then _ ++ lit "0.0" else _) ≠ []
      split
      · exact List.append_ne_nil_of_right_ne_nil _ (List.cons_ne_nil _ _)
      · exact List.append_ne_nil_of_right_ne_nil _ (NumberLayout.render_ne_nil _ _)

namespace Json

variable {v : Json} {name : String}

/-- Only what stands for nothing can have an empty display text. -/
theorem display_ne_nil (h : v.isNothing = false) : v.display ≠ [] := by
  cases v with
  | null => cases h
  | bool b => cases b <;> exact List.cons_ne_nil _ _
  | int n =>
      show Text.ofInt n ≠ []
      unfold Text.ofInt
      split
      · exact List.cons_ne_nil _ _
      · exact Text.ofNat_ne_nil _
  | float x => exact Binary64.toText_ne_nil x
  | str t => simpa [isNothing, display] using h
  | arr items => exact List.cons_ne_nil _ _
  | obj members => exact List.cons_ne_nil _ _

theorem textOr_ne_nil {default t : Text} (h : v.textOr name default = .ok t)
    (hdefault : default ≠ []) : t ≠ [] := by
  obtain ⟨w, -, h⟩ := Except.bind_eq_ok_iff.1 h
  obtain rfl := Except.ok.inj h
  split
  · exact hdefault
  · next hsome => exact display_ne_nil (by simpa using hsome)

theorem exists_of_mem_listOf {α : Type} {read : Json → Except DataFault α} {xs : List α}
    (h : v.listOf name read = .ok xs) {x : α} (hx : x ∈ xs) : ∃ item, read item = .ok x := by
  obtain ⟨items, -, h⟩ := Except.bind_eq_ok_iff.1 h
  obtain ⟨item, -, hitem⟩ := (Except.mapM_eq_ok_iff.1 h).exists_of_mem_right hx
  exact ⟨item, hitem⟩

end Json

variable {v : Json}

theorem UiText.kind_ne_nil {s : UiText} (h : UiText.ofJson v = .ok s) : s.kind ≠ [] := by
  iterate 3 obtain ⟨_, -, h⟩ := Except.bind_eq_ok_iff.1 h
  obtain ⟨kind, hkind, h⟩ := Except.bind_eq_ok_iff.1 h
  obtain ⟨_, -, h⟩ := Except.bind_eq_ok_iff.1 h
  obtain rfl := Except.ok.inj h
  exact textOr_ne_nil hkind (List.cons_ne_nil _ _)

theorem Page.kind_ne_nil {p : Page} (h : Page.ofJson v = .ok p) : ∀ s ∈ p.strings, s.kind ≠ [] := by
  iterate 3 obtain ⟨_, -, h⟩ := Except.bind_eq_ok_iff.1 h
  obtain ⟨strings, hstrings, h⟩ := Except.bind_eq_ok_iff.1 h
  obtain ⟨_, -, h⟩ := Except.bind_eq_ok_iff.1 h
  obtain rfl := Except.ok.inj h
  intro s hs
  obtain ⟨item, hitem⟩ := exists_of_mem_listOf hstrings hs
  exact UiText.kind_ne_nil hitem

theorem Feature.exists_confidence {f : Feature} (h : Feature.ofJson v = .ok f) :
    ∃ x, f.confidence = .double x := by
  obtain ⟨_, -, h⟩ := Except.bind_eq_ok_iff.1 h
  obtain ⟨x, -, h⟩ := Except.bind_eq_ok_iff.1 h
  obtain ⟨_, -, h⟩ := Except.bind_eq_ok_iff.1 h
  obtain rfl := Except.ok.inj h
  exact ⟨x, rfl⟩

theorem CodeMap.isRead_of_ofJson {m : CodeMap} (h : CodeMap.ofJson v = .ok m) : m.IsRead := by
  iterate 2 obtain ⟨_, -, h⟩ := Except.bind_eq_ok_iff.1 h
  obtain ⟨pages, hpages, h⟩ := Except.bind_eq_ok_iff.1 h
  obtain ⟨strings, hstrings, h⟩ := Except.bind_eq_ok_iff.1 h
  obtain ⟨_, -, h⟩ := Except.bind_eq_ok_iff.1 h
  obtain ⟨features, hfeatures, h⟩ := Except.bind_eq_ok_iff.1 h
  iterate 2 obtain ⟨_, -, h⟩ := Except.bind_eq_ok_iff.1 h
  obtain rfl := Except.ok.inj h
  refine ⟨fun p hp => ?_, fun s hs => ?_, fun f hf => ?_⟩
  · obtain ⟨item, hitem⟩ := exists_of_mem_listOf hpages hp
    exact Page.kind_ne_nil hitem
  · obtain ⟨item, hitem⟩ := exists_of_mem_listOf hstrings hs
    exact UiText.kind_ne_nil hitem
  · obtain ⟨item, hitem⟩ := exists_of_mem_listOf hfeatures hf
    exact Feature.exists_confidence hitem

theorem Article.isRead_of_ofJson {a : Article} (h : Article.ofJson v = .ok a) : a.IsRead := by
  iterate 2 obtain ⟨_, -, h⟩ := Except.bind_eq_ok_iff.1 h
  obtain ⟨title, -, h⟩ := Except.bind_eq_ok_iff.1 h
  obtain ⟨_, -, h⟩ := Except.bind_eq_ok_iff.1 h
  obtain ⟨content, -, h⟩ := Except.bind_eq_ok_iff.1 h
  iterate 3 obtain ⟨_, -, h⟩ := Except.bind_eq_ok_iff.1 h
  obtain ⟨status, hstatus, h⟩ := Except.bind_eq_ok_iff.1 h
  obtain ⟨x, -, h⟩ := Except.bind_eq_ok_iff.1 h
  iterate 4 obtain ⟨_, -, h⟩ := Except.bind_eq_ok_iff.1 h
  obtain rfl := Except.ok.inj h
  exact ⟨⟨title, rfl⟩, ⟨content, rfl⟩, textOr_ne_nil hstatus (List.cons_ne_nil _ _), x, rfl⟩

theorem Gap.status_ne_nil {g : Gap} (h : Gap.ofJson v = .ok g) : g.status ≠ [] := by
  iterate 4 obtain ⟨_, -, h⟩ := Except.bind_eq_ok_iff.1 h
  obtain ⟨status, hstatus, h⟩ := Except.bind_eq_ok_iff.1 h
  iterate 5 obtain ⟨_, -, h⟩ := Except.bind_eq_ok_iff.1 h
  obtain rfl := Except.ok.inj h
  exact textOr_ne_nil hstatus (List.cons_ne_nil _ _)

/-! ## Reading again -/

/-- A record that was read from a value is written and read back as what settling makes of it,
which then stays as it is.  `IsSettled` says when it was so from the start. -/
def Settles {α : Type} (read : Json → Except DataFault α) (write : α → Json) (settled : α → α)
    (IsSettled : α → Prop) (v : Json) : Prop :=
  ∀ x, read v = .ok x → read (write x) = .ok (settled x) ∧
    read (write (settled x)) = .ok (settled x) ∧ (settled x = x ↔ IsSettled x)

section Rules

variable {α : Type} {read : Json → Except DataFault α} {write : α → Json} {settled : α → α}
  {IsSettled P : α → Prop}

theorem settles_of_reads (h : ∀ v x, read v = .ok x → read (write x) = .ok x) (v : Json) :
    Settles read write id (fun _ => True) v :=
  fun x hx => ⟨h v x hx, h v x hx, iff_of_true rfl trivial⟩

theorem settles_of_settled (h : ∀ v x, read v = .ok x → read (write x) = .ok (settled x))
    (htwice : ∀ x, settled (settled x) = settled x) (hiff : ∀ x, settled x = x ↔ IsSettled x)
    (v : Json) : Settles read write settled IsSettled v := by
  intro x hx
  have hread := h v x hx
  refine ⟨hread, ?_, hiff x⟩
  have hagain := h _ _ hread
  rwa [htwice] at hagain

end Rules

/-- Whatever a record is read from, it is written and read back as it is, unless the line of
evidence or the count of a question was read as zero, which is one the next time, or a confidence as
minus zero, which loses its sign.  What is read the second time stays as it is. -/
theorem settles_records (v : Json) :
    Settles Route.ofJson Route.toJson id (fun _ => True) v ∧
    Settles Component.ofJson Component.toJson id (fun _ => True) v ∧
    Settles UiText.ofJson UiText.toJson id (fun _ => True) v ∧
    Settles Evidence.ofJson Evidence.toJson Evidence.settled (fun e => e.line ≠ 0) v ∧
    Settles Feature.ofJson Feature.toJson Feature.settled
      (fun f => f.confidence ≠ .double (.zero true) ∧ ∀ e ∈ f.evidence, e.line ≠ 0) v ∧
    Settles Page.ofJson Page.toJson id (fun _ => True) v ∧
    Settles Endpoint.ofJson Endpoint.toJson id (fun _ => True) v ∧
    Settles ScanInfo.ofJson ScanInfo.toJson id (fun _ => True) v ∧
    Settles CodeMap.ofJson CodeMap.toJson CodeMap.settled (fun m => ∀ f ∈ m.features,
      f.confidence ≠ .double (.zero true) ∧ ∀ e ∈ f.evidence, e.line ≠ 0) v ∧
    Settles Article.ofJson Article.toJson Article.settled
      (fun a => a.confidence ≠ .double (.zero true)) v ∧
    Settles Gap.ofJson Gap.toJson Gap.settled (fun g => g.frequency ≠ 0) v := by
  refine ⟨?route, ?component, ?text, ?evidence, ?feature, ?page, ?endpoint, ?info, ?map, ?article,
    ?gap⟩
  case route => exact settles_of_reads (fun _ r _ => r.ofJson_toJson) v
  case component => exact settles_of_reads (fun _ c _ => c.ofJson_toJson) v
  case text =>
    exact settles_of_reads (fun _ _ hs => UiText.ofJson_toJson (UiText.kind_ne_nil hs)) v
  case evidence =>
    exact settles_of_settled (fun _ e _ => e.ofJson_toJson) Evidence.settled_settled
      (fun _ => Evidence.settled_eq_iff) v
  case feature =>
    exact settles_of_settled (fun _ _ hf => Feature.ofJson_toJson (Feature.exists_confidence hf))
      Feature.settled_settled (fun _ => Feature.settled_eq_iff) v
  case page => exact settles_of_reads (fun _ _ hp => Page.ofJson_toJson (Page.kind_ne_nil hp)) v
  case endpoint => exact settles_of_reads (fun _ e _ => e.ofJson_toJson) v
  case info => exact settles_of_reads (fun _ i _ => i.ofJson_toJson) v
  case map =>
    refine settles_of_settled (fun _ _ hm => CodeMap.ofJson_toJson (CodeMap.isRead_of_ofJson hm))
      CodeMap.settled_settled (fun m => ?_) v
    simp only [CodeMap.settled_eq_iff, Feature.settled_eq_iff]
  case article =>
    exact settles_of_settled (fun _ _ ha => Article.ofJson_toJson (Article.isRead_of_ofJson ha))
      Article.settled_settled (fun _ => Article.settled_eq_iff) v
  case gap =>
    exact settles_of_settled (fun _ _ hg => Gap.ofJson_toJson (Gap.status_ne_nil hg))
      Gap.settled_settled (fun _ => Gap.settled_eq_iff) v

/-- A question with a double as its count. -/
def gapAsked (x : Binary64) : Json := .ofFields [
  ("id", .str (lit "g1")), ("question", .str (lit "How?")), ("frequency", .float x)]

/-- A question that was asked half a time. -/
def halfGap : Json := gapAsked (.ofRatio false 1 2)

/-- A fraction is cut off when it is read. -/
theorem exists_gapAsked {x : Binary64} (hsome : x.isZero = false) (hcut : x.truncate? = some 0) :
    ∃ g, Gap.ofJson (gapAsked x) = .ok g ∧ g.frequency = 0 := by
  have hinteger : (Json.float x).toInteger = .ok 0 := by
    cases x with
    | finite neg m e h => exact congrArg Except.ok (Option.some.inj hcut)
    | _ => cases hcut
  have hfrequency : (gapAsked x).integerOr "frequency" 1 = .ok 0 := by
    rw [integerOr, gapAsked, optional_ofFields rfl, Except.ok_bind]
    exact (if_neg (by simp [isNothing, hsome])).trans hinteger
  refine ⟨⟨lit "g1", lit "How?", [], 0, lit "pending", .null, .null, .null, .null, .null⟩, ?_, rfl⟩
  unfold Gap.ofJson
  rw [hfrequency]
  rfl

theorem exists_halfGap : ∃ g, Gap.ofJson halfGap = .ok g ∧ g.frequency = 0 :=
  exists_gapAsked (by decide +kernel) (by decide +kernel)

theorem settles_records_halfGap : ∃ g, Gap.ofJson halfGap = .ok g ∧
    Gap.ofJson g.toJson = .ok g.settled ∧ Gap.ofJson g.settled.toJson = .ok g.settled := by
  obtain ⟨g, hg, -⟩ := exists_halfGap
  obtain ⟨-, -, -, -, -, -, -, -, -, -, hgap⟩ := settles_records halfGap
  obtain ⟨hread, hagain, -⟩ := hgap g hg
  exact ⟨g, hg, hread, hagain⟩

/-- The question was asked no times when it is read, and once when it is read again. -/
theorem not_settled_halfGap : ∃ g g', Gap.ofJson halfGap = .ok g ∧ g.frequency = 0 ∧
    Gap.ofJson g.toJson = .ok g' ∧ g'.frequency = 1 ∧ g' ≠ g := by
  obtain ⟨g, hg, hzero⟩ := exists_halfGap
  have hone : g.settled.frequency = 1 := if_pos hzero
  refine ⟨g, g.settled, hg, hzero, Gap.ofJson_toJson (Gap.status_ne_nil hg), hone, fun heq => ?_⟩
  rw [heq, hzero] at hone
  cases hone

end HelpCenter

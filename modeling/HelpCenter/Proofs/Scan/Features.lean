import HelpCenter.Proofs.CodeMap.Merge
import HelpCenter.Proofs.Topic.Catalog
import HelpCenter.Proofs.Workspace.Action
import HelpCenter.Scan.Project

/-!
# Features of a scan

A scan finds one feature for each topic at most, and only topics of the catalog (`quiet_scan`).
-/

namespace HelpCenter

/-! ## Joining features -/

/-- The feature is on a topic of the catalog and its confidence is a double. -/
structure Feature.IsKnown (c : Catalog) (f : Feature) : Prop where
  topic : ∃ t ∈ c, t.id = f.id
  confidence : ∃ x, f.confidence = .double x

variable {c : Catalog} {features : List Feature}

theorem Feature.IsKnown.joinTo {f : Feature} (hf : f.IsKnown c) (h : ∀ g ∈ features, g.IsKnown c) :
    ∀ g ∈ f.joinTo features, g.IsKnown c := by
  induction features with
  | nil => simpa [Feature.joinTo] using hf
  | cons g rest ih =>
      obtain ⟨hg, hrest⟩ := List.forall_mem_cons.1 h
      unfold Feature.joinTo
      split
      · refine List.forall_mem_cons.2 ⟨⟨hg.topic, ?_⟩, hrest⟩
        obtain ⟨x, hx⟩ := hg.confidence
        obtain ⟨y, hy⟩ := hf.confidence
        dsimp only
        rw [hx, hy, Number.max]
        split
        · exact ⟨y, rfl⟩
        · exact ⟨x, rfl⟩
      · exact List.forall_mem_cons.2 ⟨hg, ih hrest⟩

theorem isKnown_mergeFeatures (h : ∀ f ∈ features, f.IsKnown c) :
    ∀ f ∈ mergeFeatures features, f.IsKnown c := by
  have aux : ∀ (features merged : List Feature), (∀ f ∈ features, f.IsKnown c) →
      (∀ f ∈ merged, f.IsKnown c) →
      ∀ f ∈ features.foldl (fun merged f => f.joinTo merged) merged, f.IsKnown c := by
    intro features
    induction features with
    | nil => exact fun _ _ h => h
    | cons f features ih =>
        intro merged hf hm
        obtain ⟨hf, hfeatures⟩ := List.forall_mem_cons.1 hf
        exact ih _ hfeatures (hf.joinTo hm)
  exact aux features [] h nofun

/-! ## Detection -/

theorem Topic.exists_boosted (x : Binary64) (count : ℕ) :
    ∃ y, boosted (.double x) count = .double y := by
  unfold boosted
  generalize boostCounts.filter (· ≤ count) = counts
  induction counts generalizing x with
  | nil => exact ⟨x, rfl⟩
  | cons _ counts ih =>
      obtain ⟨z, hz⟩ : ∃ z, boost (.double x) = .double z := ⟨_, rfl⟩
      rw [List.foldl_cons, hz]
      exact ih z

theorem isKnown_detectFeatures (h : c.IsMeasured) (path text : Text) :
    ∀ f ∈ detectFeatures c path text, f.IsKnown c := by
  intro f hf
  obtain ⟨t, ht, hf⟩ := List.mem_filterMap.1 hf
  dsimp only at hf
  split at hf
  · cases hf
  · obtain rfl := Option.some.inj hf
    obtain ⟨x, hx⟩ := h t ht
    exact ⟨⟨t, ht, rfl⟩, by rw [hx]; exact Topic.exists_boosted _ _⟩

/-! ## Scanning -/

/-- The features have different topics, which the catalog has. -/
structure CodeMap.IsScanOf (c : Catalog) (m : CodeMap) : Prop where
  nodup : (m.features.map Feature.id).Nodup
  known : ∀ f ∈ m.features, f.IsKnown c

namespace Scanner

variable {s : Scanner} {t : FileTree} {now : Moment}

open HelpCenter.Action

theorem quiet_findings? (hs : s.catalog.IsMeasured) (root : Place) (framework : Option Text)
    (path : Text) : Quiet t now (s.findings? root framework path) fun found =>
      ∀ x, found = some x → ∀ f ∈ x.features, f.IsKnown s.catalog := by
  unfold findings?
  refine quiet_files.bind fun files _ => ?_
  split
  · exact (quiet_log _).bind fun _ _ => quiet_pure nofun
  · next u _ =>
    refine Quiet.ite_bind (quiet_log _) ?_
    split
    · next found hfound =>
      refine quiet_pure fun x hx f hf => ?_
      obtain rfl := Option.some.inj hx
      obtain ⟨routes, -, h⟩ := Except.bind_eq_ok_iff.1 hfound
      obtain ⟨strings, -, h⟩ := Except.bind_eq_ok_iff.1 h
      obtain ⟨endpoints, -, h⟩ := Except.bind_eq_ok_iff.1 h
      obtain rfl := Except.ok.inj h
      exact isKnown_detectFeatures hs _ _ f hf
    · exact (quiet_log _).bind fun _ _ => quiet_pure nofun

theorem isScanOf_codeMapOf {found : List Findings} (info : ScanInfo)
    (h : ∀ x ∈ found, ∀ f ∈ x.features, f.IsKnown c) : (codeMapOf found info).IsScanOf c where
  nodup := mergeFeatures_nodup _
  known := isKnown_mergeFeatures fun f hf => by
    obtain ⟨x, hx, hf⟩ := List.mem_flatMap.1 hf
    exact h x hx f hf

theorem quiet_scan (hs : s.catalog.IsMeasured) (target : Place) (shown : Text)
    (settings : ScanSettings) :
    Quiet t now (s.scan target shown settings) (CodeMap.IsScanOf s.catalog) := by
  unfold scan
  refine quiet_files.bind fun files _ => ?_
  refine Quiet.ite_bind (quiet_throw _) <| Quiet.ite_bind (quiet_throw _) ?_
  refine (quiet_ofExcept _).bind fun sources _ => (quiet_log _).bind fun _ _ =>
    (quiet_ofExcept _).bind fun _ _ => ?_
  -- the rest is the same for every framework
  have rest (framework : Option Text) : Quiet t now (do
      let scanned ← sources.mapM (s.findings? (files.resolve target) framework)
      let found := scanned.filterMap id
      let failed := scanned.length - found.length
      if failed ≠ 0 then
        log .warning (lit "Skipped " ++ Text.ofNat failed ++ lit " of " ++
          Text.ofNat sources.length ++ lit " files that could not be parsed")
      let m := codeMapOf found {
        scannedAt := (← Action.now).toText
        filesScanned := sources.length
        framework := Json.ofText? framework
        filesFailed := failed }
      log .info (summary m)
      return m) (CodeMap.IsScanOf s.catalog) := by
    refine (Quiet.mapM (quiet_findings? hs _ framework) sources).bind fun scanned hscanned => ?_
    refine Quiet.ite_bind (quiet_log _) ?_
    refine quiet_now.bind fun _ _ => (quiet_log _).bind fun _ _ => quiet_pure ?_
    refine isScanOf_codeMapOf _ fun x hx => ?_
    obtain ⟨o, ho, rfl⟩ := List.mem_filterMap.1 hx
    exact hscanned _ ho x rfl
  split
  · exact (quiet_ofExcept _).bind fun framework _ => rest framework
  · exact rest _

end Scanner

end HelpCenter

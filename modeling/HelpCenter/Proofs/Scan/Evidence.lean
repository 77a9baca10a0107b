import HelpCenter.Proofs.CodeMap.Pages
import HelpCenter.Proofs.Scan.Project
import HelpCenter.Proofs.Topic.Detection

/-!
# Evidence of a scan

A source gives evidence of a topic if a pattern of the topic matches in its path or matches something
in its text, however often.  Whatever is left out of a long list of evidence and however features are
merged, no source is lost on the way: the source files of a feature are just those of the scanned
sources that give evidence of its topic, in order (`mem_sourceFiles_iff`).  So an article is planned
to be written again just if there is evidence in a source that it was not written from
(`updates_of_scan`).
-/

namespace HelpCenter

/-- The source gives evidence of a topic: one of the topic's patterns matches in the path, or
matches something in the text. -/
def SourceUnit.Evinces (u : SourceUnit) (c : Catalog) (id : Text) : Prop :=
  ∃ t ∈ c, t.id = id ∧ ∃ p ∈ t.patterns,
    p.matchesIn u.path = true ∨ ∃ found ∈ p.allMatches u.text.toArray, found.1 ≠ found.2

instance (u : SourceUnit) (c : Catalog) (id : Text) : Decidable (u.Evinces c id) := by
  unfold SourceUnit.Evinces; infer_instance

/-! ## Evidence in one source -/

variable {c : Catalog} {id : Text}

theorem exists_detectFeatures_iff {u : SourceUnit} :
    (∃ f ∈ detectFeatures c u.path u.text, f.id = id) ↔ u.Evinces c id := by
  simp only [mem_detectFeatures_iff, Topic.evidenceIn_ne_nil_iff]
  constructor
  · rintro ⟨f, ⟨t, ht, hp, rfl⟩, rfl⟩
    exact ⟨t, ht, rfl, hp⟩
  · rintro ⟨t, ht, rfl, hp⟩
    exact ⟨_, ⟨t, ht, hp, rfl⟩, rfl⟩

/-! ## Evidence in all sources -/

/-- The files of the evidence on a topic. -/
def Feature.filesOn (id : Text) (features : List Feature) : List Text :=
  (features.filter (·.id = id)).flatMap fun f => f.evidence.map Evidence.sourceFile

theorem Feature.filesOn_ne_nil_iff {features : List Feature} (h : ∀ f ∈ features, f.evidence ≠ []) :
    filesOn id features ≠ [] ↔ ∃ f ∈ features, f.id = id := by
  simp only [filesOn, Ne, List.flatMap_eq_nil_iff, List.map_eq_nil_iff, not_forall, exists_prop,
    List.mem_filter, decide_eq_true_eq]
  exact ⟨fun ⟨f, ⟨hf, hid⟩, _⟩ => ⟨f, hf, hid⟩, fun ⟨f, hf, hid⟩ => ⟨f, ⟨hf, hid⟩, h f hf⟩⟩

/-- Where each block repeats its own item, the blocks that are not empty tell the first
appearances. -/
theorem firstSeen_flatMap {α : Type} [DecidableEq α] {block : α → List α} {xs : List α}
    (hxs : xs.Nodup) (hblock : ∀ x ∈ xs, ∀ y ∈ block x, y = x) :
    firstSeen (xs.flatMap block) = xs.filter fun x => block x ≠ [] := by
  induction xs with
  | nil => rfl
  | cons x xs ih =>
      obtain ⟨hx, hxs⟩ := List.nodup_cons.1 hxs
      obtain ⟨hself, hblock⟩ := List.forall_mem_cons.1 hblock
      have hrest : (firstSeen (xs.flatMap block)).filter (· ∉ block x) =
          firstSeen (xs.flatMap block) := by
        rw [List.filter_eq_self]
        intro y hy
        obtain ⟨z, hz, hyz⟩ := List.mem_flatMap.1 (mem_firstSeen.1 hy)
        refine decide_eq_true fun hy => hx ?_
        rwa [← hself y hy, hblock z hz y hyz]
      have hfirst : firstSeen (block x) = if block x ≠ [] then [x] else [] := by
        rw [List.eq_replicate_of_mem hself]
        cases (block x).length with
        | zero => rfl
        | succ n =>
            rw [List.replicate_succ, firstSeen, List.filter_eq_nil_iff.2]
            · simp
            · simp +contextual [List.mem_replicate]
      rw [List.flatMap_cons, firstSeen_append, hrest, hfirst, ih hxs hblock]
      by_cases h : block x = [] <;> simp [h]

/-- The files of a merged feature come from the evidence on its topic. -/
theorem sourceFiles_of_on? {features : List Feature} {f : Feature}
    (hf : Feature.on? id (mergeFeatures features) = some f) :
    f.sourceFiles = firstSeen (Feature.filesOn id features) := by
  rw [on?_mergeFeatures] at hf
  rw [Feature.sourceFiles, Feature.evidence_joined? hf, List.map_flatMap]
  rfl

theorem exists_on?_iff {features : List Feature} :
    (∃ f, Feature.on? id (mergeFeatures features) = some f) ↔ ∃ f ∈ features, f.id = id := by
  constructor
  · rintro ⟨f, hf⟩
    have hid : id ∈ (mergeFeatures features).map Feature.id :=
      List.mem_map.2 ⟨f, List.mem_of_find?_eq_some hf, by simpa using List.find?_some hf⟩
    rw [mergeFeatures_ids, mem_firstSeen] at hid
    exact List.mem_map.1 hid
  · rintro ⟨f, hf, rfl⟩
    have hid : f.id ∈ (mergeFeatures features).map Feature.id := by
      rw [mergeFeatures_ids, mem_firstSeen]
      exact List.mem_map_of_mem hf
    obtain ⟨g, hg, hid⟩ := List.mem_map.1 hid
    exact ⟨g, hid ▸ on?_of_mem (mergeFeatures_nodup _) hg⟩

namespace Scanner

variable {s : Scanner} {t : FileTree} {now : Moment} {root : Place} {framework : Option Text}
  {paths : List Text} {path : Text} {settings : ScanSettings} {m : CodeMap}

/-- A source of a project is scanned and gives evidence of a topic. -/
def Shows (s : Scanner) (t : FileTree) (root : Place) (framework : Option Text) (id path : Text) :
    Prop :=
  ∃ u found, readSource t root path = .ok u ∧ u.findings framework s.catalog = .ok found ∧
    u.Evinces s.catalog id

instance (s : Scanner) (t : FileTree) (root : Place) (framework : Option Text) (id path : Text) :
    Decidable (s.Shows t root framework id path) :=
  decidable_of_iff
    (∃ u ∈ (readSource t root path).toOption, (u.findings framework s.catalog).toOption.isSome ∧
      u.Evinces s.catalog id) (by
    simp only [Option.mem_def, Except.toOption_eq_some_iff, Option.isSome_iff_exists, Shows]
    exact ⟨fun ⟨u, hu, ⟨found, hfound⟩, h⟩ => ⟨u, found, hu, hfound, h⟩,
      fun ⟨u, found, hu, hfound, h⟩ => ⟨u, hu, ⟨found, hfound⟩, h⟩⟩)

theorem path_of_readSource {u : SourceUnit} (h : readSource t root path = .ok u) : u.path = path := by
  unfold readSource at h
  split at h
  · unfold SourceUnit.ofText at h
    split at h
    · rw [← Except.ok.inj h]
    · cases h
  all_goals cases h

theorem features_of_findings {u : SourceUnit} {found : Findings}
    (h : u.findings framework s.catalog = .ok found) :
    found.features = detectFeatures s.catalog u.path u.text := by
  obtain ⟨routes, -, h⟩ := Except.bind_eq_ok_iff.1 h
  obtain ⟨strings, -, h⟩ := Except.bind_eq_ok_iff.1 h
  obtain ⟨endpoints, -, h⟩ := Except.bind_eq_ok_iff.1 h
  rw [← Except.ok.inj h]

/-- The features that a source shows, none if it fails. -/
def featuresOf (s : Scanner) (t : FileTree) (root : Place) (framework : Option Text) (path : Text) :
    List Feature :=
  ((s.sourceFindings t root framework path).toOption.toList).flatMap Findings.features

theorem mem_featuresOf_iff {f : Feature} : f ∈ s.featuresOf t root framework path ↔
    ∃ u found, readSource t root path = .ok u ∧ u.findings framework s.catalog = .ok found ∧
      f ∈ detectFeatures s.catalog u.path u.text := by
  have hfound : f ∈ s.featuresOf t root framework path ↔
      ∃ found, s.sourceFindings t root framework path = .ok found ∧ f ∈ found.features := by
    simp [featuresOf, Except.toOption_eq_some_iff]
  rw [hfound]
  constructor
  · rintro ⟨found, hfound, hf⟩
    obtain ⟨u, hu, hfound⟩ := Except.bind_eq_ok_iff.1 hfound
    exact ⟨u, found, hu, hfound, features_of_findings hfound ▸ hf⟩
  · rintro ⟨u, found, hu, hfound, hf⟩
    exact ⟨found, Except.bind_eq_ok_iff.2 ⟨u, hu, hfound⟩, features_of_findings hfound ▸ hf⟩

theorem exists_featuresOf_iff :
    (∃ f ∈ s.featuresOf t root framework path, f.id = id) ↔ s.Shows t root framework id path := by
  simp only [mem_featuresOf_iff, Shows, ← exists_detectFeatures_iff]
  constructor
  · rintro ⟨f, ⟨u, found, hu, hfound, hf⟩, hid⟩
    exact ⟨u, found, hu, hfound, f, hf, hid⟩
  · rintro ⟨u, found, hu, hfound, f, hf, hid⟩
    exact ⟨f, ⟨u, found, hu, hfound, hf⟩, hid⟩

theorem evidence_of_mem_featuresOf {f : Feature} (hf : f ∈ s.featuresOf t root framework path) :
    f.evidence ≠ [] ∧ ∀ e ∈ f.evidence, e.sourceFile = path := by
  obtain ⟨u, found, hu, -, hf⟩ := mem_featuresOf_iff.1 hf
  rw [← path_of_readSource hu]
  exact evidence_of_mem_detectFeatures hf

theorem features_mapOf (s : Scanner) (t : FileTree) (now : Moment) (root : Place)
    (framework : Option Text) (paths : List Text) :
    (s.mapOf t now root framework paths).features =
      mergeFeatures (paths.flatMap (s.featuresOf t root framework)) := by
  have h (xs : List Text) : (xs.filterMap fun path =>
      (s.sourceFindings t root framework path).toOption).flatMap Findings.features =
        xs.flatMap (s.featuresOf t root framework) := by
    induction xs with
    | nil => rfl
    | cons path xs ih =>
        rw [List.filterMap_cons, List.flatMap_cons, ← ih, featuresOf]
        cases (s.sourceFindings t root framework path).toOption <;> simp
  exact congrArg mergeFeatures (h paths)

/-- There is a feature on a topic just if a source shows the topic. -/
theorem exists_feature?_iff :
    (∃ f, (s.mapOf t now root framework paths).feature? id = some f) ↔
      ∃ path ∈ paths, s.Shows t root framework id path := by
  have hon : (∃ f, Feature.on? id (mergeFeatures (paths.flatMap (s.featuresOf t root framework))) =
      some f) ↔ _ := exists_on?_iff
  rw [← features_mapOf s t now] at hon
  refine hon.trans ?_
  simp only [List.mem_flatMap, ← exists_featuresOf_iff]
  constructor
  · rintro ⟨f, ⟨path, hpath, hf⟩, hid⟩
    exact ⟨path, hpath, f, hf, hid⟩
  · rintro ⟨path, hpath, f, hf, hid⟩
    exact ⟨f, ⟨path, hpath, hf⟩, hid⟩

/-- The files of the feature on a topic are the sources that show the topic, in their order. -/
theorem sourceFiles_feature? {f : Feature} (hpaths : paths.Nodup)
    (hf : (s.mapOf t now root framework paths).feature? id = some f) :
    f.sourceFiles.Sublist paths ∧
      ∀ path, path ∈ f.sourceFiles ↔ path ∈ paths ∧ s.Shows t root framework id path := by
  have hon : Feature.on? id (mergeFeatures (paths.flatMap (s.featuresOf t root framework))) =
      some f := features_mapOf s t now root framework paths ▸ hf
  have hfiles : Feature.filesOn id (paths.flatMap (s.featuresOf t root framework)) =
      paths.flatMap fun path => Feature.filesOn id (s.featuresOf t root framework path) := by
    simp only [Feature.filesOn, List.filter_flatMap, List.flatMap_assoc]
  rw [sourceFiles_of_on? hon, hfiles, firstSeen_flatMap hpaths]
  · refine ⟨List.filter_sublist, fun path => ?_⟩
    rw [List.mem_filter, decide_eq_true_iff, Feature.filesOn_ne_nil_iff, exists_featuresOf_iff]
    exact fun f hf => (evidence_of_mem_featuresOf hf).1
  · intro path _ file hfile
    obtain ⟨g, hg, hfile⟩ := List.mem_flatMap.1 hfile
    obtain ⟨e, he, rfl⟩ := List.mem_map.1 hfile
    exact (evidence_of_mem_featuresOf (List.mem_of_mem_filter hg)).2 e he

theorem areKeys_sourceFiles_mapOf (s : Scanner) (t : FileTree) (now : Moment) (root : Place)
    (framework : Option Text) (paths : List Text) :
    ∀ p ∈ (s.mapOf t now root framework paths).pages, AreKeys p.sourceFiles :=
  areKeys_buildPages _

/-- What a scan gives is the code map of the sources that it finds. -/
theorem exists_mapOf_of_scan {w w₁ : Workspace} {target : Place} {shown : Text}
    (hscan : (s.scan target shown settings).perform w = (.ok m, w₁)) :
    ∃ paths framework, Discovery.sources w.files (w.files.resolve target) settings.includes
        settings.excludes = .ok paths ∧
      frameworkOf w.files (w.files.resolve target) settings paths = .ok framework ∧
      m = s.mapOf w.files w.now (w.files.resolve target) framework paths := by
  obtain ⟨es, hperform⟩ := (tells_scan (s := s) target shown settings).perform_eq
    (rfl : w.files = w.files) (rfl : w.now = w.now)
  have hscanned := (Prod.mk.inj (hperform.symm.trans hscan)).1
  unfold scanned at hscanned
  split at hscanned
  · cases hscanned
  split at hscanned
  · cases hscanned
  obtain ⟨paths, hpaths, hscanned⟩ := Except.bind_eq_ok_iff.1 hscanned
  obtain ⟨⟨⟩, -, hscanned⟩ := Except.bind_eq_ok_iff.1 hscanned
  obtain ⟨framework, hframework, hscanned⟩ := Except.bind_eq_ok_iff.1 hscanned
  exact ⟨paths, framework, hpaths, hframework, (Except.ok.inj hscanned).symm⟩

end Scanner

/-! ## Articles that are written again -/

theorem mem_filterMap_str?_iff {values : List Json} {t : Text} :
    t ∈ values.filterMap Json.str? ↔ Json.str t ∈ values := by
  rw [List.mem_filterMap]
  constructor
  · rintro ⟨v, hv, ht⟩
    cases v <;> cases ht
    exact hv
  · exact fun ht => ⟨_, ht, rfl⟩

theorem Feature.hasNewFiles_eq_ok {f : Feature} {a : Article} {new : Bool}
    (h : f.hasNewFiles a = .ok new) :
    new = true ↔ ∃ file ∈ f.sourceFiles, Json.str file ∉ a.sourceFiles := by
  obtain ⟨known, hknown, hnew⟩ := Except.bind_eq_ok_iff.1 h
  unfold keyTexts at hknown
  split at hknown
  · obtain rfl := Except.ok.inj hknown
    rw [← Except.ok.inj hnew]
    simp [-List.mem_filterMap, mem_filterMap_str?_iff]
  · cases hknown

/-- A topic's article is planned to be written again just if its feature has a file that the article
was not written from. -/
theorem updates_iff {m : CodeMap} {categories : List Text} {articles : List Article}
    {plan : List PlannedTopic} {a : Article} (hnodup : (m.features.map Feature.id).Nodup)
    (hplan : planArticles m categories articles true = .ok plan)
    (hcategory : topicCategory id ∈ categories) (ha : articleOn articles id = some a)
    (hpin : ¬ a.IsPinned) :
    (∃ p ∈ plan, p.feature.id = id ∧ ∃ context, p.decision = .update a context) ↔
      ∃ f, m.feature? id = some f ∧ ∃ file ∈ f.sourceFiles, Json.str file ∉ a.sourceFiles := by
  constructor
  · rintro ⟨p, hp, rfl, context, hdecision⟩
    obtain ⟨heligible, hdecide⟩ := mem_planArticles hplan hp
    refine ⟨p.feature, on?_of_mem hnodup (List.mem_of_mem_filter heligible), ?_⟩
    rw [hdecision] at hdecide
    obtain ⟨_, -, -, hd⟩ | ⟨_, -, -, hd⟩ | ⟨_, -, -, -, -, hd⟩ | ⟨b, _, hb, -, hnew, -, -⟩ :=
      Feature.decide_eq_ok hdecide
    · cases hd
    · cases hd
    · cases hd
    · obtain rfl := Option.some.inj (ha.symm.trans hb)
      exact (Feature.hasNewFiles_eq_ok (hnew rfl)).1 rfl
  · rintro ⟨f, hf, hnew⟩
    obtain rfl : f.id = id := by simpa using List.find?_some hf
    have heligible : f ∈ eligibleFeatures m.features categories :=
      List.mem_filter.2 ⟨List.mem_of_find?_eq_some hf, by simpa [Feature.category] using hcategory⟩
    obtain ⟨⟨_, decision⟩, hp, rfl, hdecide⟩ :=
      (planArticles_eq_ok hplan).flip.exists_of_mem_right heligible
    rw [ha] at hdecide
    obtain ⟨_, hnone, -, -⟩ | ⟨b, hb, hpinned, -⟩ | ⟨b, hb, -, -, hold, -⟩ |
      ⟨b, context, hb, -, -, -, hd⟩ := Feature.decide_eq_ok hdecide
    · cases hnone
    · exact absurd (Option.some.inj hb ▸ hpinned) hpin
    · obtain rfl := Option.some.inj hb
      exact absurd ((Feature.hasNewFiles_eq_ok hold).2 hnew) Bool.false_ne_true
    · obtain rfl := Option.some.inj hb
      exact ⟨_, hp, rfl, context, hd⟩

/-- No source is hidden: after a scan there is a feature on a topic just if a scanned source gives
evidence of it, its files are those sources in order, and an article on the topic that is not pinned
is written again just if one of those sources is not among its own. -/
theorem updates_of_scan {s : Scanner} {settings : ScanSettings} {w w₁ : Workspace} {target : Place}
    {shown : Text} {m : CodeMap} (hproper : w.files.IsProper)
    (hscan : (s.scan target shown settings).perform w = (.ok m, w₁)) :
    ∃ paths framework, Discovery.sources w.files (w.files.resolve target) settings.includes
        settings.excludes = .ok paths ∧
      Scanner.frameworkOf w.files (w.files.resolve target) settings paths = .ok framework ∧
      ∀ id, (let shows path := s.Shows w.files (w.files.resolve target) framework id path
        ((∃ f, m.feature? id = some f) ↔ ∃ path ∈ paths, shows path) ∧
        (∀ f, m.feature? id = some f → f.sourceFiles.Pairwise (fun p q => Text.lt p q = true) ∧
          ∀ path, path ∈ f.sourceFiles ↔ path ∈ paths ∧ shows path) ∧
        ∀ (categories : List Text) (articles : List Article) (a : Article),
          topicCategory id ∈ categories → articleOn articles id = some a → ¬ a.IsPinned →
          (∀ plan, planArticles m categories articles true = .ok plan →
            ((∃ p ∈ plan, p.feature.id = id ∧ ∃ context, p.decision = .update a context) ↔
              ∃ path ∈ paths, shows path ∧ Json.str path ∉ a.sourceFiles)) ∧
          ((∀ b ∈ articles, AreKeys b.sourceFiles) →
            ∃ plan, planArticles m categories articles true = .ok plan)) := by
  obtain ⟨paths, framework, hpaths, hframework, rfl⟩ := Scanner.exists_mapOf_of_scan hscan
  refine ⟨paths, framework, hpaths, hframework, fun id => ?_⟩
  obtain ⟨-, -, -, -, hsorted, -⟩ := (Discovery.sources_eq_ok_iff_isMet hproper).1 hpaths
  have hnodup := Text.nodup_of_pairwise_lt hsorted
  refine ⟨Scanner.exists_feature?_iff, fun f hf => ?_, fun categories articles a hcategory ha hpin =>
    ⟨fun plan hplan => ?_, fun hkeys => ?_⟩⟩
  · obtain ⟨hsublist, hmem⟩ := Scanner.sourceFiles_feature? hnodup hf
    exact ⟨hsorted.sublist hsublist, hmem⟩
  · have hfeatures : ((s.mapOf w.files w.now (w.files.resolve target) framework
        paths).features.map Feature.id).Nodup := mergeFeatures_nodup _
    rw [updates_iff hfeatures hplan hcategory ha hpin]
    constructor
    · rintro ⟨f, hf, path, hpath, hnew⟩
      obtain ⟨hpath, hshows⟩ := ((Scanner.sourceFiles_feature? hnodup hf).2 path).1 hpath
      exact ⟨path, hpath, hshows, hnew⟩
    · rintro ⟨path, hpath, hshows, hnew⟩
      obtain ⟨f, hf⟩ := Scanner.exists_feature?_iff.2 ⟨path, hpath, hshows⟩
      exact ⟨f, hf, path, ((Scanner.sourceFiles_feature? hnodup hf).2 path).2 ⟨hpath, hshows⟩, hnew⟩
  · exact exists_planArticles categories true
      (Scanner.areKeys_sourceFiles_mapOf s w.files w.now _ framework paths) hkeys

/-- A topic that is recognized by one word. -/
def planTopic : Catalog :=
  (Topic.readPatterns [lit "zebra"]).toOption.toList.map fun patterns =>
    { id := lit "billing.plan", patterns, confidence := .int 1 }

/-- Three sources, of which the first and the last speak of the topic. -/
def threeSources : FileTree := ⟨[
  ([lit "a.ts"], .file ((Text.toUtf8? (lit "zebra(zebra);\n")).getD [])),
  ([lit "b.ts"], .file ((Text.toUtf8? (lit "lion();\n")).getD [])),
  ([lit "c.ts"], .file ((Text.toUtf8? (lit "Zebra();\n")).getD []))]⟩

/-- The scan of the sources. -/
def threeScan : ScanSettings :=
  { includes := [lit "*.ts"], excludes := [], framework := lit "express" }

/-- An article on the topic that was written from the first source alone. -/
def planArticle : Article :=
  { id := lit "kb-1", topic := lit "billing.plan", sourceFiles := [.str (lit "a.ts")] }

theorem checks_threeSources : threeSources.IsProper ∧ threeSources.resolve [] = [] ∧
    threeSources.isDir [] = true ∧ (Discovery.unsorted threeSources [] threeScan.includes
      []).toOption = some [lit "a.ts", lit "b.ts", lit "c.ts"] ∧
    ∀ path ∈ [lit "a.ts", lit "b.ts", lit "c.ts"],
      Scanner.Shows ⟨planTopic, none⟩ threeSources [] (some (lit "express")) (lit "billing.plan")
        path ↔ path ∈ [lit "a.ts", lit "c.ts"] := by
  decide +kernel

theorem updates_of_scan_third : ∃ m w₁ plan, threeSources.IsProper ∧
    (Scanner.scan ⟨planTopic, none⟩ [] [] threeScan).perform ⟨threeSources, ⟨0⟩, [], []⟩ =
      (.ok m, w₁) ∧
    (∃ f, m.feature? (lit "billing.plan") = some f ∧ f.sourceFiles = [lit "a.ts", lit "c.ts"]) ∧
    planArticles m [lit "billing"] [planArticle] true = .ok plan ∧
    ∃ p ∈ plan, p.feature.id = lit "billing.plan" ∧
      ∃ context, p.decision = .update planArticle context := by
  obtain ⟨hproper, hroot, hdir, hunsorted, hshows⟩ := checks_threeSources
  have hpaths : Discovery.sources threeSources [] threeScan.includes [] = .ok _ :=
    Discovery.sources_of_unsorted (Except.toOption_eq_some_iff.1 hunsorted) (by decide)
  have hexplicit : threeScan.framework ≠ lit "auto" := by decide
  obtain ⟨w₁, hscan⟩ := (Scanner.exists_scan_eq_ok_iff ⟨planTopic, none⟩ threeScan [] []
    ⟨threeSources, ⟨0⟩, [], []⟩ hexplicit).2
      ⟨by rw [hroot]; exact hdir, _, by rw [hroot]; exact hpaths, rfl, rfl⟩
  obtain ⟨paths, framework, hpaths', hframework, hid⟩ := updates_of_scan hproper hscan
  rw [hroot] at hpaths' hframework
  obtain rfl := Except.ok.inj (hpaths.symm.trans hpaths')
  rw [Scanner.frameworkOf, if_neg hexplicit] at hframework
  obtain rfl := Except.ok.inj hframework
  obtain ⟨hexists, hfiles, hupdates⟩ := hid (lit "billing.plan")
  rw [hroot] at hexists hfiles hupdates
  have hc : Scanner.Shows ⟨planTopic, none⟩ threeSources [] (some (lit "express"))
      (lit "billing.plan") (lit "c.ts") := (hshows _ (by simp)).2 (by simp)
  obtain ⟨f, hf⟩ := hexists.2 ⟨_, by simp, hc⟩
  obtain ⟨hsorted, hmem⟩ := hfiles f hf
  obtain ⟨hiff, hplan⟩ := hupdates [lit "billing"] [planArticle] planArticle (by decide) (by rfl)
    (by simp [Article.IsPinned, planArticle]; decide)
  obtain ⟨plan, hplan⟩ := hplan (by simp [AreKeys, planArticle, Json.isKey])
  refine ⟨_, w₁, plan, hproper, hscan, ⟨f, hf, ?_⟩, hplan,
    (hiff plan hplan).2 ⟨lit "c.ts", by simp, hc, by simp [planArticle]; decide⟩⟩
  refine Text.eq_of_pairwise_lt hsorted (by decide) fun path => (hmem path).trans ?_
  constructor
  · rintro ⟨hpath, h⟩
    exact (hshows path hpath).1 h
  · intro hpath
    have hpath' : path ∈ [lit "a.ts", lit "b.ts", lit "c.ts"] := by
      rcases List.mem_cons.1 hpath with rfl | hpath
      · simp
      · simp [List.mem_singleton.1 hpath]
    exact ⟨hpath', (hshows path hpath').2 hpath⟩

end HelpCenter

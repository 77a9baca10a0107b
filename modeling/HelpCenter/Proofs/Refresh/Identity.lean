import HelpCenter.Proofs.Article.Edit
import HelpCenter.Proofs.Refresh.Invariant
import HelpCenter.Proofs.Store.Invariant

/-!
# Ids and topics over whole runs

From an empty knowledge base on, no sequence of runs and edits brings about two articles with one id
or with one topic, provided that new ids tell the topics of the project apart
(`areDistinct_of_reached`).  Nothing in the program provides for that: a new id is not compared with
those that are there.
-/

namespace HelpCenter

/-- The topics of the catalog on which articles are written. -/
def Settings.topicIds (s : Settings) : Set Text :=
  {id | ∃ c, Refresher.catalogOf s = .ok c ∧ ∃ t ∈ c, t.id = id ∧
    s.docs.topics.contains (topicCategory id) = true}

/-- The ids of built-in and custom topics in the categories to write on. -/
def Settings.candidateIds (s : Settings) : List Text :=
  (Catalog.builtinEntries.map (fun e => lit e.1) ++ s.docs.customTopics.map (·.id)).filter
    fun id => s.docs.topics.contains (topicCategory id)

theorem Settings.mem_candidateIds {s : Settings} {id : Text} (h : id ∈ s.topicIds) :
    id ∈ s.candidateIds := by
  obtain ⟨c, hc, t, ht, rfl, hcategory⟩ := h
  refine List.mem_filter.2 ⟨List.mem_append.2 ?_, hcategory⟩
  rcases Catalog.mem_extend hc ht with ht | ⟨u, hu, ht⟩
  · exact .inl (Catalog.id_mem_of_mem_builtin ht)
  · exact .inr (List.mem_map.2 ⟨u, hu, (Catalog.topic_eq_ok ht).1.symm⟩)

/-- New ids tell the topics apart if none of them holds a split surrogate pair and no two differ in
nothing but dots and hyphens, as long as no clock shows a time before 1970. -/
theorem Settings.tellsApart {s : Settings}
    (hjoined : ∀ id ∈ s.candidateIds, Text.joinPairs id = id)
    (hdistinct : (s.candidateIds.map hyphenated).Nodup) :
    TellsApart s.topicIds {m | 0 ≤ m.millis} :=
  tellsApart_of_hyphenated (fun t ht => hjoined t (mem_candidateIds ht)) fun _ ht _ hu h =>
    List.inj_on_of_nodup_map hdistinct (mem_candidateIds ht) (mem_candidateIds hu) h

namespace Refresher

variable {t : FileTree} {now : Moment} {settings : Settings} {times : Set Moment} {c : Catalog}
  {m : CodeMap}

theorem mem_topicIds (hc : catalogOf settings = .ok c) (hm : m.IsScanOf c) :
    ∀ f ∈ eligibleFeatures m.features settings.docs.topics, f.id ∈ settings.topicIds := by
  intro f hf
  obtain ⟨hf, hcategory⟩ := List.mem_filter.1 hf
  obtain ⟨u, hu, hid⟩ := (hm.known f hf).topic
  exact ⟨c, hc, u, hu, hid, hcategory⟩

/-- Batches keep all ids minted. -/
theorem batchesKeep_minted (o : RefreshOptions) (hapart : TellsApart settings.topicIds times)
    (hnow : now ∈ times) (ht : (Store.ofSettings settings).IsMinted settings.topicIds times t) :
    BatchesKeep settings t now o fun articles =>
      Minted settings.topicIds times (articles.map Article.key) := by
  intro c d m r hc hm hd hr
  exact Desk.generate_minted hapart ht hm.nodup (mem_topicIds hc hm) (hd ▸ hnow) hr

/-! ## Writing one article again -/

/-- An article that is written again keeps its id and its topic. -/
theorem planAgain_key {a : Article} {p : PlannedTopic} (h : planAgain m a = .ok p) (draft : Draft)
    (now : Moment) : (p.article draft m now).key = a.key := by
  obtain ⟨f, -, htopic, context, -, rfl⟩ := planAgain_eq_ok h
  exact Prod.ext rfl htopic

/-- Replacing all articles of an id changes no key if no other article has that id. -/
theorem map_replace_keys {articles : List Article} {a b : Article} {id : Text}
    (hids : (articles.map Article.id).Nodup) (ha : a ∈ articles) (hid : a.id = id)
    (hb : b.key = a.key) :
    (articles.map fun c => if c.id = id then b else c).map Article.key =
      articles.map Article.key := by
  rw [List.map_map]
  refine List.map_congr_left fun c hc => ?_
  dsimp only [Function.comp_apply]
  split
  · next hcid =>
    obtain rfl : c = a := List.inj_on_of_nodup_map hids hc ha (hcid.trans hid.symm)
    exact hb
  · rfl

end Refresher

/-! ## Sequences of operations -/

section Reached

variable {settings : Settings} {times : Set Moment} {w : Workspace}

theorem Operation.isMinted (hapart : TellsApart settings.topicIds times) (op : Operation)
    (hon : op.IsOn settings w) (hnow : w.now ∈ times)
    (hw : (Store.ofSettings settings).IsMinted settings.topicIds times w.files) :
    (Store.ofSettings settings).IsMinted settings.topicIds times
      (op.perform settings w).files := by
  have hI := Store.isLasting_minted hapart
  have keys {id : Text} {a b : Article}
      (ha : ((Store.ofSettings settings).stored w.files).find? (·.id = id) = some a)
      (hb : b.key = a.key) : Minted settings.topicIds times ((KnowledgeBase.replaceArticle id b
        ((Store.ofSettings settings).stored w.files)).map Article.key) := by
    rw [Store.replaceArticle_keys ha hb]
    exact hw
  cases op with
  | run r target o =>
      exact r.leaves_run target o hI hon (Refresher.batchesKeep_minted o hapart hnow hw) hw
        w rfl rfl
  | rewrite r target id offline =>
      refine r.leaves_rewriteArticle target id offline hI hon (fun old m p draft hold hp => ?_) hw
        w rfl rfl
      have hid : old.id = id := by simpa using List.find?_some hold
      rw [Refresher.map_replace_keys (hw.areDistinct hapart).ids
        (List.mem_of_find?_eq_some hold) hid (Refresher.planAgain_key hp draft w.now)]
      exact hw
  | edit id changes by_ =>
      exact Store.leaves_changeArticle hI hw (fun a b ha hb => keys ha (Article.edited_key hb))
        w rfl rfl
  | setStatus id status =>
      exact Store.leaves_setStatus hI hw (fun _ a ha => keys ha rfl) w rfl rfl
  | setPinned id pinned =>
      refine Store.leaves_changeArticle hI hw (fun a b ha hb => keys ha ?_) w rfl rfl
      exact Except.ok.inj hb ▸ rfl
  | delete id =>
      exact Store.leaves_delete hI hw (hw.sublist (List.filter_sublist.map _)) w rfl rfl

theorem Reached.isMinted (hapart : TellsApart settings.topicIds times)
    (h : Reached settings times w) :
    (Store.ofSettings settings).IsMinted settings.topicIds times w.files := by
  induction h with
  | empty hnone =>
      unfold Store.IsMinted Store.stored
      rw [hnone]
      exact minted_nil
  | outside _ hsame ih =>
      unfold Store.IsMinted Store.stored at ih ⊢
      rw [hsame]
      exact ih
  | step _ op hon hnow ih => exact op.isMinted hapart hon hnow ih

/-- If new ids tell the topics apart, the stored articles differ in their ids and in their topics at
any time.  Otherwise a batch can give one id to two articles. -/
theorem areDistinct_of_reached (settings : Settings) (times : Set Moment) :
    (TellsApart settings.topicIds times → ∀ w, Reached settings times w →
      AreDistinct ((Store.ofSettings settings).content w.files).articles) ∧
    ∀ (d : Desk) (m : CodeMap) (categories : List Text) (articles : List Article)
      (changedOnly : Bool) (r : BatchResult) (f : Feature), d.WritesFirst m categories articles f →
      (newArticleId f.id d.now ∈ articles.map Article.id ∨
        ∃ g, d.WritesFirst m categories articles g ∧ g.id ≠ f.id ∧
          newArticleId g.id d.now = newArticleId f.id d.now) →
      d.generate m categories articles changedOnly false = .ok r →
      ¬ (r.articles.map Article.id).Nodup :=
  ⟨fun hapart _ h => (h.isMinted hapart).areDistinct hapart,
    fun _ _ _ _ _ _ _ hf hclash hr => Desk.not_nodup_of_clash hf hclash hr⟩

end Reached

/-! ## Two topics with the same new id -/

/-- The configuration of a project with two topics of its own for the same sources. -/
def pairConfig (first second : String) : Text :=
  lit "\x7b\"scan\": \x7b\"include\": [\"z\"]\x7d, " ++
    lit "\"docs\": \x7b\"topics\": [\"billing\"], \"customTopics\": [" ++
    lit "\x7b\"id\": \"" ++ lit first ++ lit "\", \"patterns\": [\"z\"]\x7d, " ++
    lit "\x7b\"id\": \"" ++ lit second ++ lit "\", \"patterns\": [\"z\"]\x7d]\x7d\x7d"

/-- The project, with one empty source. -/
def pairProject (first second : String) : Workspace where
  files := ⟨[([lit "kodex.config.json"], .file ((pairConfig first second).flatMap CodePoint.utf8)),
    ([lit "z"], .file [])]⟩
  now := ⟨1714608000000000⟩

/-- The settings of the project. -/
def pairSettings (first second : String) : Settings :=
  (Settings.load (pairProject first second).files []).toOption.getD { root := [] }

theorem configures_pairSettings (first second : String) :
    Refresher.Configures (pairSettings first second) (pairProject first second).files [] := by
  intro s hs
  have hload : Settings.load (pairProject first second).files [] = .ok s := hs
  rw [pairSettings, hload]
  rfl

/-- A run with an author who always gives the same answer. -/
def plainRun : Operation :=
  .run { author := some fun _ => .ok (lit "x"), send := fun _ => .timedOut } [] {}

/-- A desk at which every article is the same. -/
def pairDesk : Desk := ⟨fun _ => .ok (lit "x"), [], lit "Shop", ⟨0⟩⟩

/-- A code map with two features that get one id. -/
def pairMap : CodeMap where
  features := [⟨lit "billing.plan-b", .int 1, []⟩, ⟨lit "billing.plan.b", .int 1, []⟩]

theorem writesFirst_pairMap {f : Feature} (hf : f ∈ pairMap.features) :
    pairDesk.WritesFirst pairMap [lit "billing"] [] f := by
  have helig : ∀ f ∈ pairMap.features, [lit "billing"].contains f.category = true := by decide
  refine ⟨List.mem_filter.2 ⟨hf, helig f hf⟩, nofun, fun context => ?_⟩
  have hread : (Reply.firstObject? (Text.trim (lit "x") ::
      (Reply.fenced? (lit "x")).toList)).toOption.isSome := by decide +kernel
  have hdraft : ∀ title, ∃ draft, Reply.draft (lit "x") title = .ok draft := by
    intro title
    unfold Reply.draft
    cases h : Reply.firstObject? (Text.trim (lit "x") :: (Reply.fenced? (lit "x")).toList) with
    | error e => rw [h] at hread; cases hread
    | ok found => cases found <;> exact ⟨_, rfl⟩
  obtain ⟨draft, hdraft⟩ := hdraft (pairDesk.catalog.displayName f.id)
  refine ⟨draft, Except.bind_ok rfl ?_⟩
  dsimp only
  rw [hdraft]
  rfl

theorem reached_pairProject {first second : String}
    (hempty : ((Store.ofSettings (pairSettings first second)).content
      (pairProject first second).files).articles.isEmpty) :
    Reached (pairSettings first second) {m | 0 ≤ m.millis}
      (plainRun.perform (pairSettings first second) (pairProject first second)) := by
  have hnow : 0 ≤ (Moment.mk 1714608000000000).millis := by decide +kernel
  exact .step (.empty (List.isEmpty_iff.1 hempty)) plainRun (configures_pairSettings first second)
    hnow

/-- Two topics get different ids where their hyphenated forms differ, and one id where not. -/
theorem areDistinct_pairProject :
    (let settings := pairSettings "billing.plan-a" "billing.plan.b"
      let project := pairProject "billing.plan-a" "billing.plan.b"
      AreDistinct ((Store.ofSettings settings).content
        (plainRun.perform settings project).files).articles) ∧
    ∃ r, pairDesk.generate pairMap [lit "billing"] [] false false = .ok r ∧
      ¬ (r.articles.map Article.id).Nodup := by
  constructor
  · intro settings project
    have hjoined : ∀ id ∈ settings.candidateIds, Text.joinPairs id = id := by decide +kernel
    have hdistinct : (settings.candidateIds.map hyphenated).Nodup := by decide +kernel
    exact (areDistinct_of_reached settings {m | 0 ≤ m.millis}).1
      (Settings.tellsApart hjoined hdistinct) _ (reached_pairProject (by decide +kernel))
  · obtain ⟨plan, hplan⟩ : ∃ plan, planArticles pairMap [lit "billing"] [] false = .ok plan :=
      exists_planArticles _ _ nofun nofun
    have hr : pairDesk.generate pairMap [lit "billing"] [] false false = .ok _ :=
      Except.bind_ok hplan rfl
    refine ⟨_, hr, (areDistinct_of_reached { root := [] } ∅).2 pairDesk pairMap [lit "billing"] []
      false _ _ (writesFirst_pairMap (List.mem_cons_self ..)) (.inr ⟨_, writesFirst_pairMap
        (List.mem_cons_of_mem _ (List.mem_cons_self ..)), by decide, by decide +kernel⟩) hr⟩

/-- A run on a project with two topics that differ in a dot and a hyphen gives one id to both
articles. -/
theorem not_areDistinct_pairProject :
    let settings := pairSettings "billing.plan-b" "billing.plan.b"
    let project := pairProject "billing.plan-b" "billing.plan.b"
    Reached settings {m | 0 ≤ m.millis} (plainRun.perform settings project) ∧
      ¬ AreDistinct ((Store.ofSettings settings).content
        (plainRun.perform settings project).files).articles := by
  refine ⟨reached_pairProject (by decide +kernel), fun h => ?_⟩
  have hids : (((Store.ofSettings (pairSettings "billing.plan-b" "billing.plan.b")).content
      (plainRun.perform (pairSettings "billing.plan-b" "billing.plan.b")
        (pairProject "billing.plan-b" "billing.plan.b")).files).articles.map Article.id) =
      List.replicate 2 (lit "kb-billing-plan-b-1714608000000") := by decide +kernel
  have hnodup := h.ids
  rw [hids] at hnodup
  exact absurd hnodup (by decide)

end HelpCenter

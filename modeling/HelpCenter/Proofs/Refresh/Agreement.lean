import HelpCenter.Proofs.Generation.Isolation
import HelpCenter.Proofs.Refresh.Briefing
import HelpCenter.Proofs.Refresh.Identity
import HelpCenter.Proofs.Store.Ledger

/-!
# A single article and a whole run

Writing one article again and a run on everything are two programs: the one finds its article by the
id and replaces all of that id, the other finds it by the topic and replaces the first.  They agree on
every article that is not pinned, on a topic to write on, provided that the stored articles have
different ids and topics (`rewriteArticle_agrees`).  A run may write documents besides, and one of them
may be a link to the file of the articles (`not_rewriteArticle_agrees`).
-/

namespace HelpCenter

namespace Store

variable {s : Store} {k : KnowledgeBase} {t t' : FileTree}

/-- No other file that is saved leads to the file of the articles. -/
def KeepsArticles (s : Store) (articles : List Article) (t : FileTree) : Prop :=
  ∀ f ∈ s.gapsFile :: s.laterFiles articles, ¬ t.Meet f s.itemsFile

instance (s : Store) (articles : List Article) (t : FileTree) :
    Decidable (s.KeepsArticles articles t) :=
  inferInstanceAs (Decidable (∀ f ∈ _, _))

theorem touches_saveRest (s : Store) (k : KnowledgeBase) :
    Action.Respects (FileTree.Touches (s.gapsFile :: s.laterFiles k.articles)) (s.saveRest k) := by
  refine (touches_writeState (List.mem_cons_self ..) _).bind fun _ w => ?_
  exact (touches_saveOthers s k w).mono fun f hf => List.mem_cons_of_mem _ hf

/-- The articles that are stored once a knowledge base was saved. -/
theorem Turns.stored_eq (h : s.Turns k t t') (hkeeps : s.KeepsArticles k.articles t') :
    s.stored t' = restored k.articles := by
  obtain ⟨w, w', -, hsave, rfl⟩ := h
  rw [save_eq] at hsave
  obtain ⟨⟨⟩, w₁, hitems, hrest⟩ := Action.perform_bind_eq_ok hsave
  obtain ⟨-, hnames, hprint, hholds⟩ := writeState_eq_ok hitems
  have htouches := s.touches_saveRest k w₁
  rw [hrest] at htouches
  exact stored_of_saved ⟨hnames, hprint, hholds.touches htouches hkeeps⟩

end Store

namespace Refresher

variable {r : Refresher} {t : FileTree} {now : Moment} {target : Place} {id : Text}
  {offline : Bool} {b : Briefing} {old : Article} {p : PlannedTopic} {draft : Draft}
  {result : BatchResult} {out : RefreshOutcome} {ps : List SentPrompt} {i : ℕ}

/-! ## The same plan -/

/-- The article that is written again is the one of the id. -/
theorem Revises.old_eq (h : Revises b now id old p draft)
    (hids : (b.base.articles.map Article.id).Nodup) {a : Article} (ha : a ∈ b.base.articles)
    (hid : a.id = id) : old = a := by
  have hfound := (unpinnedArticle_eq_ok h.found).1
  have hold : old.id = id := by simpa using List.find?_some hfound
  exact List.inj_on_of_nodup_map hids (List.mem_of_find?_eq_some hfound) ha (hold.trans hid.symm)

/-- What is planned for the single article is in the plan of a run. -/
theorem Revises.mem_plan (h : Revises b now id old p draft)
    (htopics : (b.base.articles.map Article.topic).Nodup)
    (hcategory : b.settings.docs.topics.contains (topicCategory old.topic) = true)
    {plan : List PlannedTopic}
    (hplan : planArticles b.codeMap b.settings.docs.topics b.base.articles false = .ok plan) :
    p ∈ plan ∧ p.needsWriting = true ∧ p.feature.id = old.topic ∧ p.decision.existing? = some old := by
  obtain ⟨hfound, hpin⟩ := unpinnedArticle_eq_ok h.found
  obtain ⟨f, hf, htopic, context, hcontext, rfl⟩ := planAgain_eq_ok h.planned
  refine ⟨update_mem_planArticles hplan (List.mem_filter.2 ⟨hf, ?_⟩) ?_ hpin hcontext, rfl, htopic, rfl⟩
  · rw [← htopic] at hcategory
    exact hcategory
  · rw [htopic]
    exact articleOn_of_nodup htopics (List.mem_of_find?_eq_some hfound)

/-! ## The same article -/

/-- A run puts the article in the place of the old one. -/
theorem Revises.getElem?_batch (h : Revises b now id old p draft) {plan : List PlannedTopic}
    (hplan : planArticles b.codeMap b.settings.docs.topics b.base.articles false = .ok plan)
    (hids : (b.base.articles.map Article.id).Nodup)
    (hfeatures : (b.codeMap.features.map (·.id)).Nodup) (hp : p ∈ plan) (hneeds : p.needsWriting = true)
    (hold : p.decision.existing? = some old) (hi : b.base.articles[i]? = some old) :
    ((b.desk now).write b.codeMap plan b.base.articles false).articles[i]? =
      some (p.article draft b.codeMap now) := by
  have hwritten : (b.desk now).written b.codeMap p = some (p.article draft b.codeMap now) := by
    unfold Desk.written
    rw [if_pos hneeds, h.draft]
    rfl
  rw [Desk.write_getElem?_existing hplan hids hfeatures hp hold hi, hwritten]
  rfl

/-! ## The same stored article -/

theorem Briefs.articles_eq (hb : r.Briefs t now target offline b) :
    b.base.articles = b.store.stored t :=
  congrArg KnowledgeBase.articles hb.base_eq

/-- The articles that are saved after one was written again can all be read. -/
theorem Briefs.exists_readConfidence_replaced (hb : r.Briefs t now target offline b)
    (hp : p.feature ∈ b.codeMap.features) (draft : Draft) :
    ∀ a ∈ replaced b.base.articles id (p.article draft b.codeMap now),
      ∃ x, a.readConfidence = .ok x := by
  intro a ha
  obtain ⟨c, hc, rfl⟩ := List.mem_map.1 ha
  split
  · exact p.exists_readConfidence_article (hb.isScanOf.known _ hp) draft _ now
  · exact Store.exists_readConfidence_of_mem_stored (hb.articles_eq ▸ hc)

/-- The articles that are saved after a run can all be read. -/
theorem Briefs.exists_readConfidence_batch (hb : r.Briefs t now target offline b)
    {plan : List PlannedTopic}
    (hplan : planArticles b.codeMap b.settings.docs.topics b.base.articles false = .ok plan) :
    ∀ a ∈ ((b.desk now).write b.codeMap plan b.base.articles false).articles,
      ∃ x, a.readConfidence = .ok x := by
  intro a ha
  rcases Desk.mem_write ha with hold | ⟨p, hp, draft, rfl⟩
  · exact Store.exists_readConfidence_of_mem_stored (hb.articles_eq ▸ hold)
  · have hf : p.feature ∈ b.codeMap.features :=
      List.mem_of_mem_filter (mem_planArticles hplan hp).1
    exact p.exists_readConfidence_article (hb.isScanOf.known _ hf) draft _ now

/-- What is loaded in a place after saving, if no other file was written over the articles. -/
theorem exists_stored_getElem? {s : Store} {k : KnowledgeBase} {t' : FileTree} {a : Article}
    (hturns : s.Turns k t t') (hkeeps : s.KeepsArticles k.articles t')
    (hread : ∀ a ∈ k.articles, ∃ x, a.readConfidence = .ok x) (hi : k.articles[i]? = some a) :
    ∃ c, (s.stored t')[i]? = some c ∧ Article.ofJson a.toJson.normal = .ok c := by
  rw [hturns.stored_eq hkeeps]
  exact (Store.forall₂_restored hread).exists_getElem? hi

/-- How the articles in one place come out, of `old` as it was stored: the prompt that is sent for the
single article is the one that the run sends for its topic, the run has the same article in that
place, and unless another file is written over theirs, both leave the same article to be loaded. -/
structure Agrees (b : Briefing) (w w₁ w₂ : Workspace) (i : ℕ) (old a : Article)
    (result : BatchResult) : Prop where
  prompts : ∃ p ∈ result.plan, p.needsWriting = true ∧ p.decision.existing? = some old ∧
    (∀ q ∈ result.plan, q.feature.id = old.topic → q = p) ∧
    w₁.sent = w.sent ++ [b.prompt w.now p] ∧
    w₂.sent = w.sent ++ (result.plan.filter (·.needsWriting)).map (b.prompt w.now)
  written : result.articles[i]? = some a
  stored : b.store.KeepsArticles (replaced b.base.articles old.id a) w₁.files →
    b.store.KeepsArticles result.articles w₂.files →
    ∃ c, Article.ofJson a.toJson.normal = .ok c ∧ (b.store.stored w₁.files)[i]? = some c ∧
      (b.store.stored w₂.files)[i]? = some c

/-- Writing a single article again changes no file if it fails before everything is there for the new
article.  If it succeeds and a run on everything does too, from the same files at the same time and
with the same author, they agree on the article. -/
theorem rewriteArticle_agrees (r : Refresher) (target : Place) (id : Text) (offline : Bool)
    (w : Workspace) :
    (∀ e w₁, (r.rewriteArticle target id offline).perform w = (.error e, w₁) →
      w₁.files = w.files ∨ ∃ b old p draft, r.Briefs w.files w.now target offline b ∧
        Revises b w.now id old p draft ∧ b.store.Breaks (b.saved w.now
          (replaced b.base.articles id (p.article draft b.codeMap w.now))) e w.files w₁.files) ∧
    ∀ (b : Briefing) (old a : Article) (i : ℕ) (out : RefreshOutcome) (w₁ w₂ : Workspace),
      r.Briefs w.files w.now target offline b → AreDistinct (b.store.stored w.files) →
      (b.store.stored w.files)[i]? = some old → old.id = id →
      b.settings.docs.topics.contains (topicCategory old.topic) = true →
      (r.rewriteArticle target id offline).perform w = (.ok a, w₁) →
      (r.run target { offline }).perform w = (.ok out, w₂) →
      ∃ result, out.result = some result ∧ Agrees b w w₁ w₂ i old a result := by
  refine ⟨fun e w₁ hrewrite => ?_, fun b old a i out w₁ w₂ hb hdistinct hi hid hcategory hrewrite
    hrun => ?_⟩
  · obtain ⟨ps, -, hend⟩ := concludes_rewriteArticle r target id offline w rfl rfl
    rw [hrewrite] at hend
    generalize w₁.files = t' at hend ⊢
    cases hend with
    | failed => exact .inl rfl
    | unsaved hb hp hbreaks => exact .inr ⟨_, _, _, _, hb, hp, hbreaks⟩
  obtain ⟨ps, hsent₁, hend⟩ := concludes_rewriteArticle r target id offline w rfl rfl
  rw [hrewrite] at hsent₁ hend
  obtain ⟨qs, hsent₂, hruns⟩ := concludes_run r target false offline w rfl rfl
  rw [hrun] at hsent₂ hruns
  obtain ⟨b', result, hruns⟩ := hruns out rfl
  -- both are briefed alike, so that what is planned for the article alone is a part of the batch
  obtain rfl := hb.unique hruns.briefs
  obtain ⟨plan, hplan, hresult⟩ := Desk.generate_eq_ok_iff.1 hruns.batch
  rw [← hb.articles_eq] at hdistinct hi
  obtain ⟨b', old', p, draft, hb', hp, rfl, rfl, hturns⟩ := hend.of_ok
  obtain rfl := hb.unique hb'
  obtain rfl := hp.old_eq hdistinct.ids (List.mem_of_getElem? hi) hid
  subst hid
  obtain ⟨hmem, hneeds, htopic, hexisting⟩ := hp.mem_plan hdistinct.topics hcategory hplan
  have hwritten := hp.getElem?_batch hplan hdistinct.ids hb.isScanOf.nodup hmem hneeds hexisting hi
  subst hresult
  refine ⟨_, hruns.outcome, ⟨p, ?_, hneeds, hexisting, ?_, hsent₁, ?_⟩, hwritten, ?_⟩
  · rw [Desk.write_plan]
    exact hmem
  · intro q hq hqtopic
    rw [Desk.write_plan] at hq
    exact List.inj_on_of_nodup_map (nodup_planArticles hplan hb.isScanOf.nodup) hq hmem
      (hqtopic.trans htopic.symm)
  · rw [← hruns.prompts]
    exact hsent₂
  · intro hkeeps₁ hkeeps₂
    have hreplaced : (replaced b.base.articles old'.id (p.article draft b.codeMap w.now))[i]? =
        some (p.article draft b.codeMap w.now) := by
      unfold replaced
      rw [List.getElem?_map, hi, Option.map_some, if_pos rfl]
    have hf : p.feature ∈ b.codeMap.features := feature_mem_of_planAgain hp.planned
    obtain ⟨c, hc, hread⟩ := exists_stored_getElem? hturns hkeeps₁
      (hb.exists_readConfidence_replaced hf draft) hreplaced
    obtain ⟨c', hc', hread'⟩ := exists_stored_getElem? hruns.turns hkeeps₂
      (hb.exists_readConfidence_batch hplan) hwritten
    obtain rfl := Except.ok.inj (hread.symm.trans hread')
    exact ⟨c, hread, hc, hc'⟩

end Refresher

/-! ## A run that writes a first article besides -/

/-- A project with two topics on the same source, one with a stored article, and further files. -/
def newTopic (more : List (Place × Entry)) : Workspace where
  files := ⟨(pairProject "billing.plan" "billing.new").files.entries ++
    (Store.storedArticle (lit "kb-1")).files.entries ++ more⟩
  now := ⟨1714608000000000⟩

/-- The settings of the project. -/
def newTopicSettings (more : List (Place × Entry)) : Settings :=
  (Settings.load (newTopic more).files []).toOption.getD { root := [] }

/-- Where its articles are stored. -/
def newTopicStore (more : List (Place × Entry)) : Store := .ofSettings (newTopicSettings more)

/-- An author who always gives the same answer. -/
def plainRefresher : Refresher := { author := some fun _ => .ok (lit "x"), send := fun _ => .timedOut }

/-- The stored article is written again. -/
def rewritten (more : List (Place × Entry)) : Except Failure Article × Workspace :=
  (plainRefresher.rewriteArticle [] (lit "kb-1") false).perform (newTopic more)

/-- A run on the project. -/
def rerun (more : List (Place × Entry)) : Except Failure RefreshOutcome × Workspace :=
  (plainRefresher.run [] {}).perform (newTopic more)

/-- One article is stored, and both programs get by with the files. -/
def Workable (more : List (Place × Entry)) : Prop :=
  ((newTopicStore more).stored (newTopic more).files).map Article.key =
      [(lit "kb-1", lit "billing.plan")] ∧
    (newTopicSettings more).docs.topics.contains (lit "billing") = true ∧
    (rewritten more).1.toOption.isSome = true ∧ (rerun more).1.toOption.isSome = true

instance (more : List (Place × Entry)) : Decidable (Workable more) :=
  inferInstanceAs (Decidable (_ ∧ _))

/-- The two programs start from the same briefing and the one article. -/
theorem Workable.exists_briefing {more : List (Place × Entry)} (h : Workable more) :
    ∃ b old a out,
      plainRefresher.Briefs (newTopic more).files (newTopic more).now [] false b ∧
      b.store = newTopicStore more ∧ AreDistinct (b.store.stored (newTopic more).files) ∧
      (b.store.stored (newTopic more).files)[0]? = some old ∧ old.id = lit "kb-1" ∧
      b.settings.docs.topics.contains (topicCategory old.topic) = true ∧
      rewritten more = (.ok a, (rewritten more).2) ∧ rerun more = (.ok out, (rerun more).2) := by
  obtain ⟨hkeys, htopics, hrewritten, hrerun⟩ := h
  obtain ⟨a, ha⟩ := Action.exists_eq_ok_of_isSome hrewritten
  obtain ⟨out, hout⟩ := Action.exists_eq_ok_of_isSome hrerun
  obtain ⟨ps, -, hend⟩ := Refresher.concludes_rewriteArticle plainRefresher [] (lit "kb-1") false
    (newTopic more) rfl rfl
  change Refresher.Rewriting _ _ _ _ _ _ (rewritten more).1 _ _ at hend
  rw [ha] at hend
  obtain ⟨b, -, -, -, hb, -⟩ := hend.of_ok
  have hsettings : newTopicSettings more = b.settings := by
    unfold newTopicSettings
    rw [show Settings.load (newTopic more).files [] = .ok b.settings from hb.settings]
    rfl
  have hstore : b.store = newTopicStore more := congrArg Store.ofSettings hsettings.symm
  rw [← hstore] at hkeys
  obtain ⟨old, hold, hkey⟩ := List.map_eq_singleton_iff.1 hkeys
  obtain ⟨hid, htopic⟩ := Prod.ext_iff.1 hkey
  refine ⟨b, old, a, out, hb, hstore, ?_, by rw [hold]; rfl, hid, ?_, ha, hout⟩
  · rw [hold]
    exact ⟨List.nodup_singleton _, List.nodup_singleton _⟩
  · rw [show old.topic = lit "billing.plan" from htopic, ← hsettings]
    exact htopics

/-- Neither of them saves a file over the articles. -/
def SavesApart (more : List (Place × Entry)) : Prop :=
  (∀ a ∈ (rewritten more).1.toOption, (newTopicStore more).KeepsArticles
      (Refresher.replaced ((newTopicStore more).stored (newTopic more).files) (lit "kb-1") a)
      (rewritten more).2.files) ∧
    ∀ out ∈ (rerun more).1.toOption, ∀ result ∈ out.result,
      (newTopicStore more).KeepsArticles result.articles (rerun more).2.files

instance (more : List (Place × Entry)) : Decidable (SavesApart more) :=
  inferInstanceAs (Decidable (_ ∧ _))

theorem checks_newTopic : Workable [] ∧ SavesApart [] := by
  decide +kernel

/-- An article that is written again agrees with the run that writes a second one besides. -/
theorem rewriteArticle_agrees_newTopic : ∃ a out c, rewritten [] = (.ok a, (rewritten []).2) ∧
    rerun [] = (.ok out, (rerun []).2) ∧ Article.ofJson a.toJson.normal = .ok c ∧
      ((newTopicStore []).stored (rewritten []).2.files)[0]? = some c ∧
      ((newTopicStore []).stored (rerun []).2.files)[0]? = some c := by
  obtain ⟨hworkable, hone, hall⟩ := checks_newTopic
  obtain ⟨b, old, a, out, hb, hstore, hdistinct, hfirst, hid, hcategory, ha, hout⟩ :=
    hworkable.exists_briefing
  obtain ⟨result, hresult, hagrees⟩ := (Refresher.rewriteArticle_agrees plainRefresher []
    (lit "kb-1") false (newTopic [])).2 b old a 0 out _ _ hb hdistinct hfirst hid hcategory ha hout
  have hkeeps := hone a (by rw [ha]; rfl)
  have hkeeps' := hall out (by rw [hout]; rfl) result hresult
  rw [← hstore] at hkeeps hkeeps' ⊢
  rw [← hb.articles_eq, ← hid] at hkeeps
  obtain ⟨c, hread, hc, hc'⟩ := hagrees.stored hkeeps hkeeps'
  exact ⟨a, out, c, ha, hout, hread, hc, hc'⟩

/-- A document of the new article that is a link to the file of the articles. -/
def linkToItems : List (Place × Entry) := [([lit ".kodex", lit "docs"], .dir),
  ([lit ".kodex", lit "docs", lit "billing"], .dir),
  ([lit ".kodex", lit "docs", lit "billing", lit "new.md"], .link (lit "../../items.json"))]

theorem checks_linkToItems : Workable linkToItems ∧
    ((newTopicStore linkToItems).stored (rewritten linkToItems).2.files).length = 1 ∧
    ((newTopicStore linkToItems).stored (rerun linkToItems).2.files).length = 0 := by
  decide +kernel

/-- A run that writes the document of another article over the articles leaves nothing to be loaded,
where writing the one article again stores it. -/
theorem not_rewriteArticle_agrees : ¬ ∀ (r : Refresher) (target : Place) (id : Text) (offline : Bool)
    (w : Workspace) (b : Briefing) (old a : Article) (i : ℕ) (out : RefreshOutcome)
    (w₁ w₂ : Workspace), r.Briefs w.files w.now target offline b →
      AreDistinct (b.store.stored w.files) → (b.store.stored w.files)[i]? = some old →
      old.id = id → b.settings.docs.topics.contains (topicCategory old.topic) = true →
      (r.rewriteArticle target id offline).perform w = (.ok a, w₁) →
      (r.run target { offline }).perform w = (.ok out, w₂) →
      (b.store.stored w₁.files)[i]? = (b.store.stored w₂.files)[i]? := by
  intro hsame
  obtain ⟨hworkable, hone, hnone⟩ := checks_linkToItems
  obtain ⟨b, old, a, out, hb, hstore, hdistinct, hfirst, hid, hcategory, ha, hout⟩ :=
    hworkable.exists_briefing
  have h := hsame plainRefresher [] (lit "kb-1") false (newTopic linkToItems) b old a 0 out _ _ hb
    hdistinct hfirst hid hcategory ha hout
  rw [hstore, List.eq_nil_of_length_eq_zero hnone, List.getElem?_nil, List.getElem?_eq_none_iff,
    hone] at h
  cases h

end HelpCenter

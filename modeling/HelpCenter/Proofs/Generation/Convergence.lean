import HelpCenter.Proofs.Generation.Accounting

/-!
# Nothing is left to write after a batch

A settled article is pinned or written from all files of its feature, and planning for changes only
skips it.  A batch without failures settles the article on each planned topic (`write_settles`), so
the next batch for changes has nothing to ask and nothing to write (`generate_converges`).
-/

namespace HelpCenter

variable {d : Desk} {m : CodeMap} {categories : List Text} {articles : List Article}
  {plan : List PlannedTopic} {p : PlannedTopic} {a : Article}

/-! ## Settled articles -/

namespace Feature

variable {f : Feature}

/-- The article is pinned, or there is no evidence in files that it was not written from. -/
def IsSettled (f : Feature) (a : Article) : Prop := a.IsPinned ∨ f.hasNewFiles a = .ok false

theorem decide_of_isSettled (h : f.IsSettled a) :
    ∃ decision, f.decide m (some a) true = .ok decision ∧ decision.context? = none := by
  unfold decide
  by_cases hp : a.IsPinned
  · have hpinned := (Article.isPinned_iff a).2 hp
    exact ⟨.skipPinned a, by simp only [hpinned, if_true]; rfl, rfl⟩
  · have hpinned : ¬ (a.pinned || Decidable.decide (a.status = lit "pinned")) = true :=
      fun e => hp ((Article.isPinned_iff a).1 e)
    have hnew := h.resolve_left hp
    exact ⟨.skipUnchanged a, by simp only [hpinned, hnew]; rfl, rfl⟩

/-- Only settled articles are left as they are. -/
theorem isSettled_of_decide {existing : Option Article} {changedOnly : Bool} {decision : Decision}
    (h : f.decide m existing changedOnly = .ok decision) (hskip : decision.context? = none) :
    ∃ a, existing = some a ∧ f.IsSettled a := by
  rcases decide_eq_ok h with ⟨context, -, -, rfl⟩ | ⟨a, he, hp, -⟩ | ⟨a, he, -, -, hnew, -⟩ |
    ⟨a, context, -, -, -, -, rfl⟩
  · cases hskip
  · exact ⟨a, he, .inl hp⟩
  · exact ⟨a, he, .inr hnew⟩
  · cases hskip

end Feature

theorem PlannedTopic.isSettled_article (p : PlannedTopic) (draft : Draft) (m : CodeMap)
    (now : Moment) : p.feature.IsSettled (p.article draft m now) := by
  have hkeys : AreKeys (p.feature.sourceFiles.map Json.str) := by
    intro v hv
    obtain ⟨file, -, rfl⟩ := List.mem_map.1 hv
    rfl
  have htexts : (p.feature.sourceFiles.map Json.str).filterMap Json.str? =
      p.feature.sourceFiles := by
    rw [List.filterMap_map]
    exact List.filterMap_some
  have hknown : (p.feature.sourceFiles.any fun file =>
      !p.feature.sourceFiles.contains file) = false := by
    simp
  refine .inr ?_
  show (do
    let known ← keyTexts (p.feature.sourceFiles.map Json.str)
    return p.feature.sourceFiles.any fun file => !known.contains file) = _
  rw [keyTexts_eq_ok hkeys, htexts]
  exact congrArg Except.ok hknown

/-! ## Batches -/

/-- With a settled article for each feature, a plan for changes asks for nothing. -/
theorem planArticles_of_settled
    (h : ∀ f ∈ eligibleFeatures m.features categories,
      ∃ a, articleOn articles f.id = some a ∧ f.IsSettled a) :
    ∃ plan, planArticles m categories articles true = .ok plan ∧
      ∀ p ∈ plan, p.needsWriting = false := by
  have hplan : ∃ plan, planArticles m categories articles true = .ok plan := by
    refine Except.exists_mapM_eq_ok fun f hf => ?_
    obtain ⟨a, ha, hsettled⟩ := h f hf
    obtain ⟨decision, hd, -⟩ := Feature.decide_of_isSettled (m := m) hsettled
    have hdecide : f.decide m (articleOn articles f.id) true = .ok decision := ha ▸ hd
    exact ⟨⟨f, decision⟩, Except.bind_eq_ok_iff.2 ⟨decision, hdecide, rfl⟩⟩
  obtain ⟨plan, hplan⟩ := hplan
  refine ⟨plan, hplan, fun p hp => ?_⟩
  obtain ⟨hf, hd⟩ := mem_planArticles hplan hp
  obtain ⟨a, ha, hsettled⟩ := h p.feature hf
  obtain ⟨decision, hd', hskip⟩ := Feature.decide_of_isSettled (m := m) hsettled
  rw [ha, hd'] at hd
  unfold PlannedTopic.needsWriting
  rw [← Except.ok.inj hd, hskip]
  rfl

namespace Desk

theorem write_of_nothing_pending (d : Desk) (m : CodeMap) (articles : List Article) (trial : Bool)
    (h : ∀ p ∈ plan, p.needsWriting = false) :
    d.write m plan articles trial = { articles, plan, skipped := plan.length } := by
  have hnone : plan.filter (·.needsWriting) = [] :=
    List.filter_eq_nil_iff.2 fun p hp => by simp [h p hp]
  unfold write
  rw [hnone]
  cases trial <;> rfl

variable {changedOnly : Bool}

theorem articleOn_write (h : planArticles m categories articles changedOnly = .ok plan)
    (hids : (articles.map Article.id).Nodup) (hfeatures : (m.features.map (·.id)).Nodup)
    (hp : p ∈ plan) :
    articleOn (d.write m plan articles false).articles p.feature.id =
      (d.written m p).or (articleOn articles p.feature.id) := by
  rw [articleOn_eq_getLast?, articlesOn_write h hids hfeatures hp, articleOn_eq_getLast?]
  cases d.written m p with
  | none => rfl
  | some b => rw [List.getLast?_append, List.getLast?_singleton, Option.some_or, Option.some_or]

theorem isSome_written (hneeds : p.needsWriting = true)
    (hdraft : (d.draft p).toOption.isSome = true) : ∃ a, d.written m p = some a := by
  obtain ⟨draft, hdraft⟩ := Option.isSome_iff_exists.1 hdraft
  exact ⟨p.article draft m d.now, by unfold written; rw [if_pos hneeds, hdraft]; rfl⟩

/-- A batch without failures settles the article on each planned topic. -/
theorem write_settles (h : planArticles m categories articles changedOnly = .ok plan)
    (hids : (articles.map Article.id).Nodup) (hfeatures : (m.features.map (·.id)).Nodup)
    (hfailures : (d.write m plan articles false).failures = []) (hp : p ∈ plan) :
    ∃ a, articleOn (d.write m plan articles false).articles p.feature.id = some a ∧
      p.feature.IsSettled a := by
  rw [articleOn_write h hids hfeatures hp]
  by_cases hneeds : p.needsWriting = true
  · obtain ⟨-, -, -, hfailed⟩ := write_counts (d := d) h
    have hdraft : (d.draft p).toOption.isSome = true :=
      failed_eq_nil_iff.1 (hfailed.symm.trans hfailures) p (List.mem_filter.2 ⟨hp, hneeds⟩)
    obtain ⟨a, ha⟩ := isSome_written (m := m) hneeds hdraft
    obtain ⟨-, draft, -, rfl⟩ := written_eq_some ha
    exact ⟨_, by rw [ha, Option.some_or], p.isSettled_article draft m d.now⟩
  · have hskip : p.decision.context? = none := by
      simpa [PlannedTopic.needsWriting] using hneeds
    obtain ⟨a, ha, hsettled⟩ := Feature.isSettled_of_decide (mem_planArticles h hp).2 hskip
    exact ⟨a, by rw [written_of_not_needsWriting hneeds, Option.none_or, ha], hsettled⟩

/-- After a batch without failures, a batch for changes asks no author anything, skips every
eligible feature and leaves the articles as they are. -/
theorem generate_converges (d again : Desk) (m : CodeMap) (categories : List Text)
    (articles : List Article) (changedOnly : Bool)
    (hids : (articles.map fun a => a.id).Nodup) (hfeatures : (m.features.map fun f => f.id).Nodup) :
    (∀ r, d.generate m categories articles changedOnly false = .ok r → r.failures = [] →
      ∃ r', (∀ other, (again.withAuthor other).generate m categories r.articles true false =
          .ok r') ∧
        again.asked r'.plan = [] ∧ r'.generated = 0 ∧ r'.updated = 0 ∧ r'.failures = [] ∧
        r'.skipped = (eligibleFeatures m.features categories).length ∧
        r'.articles = r.articles) ∧
    ((∀ p ∈ m.pages, AreKeys p.sourceFiles) → (∀ a ∈ articles, AreKeys a.sourceFiles) →
      ∃ r, d.generate m categories articles changedOnly false = .ok r) := by
  constructor
  · intro r hr hfailures
    obtain ⟨plan, hplan, rfl⟩ := generate_eq_ok_iff.1 hr
    have hsettled : ∀ f ∈ eligibleFeatures m.features categories,
        ∃ a, articleOn (d.write m plan articles false).articles f.id = some a ∧ f.IsSettled a := by
      intro f hf
      obtain ⟨p, hp, rfl⟩ := List.mem_map.1 (map_feature_planArticles hplan ▸ hf)
      exact write_settles hplan hids hfeatures hfailures hp
    obtain ⟨plan', hplan', hnone⟩ := planArticles_of_settled hsettled
    have hlength : plan'.length = (eligibleFeatures m.features categories).length := by
      rw [← map_feature_planArticles hplan', List.length_map]
    let articles' := (d.write m plan articles false).articles
    refine ⟨{ articles := articles', plan := plan', skipped := plan'.length },
      fun other => Except.bind_ok hplan' ?_, ?_, rfl, rfl, rfl, hlength, rfl⟩
    · exact congrArg Except.ok (write_of_nothing_pending _ m articles' false hnone)
    · exact List.map_eq_nil_iff.2 (List.filter_eq_nil_iff.2 fun p hp => by simp [hnone p hp])
  · exact d.exists_generate categories changedOnly false

/-- A first article, an update and a pinned article are all settled by one batch. -/
theorem generate_converges_mixed :
    let pinned : Article := { id := lit "a", topic := lit "billing.plan", pinned := true }
    let shown : Article := { id := lit "b", topic := lit "billing.card" }
    let d : Desk := ⟨fun _ => .ok (lit "New text"), [], lit "Shop", ⟨0⟩⟩
    let feature (id : Text) : Feature := ⟨id, .double (.ofInt 1), [⟨lit "price", lit "a.ts", 1⟩]⟩
    let m : CodeMap :=
      { features := [feature (lit "billing.plan"), feature (lit "billing.card"),
          feature (lit "billing.tax")] }
    (([pinned, shown].map fun a => a.id).Nodup ∧ (m.features.map fun f => f.id).Nodup) ∧
    ∃ r r', d.generate m [lit "billing"] [pinned, shown] false false = .ok r ∧ r.failures = [] ∧
      r.generated = 1 ∧ r.updated = 1 ∧
      d.generate m [lit "billing"] r.articles true false = .ok r' ∧ d.asked r'.plan = [] ∧
      r'.skipped = 3 ∧ r'.articles = r.articles := by
  intro pinned shown d feature m
  have hids : ([pinned, shown].map fun a => a.id).Nodup := by decide
  have hfeatures : (m.features.map fun f => f.id).Nodup := by decide
  obtain ⟨hagain, hsome⟩ :=
    generate_converges d d m [lit "billing"] [pinned, shown] false hids hfeatures
  obtain ⟨r, hr⟩ := hsome (by simp [m]) (by simp [AreKeys, pinned, shown])
  have hcounts : (d.generate m [lit "billing"] [pinned, shown] false false).toOption.map
      (fun r => (r.failures, r.generated, r.updated)) = some ([], 1, 1) := by decide +kernel
  rw [hr] at hcounts
  obtain ⟨hfailures, hcounts⟩ := Prod.mk.inj (Option.some.inj hcounts)
  obtain ⟨hgenerated, hupdated⟩ := Prod.mk.inj hcounts
  obtain ⟨r', hr', hasked, -, -, -, hskipped, harticles⟩ := hagain r hr hfailures
  exact ⟨⟨hids, hfeatures⟩, r, r', hr, hfailures, hgenerated, hupdated, hr' d.author, hasked,
    hskipped, harticles⟩

end Desk

end HelpCenter

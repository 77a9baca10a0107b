import HelpCenter.Proofs.Article.Identity
import HelpCenter.Proofs.Generation.Batch

/-!
# Ids and topics of a batch

A batch adds one article for each topic that has none so far and whose draft succeeds
(`Desk.created`), and leaves the ids of the others as they are (`write_ids`).  As long as no id
occurs twice the topics stay with their ids (`write_keys`).
-/

namespace HelpCenter

/-- The topics of a plan on which a first article is written. -/
def Desk.created (d : Desk) (plan : List PlannedTopic) : List Text :=
  (plan.filter fun p => p.decision.existing?.isNone && (d.draft p).toOption.isSome).map
    (·.feature.id)

namespace BatchResult

variable {d : Desk} {m : CodeMap} {r : BatchResult} {p : PlannedTopic} {plan : List PlannedTopic}
variable {β : Type}

/-! ## One step -/

/-- Putting an article replaces one that agrees with it in `g`, or adds it at the end. -/
theorem put_map {g : Article → β} {a : Article}
    (hold : ∀ old, p.decision.existing? = some old →
      old.id ∈ r.articles.map Article.id ∧ ∀ b ∈ r.articles, b.id = old.id → g b = g a) :
    (r.put p a).articles.map g =
      r.articles.map g ++ if p.decision.existing?.isNone then [g a] else [] := by
  unfold put
  cases he : p.decision.existing? with
  | none => simp
  | some old =>
      obtain ⟨hmem, hsame⟩ := hold old he
      rw [Option.bind_some]
      cases hr : replace? old.id a r.articles with
      | none =>
          obtain ⟨b, hb, hid⟩ := List.mem_map.1 hmem
          exact absurd hid (replace?_eq_none_iff.1 hr b hb)
      | some articles =>
          obtain ⟨l₁, b, l₂, hl, hb, -, rfl⟩ := replace?_eq_some hr
          have hgb : g b = g a := hsame b (by simp [hl]) hb
          simp [hl, hgb]

theorem step_map {g : Article → β} {g' : Text → β}
    (hold : ∀ old draft, p.decision.existing? = some old → old.id ∈ r.articles.map Article.id ∧
      ∀ b ∈ r.articles, b.id = old.id → g b = g (p.article draft m d.now))
    (hnew : ∀ draft, p.decision.existing? = none →
      g (p.article draft m d.now) = g' p.feature.id) :
    (step d m r p).articles.map g = r.articles.map g ++ (d.created [p]).map g' := by
  unfold step Desk.created
  cases hd : d.draft p with
  | error e => simp [hd, Except.toOption]
  | ok draft =>
      have hput := put_map (r := r) (a := p.article draft m d.now) fun old he => hold old draft he
      refine hput.trans ?_
      cases he : p.decision.existing? with
      | none => simp [hd, he, Except.toOption, hnew draft he]
      | some old => simp [he]

theorem step_ids
    (h : ∀ old, p.decision.existing? = some old → old.id ∈ r.articles.map Article.id) :
    (step d m r p).articles.map Article.id =
      r.articles.map Article.id ++ (d.created [p]).map (newArticleId · d.now) := by
  refine step_map (fun old draft he => ⟨h old he, fun b _ hb => ?_⟩) fun draft he => ?_
  · rw [hb, PlannedTopic.article, he]
    rfl
  · rw [PlannedTopic.article, he]
    rfl

theorem step_keys
    (h : ∀ old, p.decision.existing? = some old →
      (old.id, p.feature.id) ∈ r.articles.map Article.key)
    (hn : (r.articles.map Article.id).Nodup) :
    (step d m r p).articles.map Article.key =
      r.articles.map Article.key ++
        (d.created [p]).map fun t => (newArticleId t d.now, t) := by
  refine step_map (fun old draft he => ?_) fun draft he => ?_
  · obtain ⟨c, hc, hkey⟩ := List.mem_map.1 (h old he)
    obtain ⟨hid, htopic⟩ := Prod.mk.inj hkey
    refine ⟨hid ▸ List.mem_map_of_mem hc, fun b hb hbid => ?_⟩
    -- no other article has this id
    obtain rfl : b = c := List.inj_on_of_nodup_map hn hb hc (hbid.trans hid.symm)
    rw [PlannedTopic.article, he]
    exact Prod.ext hid htopic
  · rw [PlannedTopic.article, he]
    rfl

/-! ## All steps -/

theorem created_cons (d : Desk) (p : PlannedTopic) (plan : List PlannedTopic) :
    d.created (p :: plan) = d.created [p] ++ d.created plan := by
  unfold Desk.created
  rw [← List.map_append, ← List.filter_append, List.singleton_append]

theorem foldl_step_ids
    (h : ∀ p ∈ plan, ∀ old, p.decision.existing? = some old →
      old.id ∈ r.articles.map Article.id) :
    (plan.foldl (step d m) r).articles.map Article.id =
      r.articles.map Article.id ++ (d.created plan).map (newArticleId · d.now) := by
  induction plan generalizing r with
  | nil => simp [Desk.created]
  | cons p plan ih =>
      obtain ⟨hp, hplan⟩ := List.forall_mem_cons.1 h
      have hstep := step_ids (d := d) (m := m) hp
      rw [List.foldl_cons, ih fun q hq old he => ?_, hstep, created_cons d p plan, List.map_append,
        List.append_assoc]
      rw [hstep]
      exact List.mem_append_left _ (hplan q hq old he)

theorem foldl_step_keys
    (h : ∀ p ∈ plan, ∀ old, p.decision.existing? = some old →
      (old.id, p.feature.id) ∈ r.articles.map Article.key)
    (hn : ((plan.foldl (step d m) r).articles.map Article.id).Nodup) :
    (plan.foldl (step d m) r).articles.map Article.key =
      r.articles.map Article.key ++
        (d.created plan).map fun t => (newArticleId t d.now, t) := by
  induction plan generalizing r with
  | nil => simp [Desk.created]
  | cons p plan ih =>
      -- ids are only added, so they are different at each step if they are in the end
      have hr : (r.articles.map Article.id).Nodup := by
        rw [foldl_step_ids fun q hq old he => ?_] at hn
        · exact hn.of_append_left
        · rw [map_id_eq]
          exact List.mem_map_of_mem (h q hq old he)
      obtain ⟨hp, hplan⟩ := List.forall_mem_cons.1 h
      have hstep := step_keys (d := d) (m := m) hp hr
      rw [List.foldl_cons, ih (fun q hq old he => ?_) hn, hstep, created_cons d p plan,
        List.map_append, List.append_assoc]
      rw [hstep]
      exact List.mem_append_left _ (hplan q hq old he)

end BatchResult

/-! ## Planned topics -/

section Plan

variable {m : CodeMap} {categories : List Text} {articles : List Article} {changedOnly : Bool}
  {plan : List PlannedTopic}

/-- The article that a planned topic starts from is the one on that topic. -/
theorem existing?_eq_articleOn
    (h : planArticles m categories articles changedOnly = .ok plan) {p : PlannedTopic}
    (hp : p ∈ plan) : p.decision.existing? = articleOn articles p.feature.id := by
  obtain ⟨-, hd⟩ := mem_planArticles h hp
  obtain ⟨_, ha, -, hd⟩ | ⟨_, ha, -, hd⟩ | ⟨_, ha, -, -, -, hd⟩ | ⟨_, _, ha, -, -, -, hd⟩ :=
    Feature.decide_eq_ok hd
  all_goals rw [ha, hd]; rfl

theorem existing?_mem (h : planArticles m categories articles changedOnly = .ok plan)
    {p : PlannedTopic} (hp : p ∈ plan) {old : Article} (he : p.decision.existing? = some old) :
    old ∈ articles ∧ old.topic = p.feature.id := by
  rw [existing?_eq_articleOn h hp] at he
  exact ⟨articleOn_mem he, articleOn_topic he⟩

theorem map_feature_planArticles
    (h : planArticles m categories articles changedOnly = .ok plan) :
    plan.map (·.feature) = eligibleFeatures m.features categories := by
  have hfeatures := (planArticles_eq_ok h).imp fun f p hp => hp.1.symm
  exact (List.forall₂_eq_eq_eq ▸ List.forall₂_map_right_iff.2 hfeatures).symm

theorem mem_created {d : Desk} {t : Text}
    (h : planArticles m categories articles changedOnly = .ok plan) (ht : t ∈ d.created plan) :
    (∃ f ∈ eligibleFeatures m.features categories, f.id = t) ∧ t ∉ articles.map Article.topic := by
  obtain ⟨p, hp, rfl⟩ := List.mem_map.1 ht
  obtain ⟨hp, hnew⟩ := List.mem_filter.1 hp
  have hnone : p.decision.existing? = none :=
    Option.isNone_iff_eq_none.1 (Bool.and_eq_true_iff.1 hnew).1
  rw [existing?_eq_articleOn h hp, articleOn_eq_none_iff] at hnone
  refine ⟨⟨_, (mem_planArticles h hp).1, rfl⟩, fun hmem => ?_⟩
  obtain ⟨a, ha, hat⟩ := List.mem_map.1 hmem
  exact hnone a ha hat

/-- A plan has one entry for each topic if the features are different. -/
theorem nodup_planArticles (h : planArticles m categories articles changedOnly = .ok plan)
    (hm : (m.features.map (·.id)).Nodup) : (plan.map (·.feature.id)).Nodup := by
  have hmap : plan.map (·.feature.id) = (plan.map (·.feature)).map (·.id) := by
    rw [List.map_map]
    rfl
  rw [hmap, map_feature_planArticles h]
  exact hm.sublist (List.filter_sublist.map _)

theorem created_nodup (d : Desk) (h : planArticles m categories articles changedOnly = .ok plan)
    (hm : (m.features.map (·.id)).Nodup) : (d.created plan).Nodup :=
  (nodup_planArticles h hm).sublist (List.filter_sublist.map _)

end Plan

/-! ## Batches -/

namespace Desk

open BatchResult

variable {d : Desk} {m : CodeMap} {categories : List Text} {articles : List Article}
  {changedOnly : Bool} {plan : List PlannedTopic}

/-- Only topics that are written get a first article. -/
theorem created_needsWriting (d : Desk) (plan : List PlannedTopic) :
    d.created (plan.filter (·.needsWriting)) = d.created plan := by
  unfold created
  rw [List.filter_filter]
  congr 2
  funext p
  unfold PlannedTopic.needsWriting
  cases p.decision <;> simp [Decision.existing?, Decision.context?]

theorem write_ids (h : planArticles m categories articles changedOnly = .ok plan) :
    (d.write m plan articles false).articles.map Article.id =
      articles.map Article.id ++ (d.created plan).map (newArticleId · d.now) := by
  rw [← created_needsWriting d plan]
  refine foldl_step_ids fun p hp old he => ?_
  exact List.mem_map_of_mem (existing?_mem h (List.mem_filter.1 hp).1 he).1

/-- As long as the ids are different, articles are on the topics that they were on. -/
theorem write_keys (h : planArticles m categories articles changedOnly = .ok plan)
    (hn : ((d.write m plan articles false).articles.map Article.id).Nodup) :
    (d.write m plan articles false).articles.map Article.key =
      articles.map Article.key ++ (d.created plan).map fun t => (newArticleId t d.now, t) := by
  rw [← created_needsWriting d plan]
  refine foldl_step_keys (fun p hp old he => ?_) hn
  obtain ⟨hmem, htopic⟩ := existing?_mem h (List.mem_filter.1 hp).1 he
  have hkey : old.key = (old.id, p.feature.id) := Prod.ext rfl htopic
  exact hkey ▸ List.mem_map_of_mem hmem

/-- A batch that writes on features with different ids keeps all ids minted. -/
theorem generate_minted {topics : Set Text} {times : Set Moment}
    (hapart : TellsApart topics times) (h : Minted topics times (articles.map Article.key))
    (hfeatures : (m.features.map (·.id)).Nodup)
    (htopics : ∀ f ∈ eligibleFeatures m.features categories, f.id ∈ topics)
    (hnow : d.now ∈ times) {trial : Bool} {r : BatchResult}
    (hr : d.generate m categories articles changedOnly trial = .ok r) :
    Minted topics times (r.articles.map Article.key) := by
  obtain ⟨plan, hplan, rfl⟩ := generate_eq_ok_iff.1 hr
  cases trial with
  | true => exact h
  | false =>
      have hall := h.append hnow (fun t ht => ?_) (created_nodup d hplan hfeatures)
      · have hids : ((d.write m plan articles false).articles.map Article.id).Nodup := by
          have hnodup := hall.ids_nodup hapart
          rw [List.map_append, ← map_id_eq, List.map_map] at hnodup
          rw [write_ids hplan]
          exact hnodup
        rw [write_keys hplan hids]
        exact hall
      · obtain ⟨⟨f, hf, rfl⟩, hnot⟩ := mem_created hplan ht
        exact ⟨htopics f hf, map_topic_eq articles ▸ hnot⟩

/-- The desk writes the first article on the topic of a feature. -/
structure WritesFirst (d : Desk) (m : CodeMap) (categories : List Text) (articles : List Article)
    (f : Feature) : Prop where
  eligible : f ∈ eligibleFeatures m.features categories
  new : f.id ∉ articles.map Article.topic
  draft : ∀ context, ∃ draft, d.draft ⟨f, .create context⟩ = .ok draft

theorem WritesFirst.mem_created {f : Feature} (hf : d.WritesFirst m categories articles f)
    (h : planArticles m categories articles changedOnly = .ok plan) : f.id ∈ d.created plan := by
  obtain ⟨p, hp, rfl⟩ := List.mem_map.1 (map_feature_planArticles h ▸ hf.eligible)
  have hnone : p.decision.existing? = none := by
    rw [existing?_eq_articleOn h hp, articleOn_eq_none_iff]
    exact fun a ha hat => hf.new (List.mem_map.2 ⟨a, ha, hat⟩)
  refine List.mem_map.2 ⟨p, List.mem_filter.2 ⟨hp, ?_⟩, rfl⟩
  obtain ⟨feature, decision⟩ := p
  cases decision with
  | create context =>
      obtain ⟨draft, hdraft⟩ := hf.draft context
      rw [hdraft]
      rfl
  | _ => cases hnone

/-- Nothing stops a batch from giving an id to a second article. -/
theorem not_nodup_of_clash {f : Feature} (hf : d.WritesFirst m categories articles f)
    (hclash : newArticleId f.id d.now ∈ articles.map Article.id ∨
      ∃ g, d.WritesFirst m categories articles g ∧ g.id ≠ f.id ∧
        newArticleId g.id d.now = newArticleId f.id d.now)
    {r : BatchResult} (hr : d.generate m categories articles changedOnly false = .ok r) :
    ¬ (r.articles.map Article.id).Nodup := by
  obtain ⟨plan, hplan, rfl⟩ := generate_eq_ok_iff.1 hr
  rw [write_ids hplan]
  intro hnodup
  have hmem := hf.mem_created hplan
  rcases hclash with hold | ⟨g, hg, hne, hsame⟩
  · exact List.disjoint_of_nodup_append hnodup hold (List.mem_map_of_mem hmem)
  · exact hne (List.inj_on_of_nodup_map hnodup.of_append_right (hg.mem_created hplan) hmem hsame)

end Desk

end HelpCenter

import HelpCenter.Proofs.Generation.Identity

/-!
# What a batch makes of each article

Among articles with different ids, a planned topic replaces at most one article, which keeps its
place, its id and its topic, and first articles follow at the end (`write_articles`).  So the
articles on a planned topic are those that were there, with the last one replaced by what is written
for this topic (`articlesOn_write`), whatever comes of the other topics.
-/

namespace HelpCenter

theorem map_eq_self {f : Article → Article} {l : List Article} (h : ∀ a ∈ l, f a = a) :
    l.map f = l :=
  (List.map_congr_left h).trans (List.map_id l)

/-! ## The articles on a topic -/

/-- The articles on a topic, in order. -/
def articlesOn (articles : List Article) (topic : Text) : List Article :=
  articles.filter fun a => a.topic = topic

theorem articleOn_eq_getLast? (articles : List Article) (topic : Text) :
    articleOn articles topic = (articlesOn articles topic).getLast? := by
  unfold articleOn articlesOn
  rw [← List.head?_reverse, ← List.filter_reverse, List.head?_filter]

theorem articlesOn_append (l l' : List Article) (topic : Text) :
    articlesOn (l ++ l') topic = articlesOn l topic ++ articlesOn l' topic :=
  List.filter_append ..

namespace Desk

variable {d : Desk} {m : CodeMap} {p : PlannedTopic} {plan : List PlannedTopic} {a : Article}

/-- The article that is written for a planned topic, if there is to be one and its draft
succeeds. -/
def written (d : Desk) (m : CodeMap) (p : PlannedTopic) : Option Article :=
  if p.needsWriting then (d.draft p).toOption.map (p.article · m d.now) else none

/-- The article after a planned topic was written. -/
def revise (d : Desk) (m : CodeMap) (a : Article) (p : PlannedTopic) : Article :=
  if p.decision.existing?.map (·.id) = some a.id then (d.written m p).getD a else a

/-- The first article on a planned topic, if one is written. -/
def first (d : Desk) (m : CodeMap) (p : PlannedTopic) : Option Article :=
  if p.decision.existing?.isNone then d.written m p else none

theorem written_eq_some (h : d.written m p = some a) :
    p.needsWriting = true ∧ ∃ draft, d.draft p = .ok draft ∧ a = p.article draft m d.now := by
  unfold written at h
  split_ifs at h with hneeds
  obtain ⟨draft, hdraft, rfl⟩ := Option.map_eq_some_iff.1 h
  refine ⟨hneeds, draft, ?_, rfl⟩
  cases hd : d.draft p with
  | error e => rw [hd] at hdraft; cases hdraft
  | ok draft' => rw [hd] at hdraft; rw [Option.some.inj hdraft]

theorem written_topic (h : d.written m p = some a) : a.topic = p.feature.id := by
  obtain ⟨-, draft, -, rfl⟩ := written_eq_some h
  rfl

theorem first_topic (h : d.first m p = some a) : a.topic = p.feature.id := by
  unfold first at h
  split_ifs at h
  exact written_topic h

theorem written_id {old : Article} (he : p.decision.existing? = some old)
    (h : d.written m p = some a) : a.id = old.id := by
  obtain ⟨-, draft, -, rfl⟩ := written_eq_some h
  rw [PlannedTopic.article, he]
  rfl

theorem revise_id (d : Desk) (m : CodeMap) (a : Article) (p : PlannedTopic) :
    (d.revise m a p).id = a.id := by
  unfold revise
  split_ifs with h
  · obtain ⟨old, he, hid⟩ := Option.map_eq_some_iff.1 h
    cases hw : d.written m p with
    | none => rfl
    | some b => exact (written_id he hw).trans hid
  · rfl

theorem revise_of_ne (h : ∀ old, p.decision.existing? = some old → old.id ≠ a.id) :
    d.revise m a p = a := by
  unfold revise
  rw [if_neg]
  intro he
  obtain ⟨old, hold, hid⟩ := Option.map_eq_some_iff.1 he
  exact h old hold hid

theorem revise_of_existing (h : p.decision.existing? = some a) :
    d.revise m a p = (d.written m p).getD a := by
  unfold revise
  rw [h]
  exact if_pos rfl

theorem foldl_revise_of_ne
    (h : ∀ p ∈ plan, ∀ old, p.decision.existing? = some old → old.id ≠ a.id) :
    plan.foldl (d.revise m) a = a := by
  induction plan with
  | nil => rfl
  | cons p plan ih =>
      obtain ⟨hp, hplan⟩ := List.forall_mem_cons.1 h
      rw [List.foldl_cons, revise_of_ne hp, ih hplan]

end Desk

/-! ## Steps -/

namespace BatchResult

variable {d : Desk} {m : CodeMap} {p : PlannedTopic} {plan : List PlannedTopic} {r : BatchResult}
  {l more : List Article}

/-- Where ids are different, replacing an article changes no other, also if more articles
follow. -/
theorem replace?_append {id : Text} (a : Article) (hn : (l.map Article.id).Nodup)
    (hmem : id ∈ l.map Article.id) :
    replace? id a (l ++ more) = some ((l.map fun b => if b.id = id then a else b) ++ more) := by
  induction l with
  | nil => cases hmem
  | cons b l ih =>
      obtain ⟨hb, hl⟩ := List.nodup_cons.1 hn
      rw [List.cons_append, replace?, List.map_cons]
      by_cases hid : b.id = id
      · have hrest : (l.map fun c => if c.id = id then a else c) = l := by
          refine map_eq_self fun c hc => if_neg fun hcid => ?_
          exact hb (hid.trans hcid.symm ▸ List.mem_map_of_mem hc)
        rw [if_pos hid, if_pos hid, hrest]
        rfl
      · have hmem' : id ∈ l.map Article.id := (List.mem_cons.1 hmem).resolve_left (Ne.symm hid)
        rw [if_neg hid, if_neg hid, ih hl hmem']
        rfl

theorem step_plan (d : Desk) (m : CodeMap) (r : BatchResult) (p : PlannedTopic) :
    (step d m r p).plan = r.plan := by
  unfold step put
  cases d.draft p with
  | error e => rfl
  | ok draft =>
      dsimp only
      split <;> rfl

theorem foldl_step_plan (d : Desk) (m : CodeMap) (r : BatchResult) (plan : List PlannedTopic) :
    (plan.foldl (step d m) r).plan = r.plan := by
  induction plan generalizing r with
  | nil => rfl
  | cons p plan ih => rw [List.foldl_cons, ih, step_plan]

theorem step_articles (hr : r.articles = l ++ more) (hn : (l.map Article.id).Nodup)
    (hneeds : p.needsWriting = true)
    (hold : ∀ old, p.decision.existing? = some old → old.id ∈ l.map Article.id) :
    (step d m r p).articles =
      l.map (d.revise m · p) ++ (more ++ (d.first m p).toList) := by
  have hwritten : d.written m p = (d.draft p).toOption.map (p.article · m d.now) := if_pos hneeds
  unfold step
  cases hd : d.draft p with
  | error e =>
      have hnone : d.written m p = none := by rw [hwritten, hd]; rfl
      have hrevise : l.map (d.revise m · p) = l := by
        refine map_eq_self fun a _ => ?_
        simp [Desk.revise, hnone]
      have hfirst : d.first m p = none := by simp [Desk.first, hnone]
      rw [hrevise, hfirst]
      simpa using hr
  | ok draft =>
      have hsome : d.written m p = some (p.article draft m d.now) := by rw [hwritten, hd]; rfl
      show (r.put p (p.article draft m d.now)).articles = _
      unfold put
      cases he : p.decision.existing? with
      | none =>
          have hrevise : l.map (d.revise m · p) = l := by
            refine map_eq_self fun a _ => ?_
            simp [Desk.revise, he]
          have hfirst : d.first m p = some (p.article draft m d.now) := by
            simp [Desk.first, he, hsome]
          rw [hrevise, hfirst]
          simp [hr]
      | some old =>
          have hrevise : (l.map fun b => if b.id = old.id then p.article draft m d.now else b) =
              l.map (d.revise m · p) := by
            refine List.map_congr_left fun a _ => ?_
            simp [Desk.revise, he, hsome, eq_comm]
          have hfirst : d.first m p = none := by simp [Desk.first, he]
          rw [hfirst, Option.bind_some, hr, replace?_append _ hn (hold old he), hrevise]
          simp

theorem foldl_step_articles (hr : r.articles = l ++ more) (hn : (l.map Article.id).Nodup)
    (hneeds : ∀ p ∈ plan, p.needsWriting = true)
    (hold : ∀ p ∈ plan, ∀ old, p.decision.existing? = some old → old.id ∈ l.map Article.id) :
    (plan.foldl (step d m) r).articles =
      (l.map fun a => plan.foldl (d.revise m) a) ++ (more ++ plan.filterMap (d.first m)) := by
  induction plan generalizing r l more with
  | nil => simpa using hr
  | cons p plan ih =>
      obtain ⟨hp, hplan⟩ := List.forall_mem_cons.1 hneeds
      obtain ⟨holdp, holds⟩ := List.forall_mem_cons.1 hold
      have hids : (l.map (d.revise m · p)).map Article.id = l.map Article.id := by
        rw [List.map_map]
        exact List.map_congr_left fun a _ => d.revise_id m a p
      have hstep := step_articles (d := d) (m := m) hr hn hp holdp
      rw [List.foldl_cons, ih hstep (hids ▸ hn) hplan (hids ▸ holds), List.map_map]
      cases hf : d.first m p <;> simp [hf, Function.comp_def]

end BatchResult

/-! ## Batches -/

section Plan

variable {d : Desk} {m : CodeMap} {categories : List Text} {articles : List Article}
  {changedOnly : Bool} {plan : List PlannedTopic} {p : PlannedTopic} {a : Article}

/-- A planned topic that starts from an article with the id of `a` starts from `a` itself. -/
theorem existing?_of_id_eq (h : planArticles m categories articles changedOnly = .ok plan)
    (hids : (articles.map Article.id).Nodup) (hp : p ∈ plan) {old : Article}
    (he : p.decision.existing? = some old) (ha : a ∈ articles) (hid : old.id = a.id) :
    old = a ∧ p.feature.id = a.topic := by
  obtain ⟨hmem, htopic⟩ := existing?_mem h hp he
  obtain rfl : old = a := List.inj_on_of_nodup_map hids hmem ha hid
  exact ⟨rfl, htopic.symm⟩

/-- A plan has no other entry for the topic of one. -/
theorem exists_plan_eq_append (h : planArticles m categories articles changedOnly = .ok plan)
    (hfeatures : (m.features.map (·.id)).Nodup) (hp : p ∈ plan) :
    ∃ before after, plan = before ++ p :: after ∧
      ∀ q ∈ before ++ after, q ∈ plan ∧ q.feature.id ≠ p.feature.id := by
  have hnodup := nodup_planArticles h hfeatures
  obtain ⟨before, after, rfl⟩ := List.append_of_mem hp
  rw [List.map_append, List.map_cons, List.nodup_middle, List.nodup_cons, ← List.map_append]
    at hnodup
  refine ⟨before, after, rfl, fun q hq => ⟨?_, fun heq => ?_⟩⟩
  · rw [List.mem_append] at hq ⊢
    exact hq.imp_right (List.mem_cons_of_mem p)
  · exact hnodup.1 (heq ▸ List.mem_map_of_mem hq)

/-- Different features have different topics, so only the topic of an article replaces it. -/
theorem foldl_revise_of_mem (h : planArticles m categories articles changedOnly = .ok plan)
    (hids : (articles.map Article.id).Nodup) (hfeatures : (m.features.map (·.id)).Nodup)
    (hp : p ∈ plan) (he : p.decision.existing? = some a) :
    plan.foldl (d.revise m) a = (d.written m p).getD a := by
  obtain ⟨hmem, htopic⟩ := existing?_mem h hp he
  obtain ⟨before, after, rfl, hother⟩ := exists_plan_eq_append h hfeatures hp
  have other : ∀ q ∈ before ++ after, ∀ old, q.decision.existing? = some old → old.id ≠ a.id := by
    intro q hq old hold hid
    obtain ⟨hq, hne⟩ := hother q hq
    exact hne ((existing?_of_id_eq h hids hq hold hmem hid).2.trans htopic)
  have hfirst : before.foldl (d.revise m) a = a :=
    Desk.foldl_revise_of_ne fun q hq => other q (List.mem_append_left _ hq)
  have hid : ((d.written m p).getD a).id = a.id := by
    rw [← Desk.revise_of_existing he, Desk.revise_id]
  rw [List.foldl_append, List.foldl_cons, hfirst, Desk.revise_of_existing he]
  refine Desk.foldl_revise_of_ne fun q hq => ?_
  rw [hid]
  exact other q (List.mem_append_right _ hq)

end Plan

namespace Desk

open BatchResult

variable {d : Desk} {m : CodeMap} {categories : List Text} {articles : List Article}
  {changedOnly : Bool} {plan : List PlannedTopic} {p : PlannedTopic} {a : Article}

theorem written_of_not_needsWriting (hp : ¬ p.needsWriting = true) : d.written m p = none :=
  if_neg hp

theorem revise_of_not_needsWriting (hp : ¬ p.needsWriting = true) : d.revise m a p = a := by
  simp [revise, written_of_not_needsWriting hp]

theorem first_of_not_needsWriting (hp : ¬ p.needsWriting = true) : d.first m p = none := by
  simp [first, written_of_not_needsWriting hp]

theorem write_plan (d : Desk) (m : CodeMap) (plan : List PlannedTopic) (articles : List Article)
    (trial : Bool) : (d.write m plan articles trial).plan = plan := by
  unfold write
  cases trial with
  | true => rfl
  | false => exact foldl_step_plan d m _ _

/-- A batch revises the articles in their places and adds the first ones on new topics. -/
theorem write_articles (h : planArticles m categories articles changedOnly = .ok plan)
    (hids : (articles.map Article.id).Nodup) :
    (d.write m plan articles false).articles =
      (articles.map fun a => plan.foldl (d.revise m) a) ++ plan.filterMap (d.first m) := by
  have hold : ∀ p ∈ plan.filter (·.needsWriting), ∀ old, p.decision.existing? = some old →
      old.id ∈ articles.map Article.id := by
    intro p hp old he
    exact List.mem_map_of_mem (existing?_mem h (List.mem_filter.1 hp).1 he).1
  have hstart : (⟨articles, 0, 0, plan.length - (plan.filter (·.needsWriting)).length, 0, [], plan,
      []⟩ : BatchResult).articles = articles ++ [] := (List.append_nil _).symm
  have hfold := foldl_step_articles (d := d) (m := m) hstart hids
    (fun p hp => (List.mem_filter.1 hp).2) hold
  have hrevise : (fun a => (plan.filter (·.needsWriting)).foldl (d.revise m) a) =
      fun a => plan.foldl (d.revise m) a := by
    funext a
    rw [List.foldl_filter]
    congr 1
    funext b q
    by_cases hq : q.needsWriting = true
    · rw [if_pos hq]
    · rw [if_neg hq, revise_of_not_needsWriting hq]
  have hfirst : (plan.filter (·.needsWriting)).filterMap (d.first m) =
      plan.filterMap (d.first m) := by
    rw [List.filterMap_filter]
    congr 1
    funext q
    by_cases hq : q.needsWriting = true
    · rw [if_pos hq]
    · rw [if_neg hq, first_of_not_needsWriting hq]
  rw [hrevise, hfirst, List.nil_append] at hfold
  exact hfold

/-- No planned topic but its own touches an article. -/
theorem foldl_revise_of_shadowed (h : planArticles m categories articles changedOnly = .ok plan)
    (hids : (articles.map Article.id).Nodup) (ha : a ∈ articles)
    (hshadowed : articleOn articles a.topic ≠ some a) : plan.foldl (d.revise m) a = a := by
  refine foldl_revise_of_ne fun q hq old he hid => hshadowed ?_
  obtain ⟨rfl, htopic⟩ := existing?_of_id_eq h hids hq he ha hid
  rw [← htopic, ← existing?_eq_articleOn h hq, he]

/-- Revising an article leaves it on its topic. -/
theorem foldl_revise_topic (h : planArticles m categories articles changedOnly = .ok plan)
    (hids : (articles.map Article.id).Nodup) (hfeatures : (m.features.map (·.id)).Nodup)
    (ha : a ∈ articles) : (plan.foldl (d.revise m) a).topic = a.topic := by
  by_cases hex : ∃ q ∈ plan, q.decision.existing? = some a
  · obtain ⟨q, hq, he⟩ := hex
    rw [foldl_revise_of_mem h hids hfeatures hq he]
    cases hw : d.written m q with
    | none => rfl
    | some b => exact (written_topic hw).trans (existing?_mem h hq he).2.symm
  · rw [foldl_revise_of_ne]
    intro q hq old he hid
    obtain ⟨rfl, -⟩ := existing?_of_id_eq h hids hq he ha hid
    exact hex ⟨q, hq, he⟩

theorem articlesOn_filterMap_first {topic : Text} (hplan : ∀ q ∈ plan, q.feature.id ≠ topic) :
    articlesOn (plan.filterMap (d.first m)) topic = [] := by
  unfold articlesOn
  rw [List.filter_eq_nil_iff]
  intro b hb
  obtain ⟨q, hq, hfirst⟩ := List.mem_filterMap.1 hb
  have htopic : b.topic ≠ topic := first_topic hfirst ▸ hplan q hq
  simpa using htopic

/-- The only first article on a planned topic is its own. -/
theorem articlesOn_first (h : planArticles m categories articles changedOnly = .ok plan)
    (hfeatures : (m.features.map (·.id)).Nodup) (hp : p ∈ plan) :
    articlesOn (plan.filterMap (d.first m)) p.feature.id = (d.first m p).toList := by
  obtain ⟨before, after, rfl, hother⟩ := exists_plan_eq_append h hfeatures hp
  have hnone : articlesOn (before.filterMap (d.first m)) p.feature.id = [] :=
    articlesOn_filterMap_first fun q hq => (hother q (List.mem_append_left _ hq)).2
  have hnone' : articlesOn (after.filterMap (d.first m)) p.feature.id = [] :=
    articlesOn_filterMap_first fun q hq => (hother q (List.mem_append_right _ hq)).2
  rw [List.filterMap_append, articlesOn_append, hnone, List.nil_append, List.filterMap_cons]
  cases hfirst : d.first m p with
  | none => exact hnone'
  | some b =>
      have htopic : b.topic = p.feature.id := first_topic hfirst
      show articlesOn (b :: after.filterMap (d.first m)) p.feature.id = [b]
      unfold articlesOn at hnone' ⊢
      rw [List.filter_cons_of_pos (by simpa using htopic), hnone']

theorem articlesOn_map_revise (h : planArticles m categories articles changedOnly = .ok plan)
    (hids : (articles.map Article.id).Nodup) (hfeatures : (m.features.map (·.id)).Nodup)
    (topic : Text) :
    articlesOn (articles.map fun a => plan.foldl (d.revise m) a) topic =
      (articlesOn articles topic).map fun a => plan.foldl (d.revise m) a := by
  unfold articlesOn
  rw [List.filter_map]
  congr 1
  refine List.filter_congr fun a ha => ?_
  rw [Function.comp_apply, foldl_revise_topic h hids hfeatures ha]

/-- Of the articles on a planned topic a batch replaces the last, or adds the first. -/
theorem articlesOn_write (h : planArticles m categories articles changedOnly = .ok plan)
    (hids : (articles.map Article.id).Nodup) (hfeatures : (m.features.map (·.id)).Nodup)
    (hp : p ∈ plan) :
    articlesOn (d.write m plan articles false).articles p.feature.id =
      match d.written m p with
      | some b => (articlesOn articles p.feature.id).dropLast ++ [b]
      | none => articlesOn articles p.feature.id := by
  have hexisting : p.decision.existing? = (articlesOn articles p.feature.id).getLast? := by
    rw [existing?_eq_articleOn h hp, articleOn_eq_getLast?]
  rw [write_articles h hids, articlesOn_append, articlesOn_map_revise h hids hfeatures,
    articlesOn_first h hfeatures hp]
  unfold first
  cases he : p.decision.existing? with
  | none =>
      have hnil : articlesOn articles p.feature.id = [] :=
        List.getLast?_eq_none_iff.1 (hexisting.symm.trans he)
      rw [hnil]
      cases d.written m p <;> rfl
  | some a =>
      obtain ⟨shadowed, hlast⟩ := List.getLast?_eq_some_iff.1 (hexisting.symm.trans he)
      have hnodup : ((shadowed ++ [a]).map Article.id).Nodup :=
        hlast ▸ hids.sublist (List.filter_sublist.map _)
      have hsame : (shadowed.map fun b => plan.foldl (d.revise m) b) = shadowed := by
        refine map_eq_self fun b hb => ?_
        have hmem : b ∈ articlesOn articles p.feature.id :=
          hlast ▸ List.mem_append_left _ hb
        obtain ⟨hmem, htopic⟩ := List.mem_filter.1 hmem
        refine foldl_revise_of_shadowed h hids hmem fun hon => ?_
        -- the article on the topic is `a`, whose id no other article has
        rw [of_decide_eq_true htopic, articleOn_eq_getLast?, hlast, List.getLast?_append,
          List.getLast?_singleton, Option.some_or] at hon
        obtain rfl := Option.some.inj hon
        rw [List.map_append] at hnodup
        exact List.disjoint_of_nodup_append hnodup (List.mem_map_of_mem hb)
          (List.mem_map_of_mem (List.mem_singleton_self a))
      rw [hlast, List.map_append, hsame, List.map_singleton,
        foldl_revise_of_mem h hids hfeatures hp he]
      cases d.written m p <;> simp

end Desk

end HelpCenter

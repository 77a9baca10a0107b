import HelpCenter.Proofs.Generation.Draft
import HelpCenter.Proofs.Generation.Outcome

/-!
# Topics do not disturb each other

Two batches that differ in their authors only come to the same articles on every topic about which
the authors agree (`generate_isolates_topic`), whatever they answer for other topics.
-/

namespace HelpCenter

namespace Desk

variable {d : Desk} {m : CodeMap} {categories : List Text} {articles : List Article}
  {changedOnly : Bool} {plan : List PlannedTopic} {p : PlannedTopic} {other : Author}

/-- What is written for a topic depends on the answer to its own prompt only. -/
theorem written_withAuthor (h : AgreeOn d.author other (d.prompt p)) :
    (d.withAuthor other).written m p = d.written m p := by
  unfold written
  rw [toOption_draft_withAuthor h]
  rfl

theorem written_of_error {e : Failure} (h : d.author (d.prompt p) = .error e) :
    d.written m p = none := by
  have hdraft : (d.draft p).toOption = none := by
    rw [toOption_draft, h]
    rfl
  unfold written
  rw [hdraft]
  split_ifs <;> rfl

/-- The article that a planned topic starts from is revised in its place. -/
theorem write_getElem?_existing (h : planArticles m categories articles changedOnly = .ok plan)
    (hids : (articles.map Article.id).Nodup) (hfeatures : (m.features.map (·.id)).Nodup)
    (hp : p ∈ plan) {a : Article} (he : p.decision.existing? = some a) {i : ℕ}
    (hi : articles[i]? = some a) :
    (d.write m plan articles false).articles[i]? = some ((d.written m p).getD a) := by
  have hlt : i < (articles.map fun a => plan.foldl (d.revise m) a).length := by
    rw [List.length_map]
    exact (List.getElem?_eq_some_iff.1 hi).1
  rw [write_articles h hids, List.getElem?_append_left hlt, List.getElem?_map, hi,
    Option.map_some, foldl_revise_of_mem h hids hfeatures hp he]

/-- Where two authors agree on the prompt of a topic, two batches end with the same articles on it:
the one that was there is replaced in its place by the same article, or stays if there is nothing to
write or both fail; a first article is the same in both, or there is none. -/
theorem generate_isolates_topic (d : Desk) (other : Author) (m : CodeMap)
    (categories : List Text) (articles : List Article) (changedOnly : Bool)
    (hids : (articles.map fun a => a.id).Nodup) (hfeatures : (m.features.map fun f => f.id).Nodup) :
    (∀ r r', d.generate m categories articles changedOnly false = .ok r →
      (d.withAuthor other).generate m categories articles changedOnly false = .ok r' →
      r'.plan = r.plan ∧
      ∀ p ∈ r.plan, AgreeOn d.author other (d.prompt p) →
        articlesOn r'.articles p.feature.id = articlesOn r.articles p.feature.id ∧
        (∀ (a : Article) (i : ℕ), p.decision.existing? = some a → articles[i]? = some a →
          r.articles[i]? = some ((d.written m p).getD a) ∧ r'.articles[i]? = r.articles[i]?) ∧
        (p.decision.existing? = none →
          articlesOn r.articles p.feature.id = (d.written m p).toList) ∧
        (∀ e, d.author (d.prompt p) = .error e →
          articlesOn r.articles p.feature.id = articlesOn articles p.feature.id)) ∧
    ((∀ p ∈ m.pages, AreKeys p.sourceFiles) → (∀ a ∈ articles, AreKeys a.sourceFiles) →
      ∃ r r', d.generate m categories articles changedOnly false = .ok r ∧
        (d.withAuthor other).generate m categories articles changedOnly false = .ok r') := by
  constructor
  · intro r r' hr hr'
    obtain ⟨plan, hplan, rfl⟩ := generate_eq_ok_iff.1 hr
    obtain ⟨plan', hplan', rfl⟩ := generate_eq_ok_iff.1 hr'
    obtain rfl : plan = plan' := Except.ok.inj (hplan.symm.trans hplan')
    rw [write_plan, write_plan]
    refine ⟨rfl, fun p hp hagree => ?_⟩
    have hwritten : (d.withAuthor other).written m p = d.written m p := written_withAuthor hagree
    have hon := articlesOn_write (d := d) hplan hids hfeatures hp
    have hon' := articlesOn_write (d := d.withAuthor other) hplan hids hfeatures hp
    rw [hwritten] at hon'
    refine ⟨hon'.trans hon.symm, fun a i he hi => ?_, fun he => ?_, fun e he => ?_⟩
    · have hslot := write_getElem?_existing (d := d) hplan hids hfeatures hp he hi
      have hslot' := write_getElem?_existing (d := d.withAuthor other) hplan hids hfeatures hp he hi
      rw [hwritten] at hslot'
      exact ⟨hslot, hslot'.trans hslot.symm⟩
    · have hnil : articlesOn articles p.feature.id = [] := by
        rw [existing?_eq_articleOn hplan hp, articleOn_eq_getLast?] at he
        exact List.getLast?_eq_none_iff.1 he
      rw [hnil] at hon
      cases hw : d.written m p <;> rw [hw] at hon <;> exact hon
    · rw [written_of_error he] at hon
      exact hon
  · intro hm ha
    obtain ⟨r, hr⟩ := d.exists_generate categories changedOnly false hm ha
    obtain ⟨r', hr'⟩ := (d.withAuthor other).exists_generate categories changedOnly false hm ha
    exact ⟨r, r', hr, hr'⟩

/-- An author who fails on every prompt but those about one feature. -/
def answerOnly (feature : Text) : Author := fun prompt =>
  if Text.hasInfix (lit "Feature: " ++ feature) prompt then .ok (lit "New text")
  else .error (.generation (.emptyResponse (lit "Model")))

/-- The article on one topic is updated alike, whether or not another author fails on the topic
that has none. -/
theorem generate_isolates_updated_topic :
    let shown : Article := { id := lit "a", topic := lit "billing.plan" }
    let d : Desk := ⟨fun _ => .ok (lit "New text"), [], lit "Shop", ⟨0⟩⟩
    let other := answerOnly (lit "billing.plan")
    let m : CodeMap := { features := [⟨lit "billing.card", .double (.ofInt 1), []⟩,
      ⟨lit "billing.plan", .double (.ofInt 1), []⟩] }
    (([shown].map fun a => a.id).Nodup ∧ (m.features.map fun f => f.id).Nodup) ∧
    ∃ r r', d.generate m [lit "billing"] [shown] false false = .ok r ∧
      (d.withAuthor other).generate m [lit "billing"] [shown] false false = .ok r' ∧
      r'.articles.length < r.articles.length ∧
      ∃ p ∈ r.plan, p.feature.id = lit "billing.plan" ∧ AgreeOn d.author other (d.prompt p) ∧
        articlesOn r'.articles p.feature.id = articlesOn r.articles p.feature.id := by
  intro shown d other m
  have hids : ([shown].map fun a => a.id).Nodup := by decide
  have hfeatures : (m.features.map fun f => f.id).Nodup := by decide
  obtain ⟨hsame, hsome⟩ :=
    generate_isolates_topic d other m [lit "billing"] [shown] false hids hfeatures
  obtain ⟨r, r', hr, hr'⟩ := hsome (by simp [m]) (by simp [AreKeys, shown])
  have hlength : (d.generate m [lit "billing"] [shown] false false).toOption.map
      (·.articles.length) = some 2 := by decide +kernel
  have hlength' : ((d.withAuthor other).generate m [lit "billing"] [shown] false false).toOption.map
      (·.articles.length) = some 1 := by decide +kernel
  have hagree : (d.generate m [lit "billing"] [shown] false false).toOption.any fun r =>
      r.plan.any fun p => p.feature.id = lit "billing.plan" ∧
        (d.author (d.prompt p)).toOption = (other (d.prompt p)).toOption := by decide +kernel
  rw [hr] at hlength hagree
  rw [hr'] at hlength'
  obtain ⟨p, hp, hagree⟩ := List.any_eq_true.1 hagree
  obtain ⟨htopic, hagree⟩ := of_decide_eq_true hagree
  refine ⟨⟨hids, hfeatures⟩, r, r', hr, hr', ?_, p, hp, htopic, hagree, ?_⟩
  · have h : r.articles.length = 2 := Option.some.inj hlength
    have h' : r'.articles.length = 1 := Option.some.inj hlength'
    omega
  · exact ((hsame r r' hr hr').2 p hp hagree).1

end Desk

end HelpCenter

import HelpCenter.Proofs.Generation.Draft
import HelpCenter.Proofs.Generation.Outcome

/-!
# The counts of a batch

Each planned topic that is to be written adds one to just one of three counts: it gets its first
article, it has its article replaced, or it fails (`foldl_step_counts`).  A trial run counts by the
decisions alone, so the two agree just if no topic fails (`generate_accounts`), and that takes more
than an author who always answers.
-/

namespace HelpCenter

variable {d : Desk} {m : CodeMap} {p : PlannedTopic} {plan : List PlannedTopic}

namespace Desk

/-- The topics of a plan whose article is replaced. -/
def replaced (d : Desk) (plan : List PlannedTopic) : List Text :=
  (plan.filter fun p => p.decision.existing?.isSome && (d.draft p).toOption.isSome).map
    (·.feature.id)

/-- The topics of a plan whose draft fails. -/
def failed (d : Desk) (plan : List PlannedTopic) : List Text :=
  (plan.filter fun p => (d.draft p).toOption.isNone).map (·.feature.id)

theorem replaced_cons (d : Desk) (p : PlannedTopic) (plan : List PlannedTopic) :
    d.replaced (p :: plan) = d.replaced [p] ++ d.replaced plan := by
  unfold replaced
  rw [← List.map_append, ← List.filter_append, List.singleton_append]

theorem failed_cons (d : Desk) (p : PlannedTopic) (plan : List PlannedTopic) :
    d.failed (p :: plan) = d.failed [p] ++ d.failed plan := by
  unfold failed
  rw [← List.map_append, ← List.filter_append, List.singleton_append]

/-- Each topic of a plan gets a first article, has its article replaced, or fails. -/
theorem length_created_replaced_failed (d : Desk) (plan : List PlannedTopic) :
    (d.created plan).length + (d.replaced plan).length + (d.failed plan).length = plan.length := by
  induction plan with
  | nil => rfl
  | cons p plan ih =>
      have hone : (d.created [p]).length + (d.replaced [p]).length + (d.failed [p]).length = 1 := by
        unfold created replaced failed
        cases he : p.decision.existing? <;> cases hd : d.draft p <;>
          simp [he, hd, Except.toOption]
      rw [BatchResult.created_cons d p plan, d.replaced_cons p plan, d.failed_cons p plan]
      simp only [List.length_append, List.length_cons]
      omega

theorem failed_eq_nil_iff {d : Desk} {plan : List PlannedTopic} :
    d.failed plan = [] ↔ ∀ p ∈ plan, (d.draft p).toOption.isSome = true := by
  unfold failed
  rw [List.map_eq_nil_iff, List.filter_eq_nil_iff]
  refine forall₂_congr fun p _ => ?_
  cases (d.draft p).toOption <;> simp

end Desk

/-! ## Steps -/

namespace BatchResult

variable {r : BatchResult} {a : Article}

theorem put_counts
    (hold : ∀ old, p.decision.existing? = some old → old.id ∈ r.articles.map Article.id) :
    (r.put p a).generated = r.generated + (if p.decision.existing?.isNone then 1 else 0) ∧
      (r.put p a).updated = r.updated + (if p.decision.existing?.isSome then 1 else 0) := by
  unfold put
  cases he : p.decision.existing? with
  | none => exact ⟨rfl, rfl⟩
  | some old =>
      rw [Option.bind_some]
      cases hr : replace? old.id a r.articles with
      | none =>
          obtain ⟨b, hb, hid⟩ := List.mem_map.1 (hold old he)
          exact absurd hid (replace?_eq_none_iff.1 hr b hb)
      | some articles => exact ⟨rfl, rfl⟩

theorem put_skipped (r : BatchResult) (p : PlannedTopic) (a : Article) :
    (r.put p a).skipped = r.skipped ∧ (r.put p a).failures = r.failures := by
  unfold put
  split <;> exact ⟨rfl, rfl⟩

theorem step_counts
    (hold : ∀ old, p.decision.existing? = some old → old.id ∈ r.articles.map Article.id) :
    (step d m r p).generated = r.generated + (d.created [p]).length ∧
      (step d m r p).updated = r.updated + (d.replaced [p]).length ∧
      (step d m r p).skipped = r.skipped + (d.failed [p]).length ∧
      (step d m r p).failures = r.failures ++ d.failed [p] := by
  unfold step Desk.created Desk.replaced Desk.failed
  cases hd : d.draft p with
  | error e => simp [hd, Except.toOption]
  | ok draft =>
      obtain ⟨hgenerated, hupdated⟩ := put_counts (a := p.article draft m d.now) hold
      obtain ⟨hskipped, hfailures⟩ := put_skipped r p (p.article draft m d.now)
      dsimp only
      rw [hgenerated, hupdated, hskipped, hfailures]
      cases he : p.decision.existing? <;> simp [he, hd, Except.toOption]

theorem foldl_step_counts
    (hold : ∀ p ∈ plan, ∀ old, p.decision.existing? = some old →
      old.id ∈ r.articles.map Article.id) :
    (plan.foldl (step d m) r).generated = r.generated + (d.created plan).length ∧
      (plan.foldl (step d m) r).updated = r.updated + (d.replaced plan).length ∧
      (plan.foldl (step d m) r).skipped = r.skipped + (d.failed plan).length ∧
      (plan.foldl (step d m) r).failures = r.failures ++ d.failed plan := by
  induction plan generalizing r with
  | nil => simp [Desk.created, Desk.replaced, Desk.failed]
  | cons p plan ih =>
      obtain ⟨hp, hplan⟩ := List.forall_mem_cons.1 hold
      obtain ⟨hgenerated, hupdated, hskipped, hfailures⟩ := step_counts (d := d) (m := m) hp
      -- ids are never lost, so what a later topic replaces is still there
      have hold' : ∀ q ∈ plan, ∀ old, q.decision.existing? = some old →
          old.id ∈ (step d m r p).articles.map Article.id := by
        intro q hq old he
        rw [step_ids hp]
        exact List.mem_append_left _ (hplan q hq old he)
      obtain ⟨h₁, h₂, h₃, h₄⟩ := ih hold'
      rw [List.foldl_cons, h₁, h₂, h₃, h₄, hgenerated, hupdated, hskipped, hfailures,
        created_cons d p plan, d.replaced_cons p plan, d.failed_cons p plan]
      simp [Nat.add_assoc]

end BatchResult

/-! ## Batches -/

namespace Desk

open BatchResult

variable {categories : List Text} {articles : List Article} {changedOnly : Bool}

theorem write_counts (h : planArticles m categories articles changedOnly = .ok plan) :
    let pending := plan.filter (·.needsWriting)
    let r := d.write m plan articles false
    r.generated = (d.created pending).length ∧ r.updated = (d.replaced pending).length ∧
      r.skipped = (plan.length - pending.length) + (d.failed pending).length ∧
      r.failures = d.failed pending := by
  intro pending r
  have hold : ∀ p ∈ pending, ∀ old, p.decision.existing? = some old →
      old.id ∈ articles.map Article.id := by
    intro p hp old he
    exact List.mem_map_of_mem (existing?_mem h (List.mem_filter.1 hp).1 he).1
  have hcounts := foldl_step_counts (d := d) (m := m)
    (r := { articles, plan, skipped := plan.length - pending.length }) hold
  simp only [Nat.zero_add, List.nil_append] at hcounts
  exact hcounts

theorem length_filter_not_needsWriting (plan : List PlannedTopic) :
    (plan.filter fun p => !p.needsWriting).length =
      plan.length - (plan.filter (·.needsWriting)).length := by
  have hsplit := List.length_eq_length_filter_add (l := plan) (·.needsWriting)
  omega

/-- Counting by the decisions agrees with counting what was written just if no draft fails. -/
theorem decisions_agree_iff (d : Desk) (plan : List PlannedTopic) :
    ((plan.filter (·.decision.existing?.isNone)).length = (d.created plan).length ∧
      (plan.filter (·.decision.existing?.isSome)).length = (d.replaced plan).length) ↔
    d.failed plan = [] := by
  constructor
  · rintro ⟨hcreated, hreplaced⟩
    have hsplit := List.length_eq_length_filter_add (l := plan) (·.decision.existing?.isNone)
    have hsome : (plan.filter fun p => !p.decision.existing?.isNone) =
        plan.filter (·.decision.existing?.isSome) :=
      List.filter_congr fun p _ => Option.not_isNone p.decision.existing?
    rw [hsome] at hsplit
    have htotal := d.length_created_replaced_failed plan
    have hzero : (d.failed plan).length = 0 := by omega
    exact List.eq_nil_of_length_eq_zero hzero
  · intro hnone
    have hdrafts := failed_eq_nil_iff.1 hnone
    unfold created replaced
    rw [List.length_map, List.length_map]
    constructor
    · congr 1
      refine List.filter_congr fun p hp => ?_
      rw [hdrafts p hp, Bool.and_true]
    · congr 1
      refine List.filter_congr fun p hp => ?_
      rw [hdrafts p hp, Bool.and_true]

/-- Each eligible feature counts once, as generated, updated or skipped, failures among the skipped;
new articles come after those that were there, which keep their ids; and a trial run leaves the
articles alone.  It predicts the counts just if the author answers every prompt with a text that a
draft can be read from. -/
theorem generate_accounts (d : Desk) (m : CodeMap) (categories : List Text)
    (articles : List Article) (changedOnly : Bool) :
    (∀ r, d.generate m categories articles changedOnly false = .ok r →
      r.generated + r.updated + r.skipped = r.plan.length ∧
      r.plan.length = (eligibleFeatures m.features categories).length ∧
      r.skipped = (r.plan.filter fun p => !p.needsWriting).length + r.failures.length ∧
      r.articles.length = articles.length + r.generated ∧
      (articles.map fun a => a.id) <+: (r.articles.map fun a => a.id) ∧
      r.failures = (r.plan.filter fun p => p.needsWriting && (d.draft p).toOption.isNone).map
        (fun p => p.feature.id) ∧
      ∃ t, d.generate m categories articles changedOnly true = .ok t ∧ t.articles = articles ∧
        ((t.generated = r.generated ∧ t.updated = r.updated) ↔
          ∀ p ∈ r.plan, p.needsWriting = true →
            ∃ text, d.author (d.prompt p) = .ok text ∧ ¬ Reply.IsUnreadable text)) ∧
    ((∀ p ∈ m.pages, AreKeys p.sourceFiles) → (∀ a ∈ articles, AreKeys a.sourceFiles) →
      ∃ r, d.generate m categories articles changedOnly false = .ok r) := by
  constructor
  · intro r hr
    obtain ⟨plan, hplan, rfl⟩ := generate_eq_ok_iff.1 hr
    obtain ⟨hgenerated, hupdated, hskipped, hfailures⟩ := write_counts (d := d) hplan
    have hids := write_ids (d := d) hplan
    have htotal := d.length_created_replaced_failed (plan.filter (·.needsWriting))
    have hle : (plan.filter (·.needsWriting)).length ≤ plan.length := List.length_filter_le ..
    have hfeatures : plan.length = (eligibleFeatures m.features categories).length := by
      rw [← map_feature_planArticles hplan, List.length_map]
    rw [write_plan, hgenerated, hupdated, hskipped, hfailures]
    refine ⟨by omega, hfeatures, ?_, ?_, ?_, ?_, _, Except.bind_ok hplan rfl, rfl, ?_⟩
    · rw [length_filter_not_needsWriting]
    · have hlength := congrArg List.length hids
      rw [created_needsWriting]
      simpa using hlength
    · exact ⟨_, hids.symm⟩
    · unfold failed
      rw [List.filter_filter]
      congr 2
      funext p
      exact Bool.and_comm ..
    · refine (decisions_agree_iff d _).trans (failed_eq_nil_iff.trans ?_)
      simp only [List.mem_filter, and_imp, isSome_draft_iff]
  · exact d.exists_generate categories changedOnly false

/-- The counts hold with two articles of one id on one topic, and if all drafts fail. -/
theorem generate_accounts_twins :
    let twin : Article := { id := lit "a", topic := lit "billing.plan" }
    let d : Desk := ⟨fun _ => .error (.data .unreadable), [], lit "Shop", ⟨0⟩⟩
    let m : CodeMap := { features := [⟨lit "billing.plan", .double (.ofInt 1), []⟩,
      ⟨lit "billing.card", .double (.ofInt 1), []⟩] }
    ∃ r, d.generate m [lit "billing"] [twin, twin] false false = .ok r ∧
      r.failures = [lit "billing.plan", lit "billing.card"] ∧
      r.generated + r.updated + r.skipped = r.plan.length ∧
      [lit "a", lit "a"] <+: r.articles.map fun a => a.id := by
  intro twin d m
  obtain ⟨haccounts, hsome⟩ :=
    generate_accounts d m [lit "billing"] [twin, twin] false
  obtain ⟨r, hr⟩ := hsome (by simp [m]) (by simp [AreKeys, twin])
  have hfailures : (d.generate m [lit "billing"] [twin, twin] false false).toOption.map
      (·.failures) = some [lit "billing.plan", lit "billing.card"] := by decide +kernel
  rw [hr] at hfailures
  obtain ⟨htotal, -, -, -, hids, -⟩ := haccounts r hr
  exact ⟨r, hr, Option.some.inj hfailures, htotal, hids⟩

/-- An article with a member that is an integer of 4301 digits. -/
def longReply : Text :=
  lit "\x7b\"title\": \"Plans\", \"pages\": [], \"content\": \"Text\", \"views\": " ++
    List.replicate 4301 ('1' : CodePoint) ++ lit "\x7d"

/-- An author who always answers is not enough for a trial run to predict the counts. -/
theorem not_generate_as_predicted :
    let d : Desk := ⟨fun _ => .ok longReply, [], lit "Shop", ⟨0⟩⟩
    let m : CodeMap := { features := [⟨lit "billing.plan", .double (.ofInt 1), []⟩] }
    (∀ prompt, ∃ text, d.author prompt = .ok text) ∧
    ∃ r t, d.generate m [lit "billing"] [] false false = .ok r ∧
      d.generate m [lit "billing"] [] false true = .ok t ∧ t.generated ≠ r.generated := by
  intro d m
  obtain ⟨plan, hplan⟩ : ∃ plan, planArticles m [lit "billing"] [] false = .ok plan :=
    exists_planArticles _ _ (by simp [m]) nofun
  have hr : d.generate m [lit "billing"] [] false false = .ok _ := Except.bind_ok hplan rfl
  have ht : d.generate m [lit "billing"] [] false true = .ok _ := Except.bind_ok hplan rfl
  have hgenerated : (d.generate m [lit "billing"] [] false false).toOption.map (·.generated) =
      some 0 := by decide +kernel
  have htrial : (d.generate m [lit "billing"] [] false true).toOption.map (·.generated) =
      some 1 := by decide +kernel
  rw [hr] at hgenerated
  rw [ht] at htrial
  have hnone : (d.write m plan [] false).generated = 0 := Option.some.inj hgenerated
  have hone : (d.write m plan [] true).generated = 1 := Option.some.inj htrial
  refine ⟨fun _ => ⟨longReply, rfl⟩, _, _, hr, ht, ?_⟩
  omega

end Desk

end HelpCenter

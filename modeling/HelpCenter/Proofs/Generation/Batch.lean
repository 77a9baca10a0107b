import HelpCenter.Generation.Batch
import HelpCenter.Proofs.Article.Plan

/-!
# Where a batch puts its articles

A written article takes the place of the first article with the id of the one it replaces, or goes
to the end.  So an article stays in its place as long as no planned topic replaces an article of the
same id (`write_getElem?`).  Among articles with different ids a pinned one is never replaced, also
when an article on the same topic is (`generate_keeps_pinned`).
-/

namespace HelpCenter

namespace BatchResult

/-! ## Replacing an article -/

theorem replace?_eq_some {id : Text} {a : Article} {l l' : List Article}
    (h : replace? id a l = some l') :
    ∃ l₁ b l₂, l = l₁ ++ b :: l₂ ∧ b.id = id ∧ (∀ c ∈ l₁, c.id ≠ id) ∧ l' = l₁ ++ a :: l₂ := by
  induction l generalizing l' with
  | nil => cases h
  | cons b rest ih =>
      unfold replace? at h
      split at h
      · next hb =>
        exact ⟨[], b, rest, rfl, hb, by simp, (Option.some.inj h).symm⟩
      · next hb =>
        obtain ⟨rest', hr, rfl⟩ := Option.map_eq_some_iff.1 h
        obtain ⟨l₁, c, l₂, rfl, hc, hl, rfl⟩ := ih hr
        exact ⟨b :: l₁, c, l₂, rfl, hc, by simpa [hb] using hl, rfl⟩

theorem replace?_eq_none_iff {id : Text} {a : Article} {l : List Article} :
    replace? id a l = none ↔ ∀ b ∈ l, b.id ≠ id := by
  induction l with
  | nil => simp [replace?]
  | cons b rest ih =>
      unfold replace?
      split
      · next hb => simp [hb]
      · next hb => simp [hb, ih]

theorem replace?_getElem? {id : Text} {a c : Article} {l l' : List Article} {i : ℕ}
    (h : replace? id a l = some l') (hi : l[i]? = some c) (hc : c.id ≠ id) : l'[i]? = some c := by
  obtain ⟨l₁, b, l₂, rfl, hb, -, rfl⟩ := replace?_eq_some h
  rcases Nat.lt_trichotomy i l₁.length with hlt | rfl | hgt
  · rwa [List.getElem?_append_left hlt] at hi ⊢
  · rw [List.getElem?_append_right (Nat.le_refl _), Nat.sub_self, List.getElem?_cons_zero] at hi
    exact absurd (Option.some.inj hi ▸ hb) hc
  · obtain ⟨k, rfl⟩ : ∃ k, i = l₁.length + (k + 1) := ⟨i - l₁.length - 1, by omega⟩
    rw [List.getElem?_append_right (by omega)] at hi ⊢
    simpa using hi

/-! ## Steps and batches -/

variable {d : Desk} {m : CodeMap} {r : BatchResult} {c : Article} {i : ℕ}

/-- The planned topic replaces no article of an id. -/
def Spares (id : Text) (p : PlannedTopic) : Prop :=
  ∀ b, p.decision.existing? = some b → b.id ≠ id

theorem put_getElem? {p : PlannedTopic} (a : Article) (hi : r.articles[i]? = some c)
    (hp : Spares c.id p) : (r.put p a).articles[i]? = some c := by
  unfold put
  split
  · next articles h =>
    obtain ⟨b, hb, hr⟩ := Option.bind_eq_some_iff.1 h
    exact replace?_getElem? hr hi (hp b hb).symm
  · show (r.articles ++ [a])[i]? = some c
    rw [List.getElem?_append_left (List.getElem?_eq_some_iff.1 hi).1, hi]

theorem step_getElem? {p : PlannedTopic} (hi : r.articles[i]? = some c) (hp : Spares c.id p) :
    (step d m r p).articles[i]? = some c := by
  unfold step
  split
  · exact put_getElem? _ hi hp
  · exact hi

theorem foldl_step_getElem? {plan : List PlannedTopic} (hi : r.articles[i]? = some c)
    (hp : ∀ p ∈ plan, Spares c.id p) : (plan.foldl (step d m) r).articles[i]? = some c := by
  induction plan generalizing r with
  | nil => exact hi
  | cons p plan ih =>
      rw [List.foldl_cons]
      exact ih (step_getElem? hi (hp p (List.mem_cons_self ..)))
        fun q hq => hp q (List.mem_cons_of_mem _ hq)

theorem mem_put {p : PlannedTopic} {a : Article} (h : c ∈ (r.put p a).articles) :
    c ∈ r.articles ∨ c = a := by
  unfold put at h
  split at h
  · next articles hr =>
    obtain ⟨b, -, hr⟩ := Option.bind_eq_some_iff.1 hr
    obtain ⟨l₁, b', l₂, hl, -, -, rfl⟩ := replace?_eq_some hr
    rw [hl]
    simp only [List.mem_append, List.mem_cons] at h ⊢
    tauto
  · simpa using h

/-- Each article of a batch was there or was written for a planned topic. -/
theorem mem_foldl_step {plan : List PlannedTopic} (h : c ∈ (plan.foldl (step d m) r).articles) :
    c ∈ r.articles ∨ ∃ p ∈ plan, ∃ draft, c = p.article draft m d.now := by
  induction plan generalizing r with
  | nil => exact .inl h
  | cons p plan ih =>
      rcases ih h with hc | ⟨q, hq, draft, rfl⟩
      · unfold step at hc
        split at hc
        · next draft _ =>
          rcases mem_put hc with hc | rfl
          · exact .inl hc
          · exact .inr ⟨p, List.mem_cons_self .., draft, rfl⟩
        · exact .inl hc
      · exact .inr ⟨q, List.mem_cons_of_mem _ hq, draft, rfl⟩

end BatchResult

namespace Desk

open BatchResult

variable {d : Desk} {m : CodeMap} {c : Article} {i : ℕ}

/-- An article stays in its place unless a topic that is written replaces one of the same id. -/
theorem write_getElem? {plan : List PlannedTopic} {articles : List Article} (trial : Bool)
    (hi : articles[i]? = some c) (hp : ∀ p ∈ plan, p.needsWriting = true → Spares c.id p) :
    (d.write m plan articles trial).articles[i]? = some c := by
  unfold write
  cases trial with
  | true => exact hi
  | false =>
      refine foldl_step_getElem? hi fun p h => ?_
      obtain ⟨hmem, hneeds⟩ := List.mem_filter.1 h
      exact hp p hmem hneeds

theorem mem_write {plan : List PlannedTopic} {articles : List Article} {trial : Bool}
    (h : c ∈ (d.write m plan articles trial).articles) :
    c ∈ articles ∨ ∃ p ∈ plan, ∃ draft, c = p.article draft m d.now := by
  unfold write at h
  cases trial with
  | true => exact .inl h
  | false =>
      rcases mem_foldl_step h with hc | ⟨p, hp, draft, rfl⟩
      · exact .inl hc
      · exact .inr ⟨p, (List.mem_filter.1 hp).1, draft, rfl⟩

/-- A topic that is written replaces no pinned article. -/
theorem not_isPinned_of_needsWriting {articles : List Article} {categories : List Text}
    {changedOnly : Bool} {plan : List PlannedTopic} {p : PlannedTopic} {b : Article}
    (h : planArticles m categories articles changedOnly = .ok plan) (hp : p ∈ plan)
    (hneeds : p.needsWriting = true) (hb : p.decision.existing? = some b) :
    b ∈ articles ∧ ¬ b.IsPinned := by
  obtain ⟨-, hd⟩ := mem_planArticles h hp
  unfold PlannedTopic.needsWriting at hneeds
  rcases Feature.decide_eq_ok hd with ⟨t, -, -, hdec⟩ | ⟨a, -, -, hdec⟩ | ⟨a, -, -, -, -, hdec⟩ |
    ⟨a, t, he, hpin, -, -, hdec⟩
  · rw [hdec] at hb; cases hb
  · rw [hdec] at hneeds; cases hneeds
  · rw [hdec] at hneeds; cases hneeds
  · rw [hdec] at hb
    obtain rfl := Option.some.inj hb
    exact ⟨articleOn_mem he, hpin⟩

theorem generate_eq_ok_iff {categories : List Text} {articles : List Article}
    {changedOnly trial : Bool} {r : BatchResult} :
    d.generate m categories articles changedOnly trial = .ok r ↔
      ∃ plan, planArticles m categories articles changedOnly = .ok plan ∧
        d.write m plan articles trial = r := by
  constructor
  · intro h
    obtain ⟨plan, hplan, hr⟩ := Except.bind_eq_ok_iff.1 h
    exact ⟨plan, hplan, Except.ok.inj hr⟩
  · rintro ⟨plan, hplan, rfl⟩
    exact Except.bind_ok hplan rfl

/-- A batch is written unless there is a list of files that no set can hold. -/
theorem exists_generate (d : Desk) {articles : List Article} (categories : List Text)
    (changedOnly trial : Bool) (hm : ∀ p ∈ m.pages, AreKeys p.sourceFiles)
    (ha : ∀ a ∈ articles, AreKeys a.sourceFiles) :
    ∃ r, d.generate m categories articles changedOnly trial = .ok r := by
  obtain ⟨plan, hplan⟩ := exists_planArticles categories changedOnly hm ha
  exact ⟨_, generate_eq_ok_iff.2 ⟨plan, hplan, rfl⟩⟩

/-- Writing a batch leaves every pinned article in its place with all its fields, and a batch can be
written unless some file lists hold values that no set can hold. -/
theorem generate_keeps_pinned (d : Desk) (m : CodeMap) (categories : List Text)
    (articles : List Article) (changedOnly trial : Bool)
    (hids : (articles.map fun a => a.id).Nodup) :
    (∀ r, d.generate m categories articles changedOnly trial = .ok r →
      ∀ (i : ℕ) (a : Article), articles[i]? = some a → a.IsPinned → r.articles[i]? = some a) ∧
    ((∀ p ∈ m.pages, AreKeys p.sourceFiles) → (∀ a ∈ articles, AreKeys a.sourceFiles) →
      ∃ r, d.generate m categories articles changedOnly trial = .ok r) := by
  constructor
  · intro r h i a hi hpin
    obtain ⟨plan, hplan, hr⟩ := Except.bind_eq_ok_iff.1 h
    obtain rfl := Except.ok.inj hr
    refine write_getElem? trial hi fun p hp hneeds b hb hid => ?_
    obtain ⟨hmem, hfree⟩ := not_isPinned_of_needsWriting hplan hp hneeds hb
    -- the ids differ between articles, so the one replaced would be the pinned one
    have hsame : b = a := List.inj_on_of_nodup_map hids hmem (List.mem_of_getElem? hi) hid
    exact hfree (hsame ▸ hpin)
  · intro hm ha
    obtain ⟨plan, hplan⟩ := exists_planArticles categories changedOnly hm ha
    exact ⟨_, Except.bind_eq_ok_iff.2 ⟨plan, hplan, rfl⟩⟩

/-- The later of two articles on one topic is written again; the earlier one, which is pinned, stays
as it is. -/
theorem generate_keeps_shadowed_pin :
    let pinned : Article := { id := lit "a", topic := lit "billing.plan", pinned := true }
    let shown : Article := { id := lit "b", topic := lit "billing.plan" }
    let d : Desk := ⟨fun _ => .ok (lit "New text"), [], lit "Shop", ⟨0⟩⟩
    let m : CodeMap := { features := [⟨lit "billing.plan", .double (.ofInt 1), []⟩] }
    (([pinned, shown].map fun a => a.id).Nodup ∧ pinned.IsPinned) ∧
    ∃ r, d.generate m [lit "billing"] [pinned, shown] false false = .ok r ∧
      r.articles[0]? = some pinned := by
  intro pinned shown d m
  have hids : ([pinned, shown].map fun a => a.id).Nodup := by decide
  have hpin : pinned.IsPinned := .inl rfl
  obtain ⟨hkept, hsome⟩ :=
    generate_keeps_pinned d m [lit "billing"] [pinned, shown] false false hids
  obtain ⟨r, hr⟩ := hsome (by simp [m]) (by simp [AreKeys, pinned, shown])
  exact ⟨⟨hids, hpin⟩, r, hr, hkept r hr 0 pinned rfl hpin⟩

end Desk

end HelpCenter

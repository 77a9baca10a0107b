import HelpCenter.Article.Plan
import HelpCenter.Proofs.CodeMap.Merge
import HelpCenter.Proofs.Except
import Mathlib.Data.List.Nodup

/-!
# What a plan decides

`Feature.decide_eq_ok` lists the four decisions about a feature with everything they depend on, and
`mem_planArticles` says where the entries of a plan come from.  Planning can only fail on source
files that no set can hold (`exists_planArticles`).
-/

namespace HelpCenter

/-- The article is pinned, by its mark or by its state. -/
def Article.IsPinned (a : Article) : Prop := a.pinned = true ∨ a.status = lit "pinned"

theorem Article.isPinned_iff (a : Article) :
    (a.pinned || decide (a.status = lit "pinned")) = true ↔ a.IsPinned := by
  simp [Article.IsPinned]

/-- The article that counts as the one on a topic: of several, the last. -/
def articleOn (articles : List Article) (topic : Text) : Option Article :=
  articles.reverse.find? fun a => a.topic = topic

theorem articleOn_mem {articles : List Article} {topic : Text} {a : Article}
    (h : articleOn articles topic = some a) : a ∈ articles := by
  simpa using List.mem_of_find?_eq_some h

theorem articleOn_topic {articles : List Article} {topic : Text} {a : Article}
    (h : articleOn articles topic = some a) : a.topic = topic := by
  simpa using List.find?_some h

theorem articleOn_eq_none_iff {articles : List Article} {topic : Text} :
    articleOn articles topic = none ↔ ∀ a ∈ articles, a.topic ≠ topic := by
  simp [articleOn, List.find?_eq_none]

/-- Where the topics are different, each article is the one on its topic. -/
theorem articleOn_of_nodup {articles : List Article} {a : Article}
    (h : (articles.map Article.topic).Nodup) (ha : a ∈ articles) :
    articleOn articles a.topic = some a := by
  cases hon : articleOn articles a.topic with
  | none => exact absurd rfl (articleOn_eq_none_iff.1 hon a ha)
  | some b => rw [List.inj_on_of_nodup_map h (articleOn_mem hon) ha (articleOn_topic hon)]

/-! ## Decisions -/

namespace Feature

variable {f : Feature} {m : CodeMap}

/-- The decisions about a feature, each with what it depends on. -/
theorem decide_eq_ok {existing : Option Article} {changedOnly : Bool} {d : Decision}
    (h : f.decide m existing changedOnly = .ok d) :
    (∃ context, existing = none ∧ f.context m = .ok context ∧ d = .create context) ∨
    (∃ a, existing = some a ∧ a.IsPinned ∧ d = .skipPinned a) ∨
    (∃ a, existing = some a ∧ ¬ a.IsPinned ∧ changedOnly = true ∧ f.hasNewFiles a = .ok false ∧
      d = .skipUnchanged a) ∨
    (∃ a context, existing = some a ∧ ¬ a.IsPinned ∧
      (changedOnly = true → f.hasNewFiles a = .ok true) ∧ f.context m = .ok context ∧
      d = .update a context) := by
  unfold decide at h
  cases existing with
  | none =>
      obtain ⟨context, hc, hd⟩ := Except.bind_eq_ok_iff.1 h
      exact .inl ⟨context, rfl, hc, (Except.ok.inj hd).symm⟩
  | some a =>
      by_cases hp : a.IsPinned
      · have hc := (Article.isPinned_iff a).2 hp
        simp only [hc, if_true] at h
        exact .inr (.inl ⟨a, rfl, hp, (Except.ok.inj h).symm⟩)
      have hc : ¬ (a.pinned || Decidable.decide (a.status = lit "pinned")) = true :=
        fun e => hp ((Article.isPinned_iff a).1 e)
      simp only [hc] at h
      cases changedOnly with
      | false =>
          obtain ⟨context, hx, hd⟩ := Except.bind_eq_ok_iff.1 h
          exact .inr (.inr (.inr ⟨a, context, rfl, hp, by simp, hx, (Except.ok.inj hd).symm⟩))
      | true =>
          obtain ⟨new, hn, hd⟩ := Except.bind_eq_ok_iff.1 h
          cases new with
          | false =>
              exact .inr (.inr (.inl ⟨a, rfl, hp, rfl, hn, (Except.ok.inj hd).symm⟩))
          | true =>
              obtain ⟨context, hx, hd⟩ := Except.bind_eq_ok_iff.1 hd
              exact .inr (.inr (.inr ⟨a, context, rfl, hp, fun _ => hn, hx,
                (Except.ok.inj hd).symm⟩))

end Feature

/-! ## Plans -/

/-- Each eligible feature has one entry in the plan, in order, decided by the article on its
topic. -/
theorem planArticles_eq_ok {m : CodeMap} {categories : List Text} {articles : List Article}
    {changedOnly : Bool} {plan : List PlannedTopic}
    (h : planArticles m categories articles changedOnly = .ok plan) :
    List.Forall₂ (fun f p => p.feature = f ∧
        f.decide m (articleOn articles f.id) changedOnly = .ok p.decision)
      (eligibleFeatures m.features categories) plan := by
  refine (Except.mapM_eq_ok_iff.1 h).imp fun f p hp => ?_
  obtain ⟨d, hd, he⟩ := Except.bind_eq_ok_iff.1 hp
  obtain rfl := Except.ok.inj he
  exact ⟨rfl, hd⟩

theorem mem_planArticles {m : CodeMap} {categories : List Text} {articles : List Article}
    {changedOnly : Bool} {plan : List PlannedTopic} {p : PlannedTopic}
    (h : planArticles m categories articles changedOnly = .ok plan) (hp : p ∈ plan) :
    p.feature ∈ eligibleFeatures m.features categories ∧
      p.feature.decide m (articleOn articles p.feature.id) changedOnly = .ok p.decision := by
  obtain ⟨f, hf, rfl, hd⟩ := (planArticles_eq_ok h).exists_of_mem_right hp
  exact ⟨hf, hd⟩

/-- An article that is not pinned is planned to be written again if its feature is eligible. -/
theorem update_mem_planArticles {m : CodeMap} {categories : List Text} {articles : List Article}
    {plan : List PlannedTopic} {f : Feature} {a : Article} {context : Text}
    (h : planArticles m categories articles false = .ok plan)
    (hf : f ∈ eligibleFeatures m.features categories) (ha : articleOn articles f.id = some a)
    (hpin : ¬ a.IsPinned) (hcontext : f.context m = .ok context) :
    ⟨f, .update a context⟩ ∈ plan := by
  obtain ⟨⟨_, decision⟩, hp, rfl, hd⟩ := (planArticles_eq_ok h).flip.exists_of_mem_right hf
  rw [ha] at hd
  obtain ⟨_, hnone, -, -⟩ | ⟨b, hb, hpinned, -⟩ | ⟨_, -, -, hnever, -, -⟩ |
    ⟨b, context', hb, -, -, hcontext', rfl⟩ := Feature.decide_eq_ok hd
  · cases hnone
  · exact absurd (Option.some.inj hb ▸ hpinned) hpin
  · cases hnever
  · obtain rfl := Option.some.inj hb
    obtain rfl := Except.ok.inj (hcontext.symm.trans hcontext')
    exact hp

section Success

/-- The values can be looked up in a set. -/
def AreKeys (values : List Json) : Prop := ∀ v ∈ values, v.isKey = true

theorem keyTexts_eq_ok {values : List Json} (h : AreKeys values) :
    keyTexts values = .ok (values.filterMap Json.str?) := by
  unfold keyTexts
  rw [if_pos (List.all_eq_true.2 h)]

theorem filterM_eq_ok {α ε : Type} {p : α → Except ε Bool} {q : α → Bool} {xs : List α}
    (h : ∀ x ∈ xs, p x = .ok (q x)) : xs.filterM p = .ok (xs.filter q) := by
  have haux (acc : List α) : xs.filterAuxM p acc = .ok ((xs.filter q).reverse ++ acc) := by
    induction xs generalizing acc with
    | nil => rfl
    | cons x xs ih =>
        rw [List.forall_mem_cons] at h
        rw [List.filterAuxM, h.1]
        refine (ih h.2 (cond (q x) (x :: acc) acc)).trans ?_
        cases hq : q x <;> simp [hq]
  rw [List.filterM, haux]
  exact congrArg Except.ok (by simp)

/-- The files of a page. -/
def Page.files (p : Page) : List Text := p.sourceFiles.filterMap Json.str?

/-- Some evidence of a feature lies on a page. -/
def Feature.LiesOn (f : Feature) (p : Page) : Prop := ∃ e ∈ f.evidence, e.sourceFile ∈ p.files

instance (f : Feature) (p : Page) : Decidable (f.LiesOn p) :=
  inferInstanceAs (Decidable (∃ e ∈ f.evidence, e.sourceFile ∈ p.files))

theorem Feature.mem_sourceFiles_iff {f : Feature} {file : Text} :
    file ∈ f.sourceFiles ↔ ∃ e ∈ f.evidence, e.sourceFile = file := by
  rw [Feature.sourceFiles, mem_firstSeen, List.mem_map]

/-- The relevant pages are those that evidence lies on. -/
theorem CodeMap.relevantPages_eq_ok {m : CodeMap} (h : ∀ p ∈ m.pages, AreKeys p.sourceFiles)
    (f : Feature) : m.relevantPages f = .ok (m.pages.filter fun p => f.LiesOn p) := by
  refine filterM_eq_ok fun p hp => ?_
  rw [keyTexts_eq_ok (h p hp)]
  refine congrArg Except.ok (Bool.eq_iff_iff.2 ?_)
  simp only [List.any_eq_true, List.contains_iff_mem, Feature.mem_sourceFiles_iff,
    decide_eq_true_eq]
  constructor
  · rintro ⟨_, hfile, e, he, rfl⟩
    exact ⟨e, he, hfile⟩
  · rintro ⟨e, he, hfile⟩
    exact ⟨_, hfile, e, he, rfl⟩

/-- What the writer is told about a feature in front of its pages. -/
def Feature.frontLines (f : Feature) : List Text :=
  [lit "Feature: " ++ f.id, lit "Confidence: " ++ f.confidence.toDouble.toGeneralText 6, []]

/-- The evidence that the writer is told behind the pages of a feature. -/
def Feature.evidenceLines (f : Feature) : List Text :=
  (f.evidence.take maxSnippets).map fun e =>
    lit "  - " ++ e.pattern ++ lit " (" ++ e.sourceFile ++ lit ":" ++ Text.ofInt e.line ++ lit ")"

/-- What the writer is told about a feature, line by line. -/
theorem Feature.context_eq {f : Feature} {m : CodeMap} {pages : List Page}
    (h : m.relevantPages f = .ok pages) :
    f.context m = .ok (Text.joinWith (lit "\n") (f.frontLines ++ (if pages = [] then [] else
      lit "Relevant Pages:" :: pages.flatMap Page.contextLines ++ [[]]) ++
      lit "Code Evidence:" :: f.evidenceLines)) := by
  unfold context
  rw [h]
  cases pages <;> rfl

/-- A feature can be described if the files of all pages can be looked up. -/
theorem Feature.exists_context (f : Feature) {m : CodeMap}
    (h : ∀ p ∈ m.pages, AreKeys p.sourceFiles) : ∃ t, f.context m = .ok t :=
  ⟨_, f.context_eq (m.relevantPages_eq_ok h f)⟩

theorem Feature.exists_decide (f : Feature) {m : CodeMap} {existing : Option Article}
    (changedOnly : Bool) (hm : ∀ p ∈ m.pages, AreKeys p.sourceFiles)
    (ha : ∀ a, existing = some a → AreKeys a.sourceFiles) :
    ∃ d, f.decide m existing changedOnly = .ok d := by
  obtain ⟨t, ht⟩ := f.exists_context hm
  unfold Feature.decide
  cases existing with
  | none => exact ⟨_, by simp only [ht]; rfl⟩
  | some a =>
      have hn : f.hasNewFiles a = .ok (f.sourceFiles.any fun file =>
          !(a.sourceFiles.filterMap Json.str?).contains file) := by
        unfold Feature.hasNewFiles
        rw [keyTexts_eq_ok (ha a rfl)]
        rfl
      simp only [ht, hn]
      split
      · exact ⟨_, rfl⟩
      · cases changedOnly <;> cases (f.sourceFiles.any fun file =>
          !(a.sourceFiles.filterMap Json.str?).contains file) <;> exact ⟨_, rfl⟩

theorem exists_planArticles {m : CodeMap} {articles : List Article} (categories : List Text)
    (changedOnly : Bool) (hm : ∀ p ∈ m.pages, AreKeys p.sourceFiles)
    (ha : ∀ a ∈ articles, AreKeys a.sourceFiles) :
    ∃ plan, planArticles m categories articles changedOnly = .ok plan := by
  refine Except.exists_mapM_eq_ok fun f _ => ?_
  obtain ⟨d, hd⟩ := f.exists_decide changedOnly hm fun a h => ha a (articleOn_mem h)
  exact ⟨⟨f, d⟩, Except.bind_eq_ok_iff.2 ⟨d, hd, rfl⟩⟩

end Success

end HelpCenter

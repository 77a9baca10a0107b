import HelpCenter.Proofs.Article.Identity
import HelpCenter.Proofs.Article.Reading
import HelpCenter.Proofs.Store.Articles
import HelpCenter.Store.Articles

/-!
# Properties of the stored articles

Operations on a store keep a property of its articles, however they end, if the property holds of no
articles, if reading back keeps it (`IsLasting`), and if the articles that are saved have it
(`leaves_save`, `leaves_changeArticle`, `leaves_delete`).  That the ids of the articles are minted is
such a property (`isLasting_minted`), and replacing an article by one with its id and topic changes no
id and no topic (`replaceArticle_keys`).
-/

namespace HelpCenter

open Json

namespace Store

/-- The property holds of no articles, and of those that are read back where articles with the
property were written. -/
structure IsLasting (I : List Article → Prop) : Prop where
  nil : I []
  restored : ∀ articles, I articles → I (restored articles)

variable {s : Store} {t : FileTree} {now : Moment} {k : KnowledgeBase} {id : Text}
  {I : List Article → Prop} {topics : Set Text} {times : Set Moment}

theorem ofJson_of_recordOf {a b : Article}
    (h : recordOf Article.ofJson a.toJson.normal = some b) :
    Article.ofJson a.toJson.normal = .ok b := by
  have hobj : ∃ members, a.toJson.normal = .obj members := by
    rw [Article.toJson, normal_ofFields (by simp)]
    exact ⟨_, rfl⟩
  obtain ⟨members, hm⟩ := hobj
  rw [hm] at h ⊢
  have hread : (Article.ofJson (.obj members)).toOption = some b := h
  cases hr : Article.ofJson (.obj members) with
  | ok c => rw [hr] at hread; exact congrArg Except.ok (Option.some.inj hread)
  | error e => rw [hr] at hread; cases hread

/-- A property of single articles that reading back keeps is lasting. -/
theorem isLasting_forall {P : Article → Prop}
    (h : ∀ a b, Article.ofJson a.toJson.normal = .ok b → P a → P b) :
    IsLasting fun articles => ∀ a ∈ articles, P a where
  nil := nofun
  restored articles harticles b hb := by
    obtain ⟨a, ha, hread⟩ := List.mem_filterMap.1 hb
    exact h a b (ofJson_of_recordOf hread) (harticles a ha)

/-! ## Saving -/

theorem leaves_save (hI : IsLasting I) (hnames : Action.checkNames s.itemsFile = .ok ())
    (ht : I (s.stored t)) (hk : I k.articles)
    (hopen : (itemsJson k).isPrintable = true ∨ ∃ q bytes, t.Holds s.itemsFile q bytes) :
    Action.Leaves t now (s.save k) fun t' => I (s.stored t') := by
  rintro w rfl rfl
  have hstored := save_stored (w := w) hnames hopen
  simp only [List.mem_cons, List.not_mem_nil, or_false] at hstored
  rcases hstored with h | h | h
  · rw [h]
    exact ht
  · rw [h]
    exact hI.restored _ hk
  · rw [h]
    exact hI.nil

/-- What is known after loading. -/
theorem quiet_load (s : Store) : Action.Quiet t now s.load fun k =>
    Action.checkNames s.itemsFile = .ok () ∧ k = s.content t :=
  (reads_load s).quiet.mono fun k h => by
    obtain ⟨hload, hk⟩ := loaded_eq_ok_iff.1 h
    exact ⟨hload.names _ (List.mem_cons_self ..), hk⟩

/-- Where there is an article there is a file of articles. -/
theorem holds_of_mem {a : Article} (h : a ∈ s.stored t) :
    ∃ q bytes, t.Holds s.itemsFile q bytes := by
  refine (holds_or_stored_eq_nil s t).resolve_right fun hnil => ?_
  rw [hnil] at h
  cases h

/-! ## Edits -/

theorem mem_replaceArticle {a b : Article} {articles : List Article}
    (h : a ∈ KnowledgeBase.replaceArticle id b articles) : a = b ∨ a ∈ articles := by
  induction articles with
  | nil => cases h
  | cons c rest ih =>
      unfold KnowledgeBase.replaceArticle at h
      split at h
      · rcases List.mem_cons.1 h with rfl | h
        · exact .inl rfl
        · exact .inr (List.mem_cons_of_mem _ h)
      · rcases List.mem_cons.1 h with rfl | h
        · exact .inr (List.mem_cons_self ..)
        · exact (ih h).imp_right (List.mem_cons_of_mem _)

theorem quiet_findArticle (k : KnowledgeBase) (id : Text) :
    Action.Quiet t now (findArticle k id) (k.article? id = some ·) := by
  unfold findArticle
  split
  · next a ha => exact Action.quiet_pure ha
  · exact Action.quiet_throw _

theorem leaves_changeArticle (hI : IsLasting I) (ht : I (s.stored t))
    {change : Article → Moment → Except Failure Article}
    (hchange : ∀ a b, (s.stored t).find? (·.id = id) = some a → change a now = .ok b →
      I (KnowledgeBase.replaceArticle id b (s.stored t))) :
    Action.Leaves t now (s.changeArticle id change) fun t' => I (s.stored t') := by
  refine (quiet_load s).bind_leaves ht fun k ⟨hnames, hk⟩ => ?_
  subst hk
  refine (quiet_findArticle _ id).bind_leaves ht fun a ha => ?_
  refine Action.quiet_now.bind_leaves ht fun now' hnow => ?_
  refine (Action.quiet_ofExcept _).bind_leaves ht fun b hb => ?_
  have hmem : a ∈ s.stored t := List.mem_of_find?_eq_some ha
  refine (leaves_save hI hnames ht (hchange a b ha (hnow ▸ hb)) (.inr (holds_of_mem hmem))).bind ?_
  exact fun _ _ _ h => (Action.quiet_pure trivial (Q := fun _ => True)).leaves h

theorem leaves_setStatus (hI : IsLasting I) (ht : I (s.stored t)) {status : Text}
    (hchange : status ∈ Article.statuses → ∀ a, (s.stored t).find? (·.id = id) = some a →
      I (KnowledgeBase.replaceArticle id (a.inStatus status) (s.stored t))) :
    Action.Leaves t now (s.setStatus id status) fun t' => I (s.stored t') := by
  unfold setStatus
  by_cases hstatus : status ∈ Article.statuses
  · have hchange : Action.Leaves t now (s.changeArticle id fun a _ => .ok (a.inStatus status))
        fun t' => I (s.stored t') :=
      leaves_changeArticle hI ht fun a b ha hb => by
        obtain rfl := Except.ok.inj hb
        exact hchange hstatus a ha
    simpa [hstatus] using hchange
  · have hrefused : (!Article.statuses.contains status) = true := by simpa using hstatus
    rw [if_pos hrefused]
    exact (Action.quiet_throw (Q := fun _ => False) _).bind_leaves ht fun _ h => h.elim

/-! ## Removal -/

theorem leaves_removeDocument (hI : IsLasting I) (ht : I (s.stored t)) (file : FilePath) :
    Action.Leaves t now (removeDocument file) fun t' => I (s.stored t') := by
  rintro w rfl rfl
  unfold removeDocument Action.removeFile
  rw [Action.perform_onFileFault_snd]
  obtain ⟨e, hw, -⟩ | ⟨t', hw, ht'⟩ := Action.changeFiles_cases (file.place []) _ w
  · rw [hw]
    exact ht
  rw [hw]
  split at ht'
  · obtain rfl := Except.ok.inj ht'
    exact ht
  · rcases stored_of_remove (s := s) ht' with h | h
    · show I (s.stored t')
      rw [h]
      exact ht
    · show I (s.stored t')
      rw [h]
      exact hI.nil

theorem leaves_delete (hI : IsLasting I) (ht : I (s.stored t))
    (hkept : I ((s.stored t).filter (·.id ≠ id))) :
    Action.Leaves t now (s.delete id) fun t' => I (s.stored t') := by
  refine (quiet_load s).bind_leaves ht fun k ⟨hnames, hk⟩ => ?_
  subst hk
  refine (quiet_findArticle _ id).bind_leaves ht fun a ha => ?_
  have hmem : a ∈ s.stored t := List.mem_of_find?_eq_some ha
  refine (leaves_save hI hnames ht hkept (.inr (holds_of_mem hmem))).bind fun _ _ _ h => ?_
  exact (leaves_removeDocument hI h _).bind fun _ _ _ h => leaves_removeDocument hI h _

/-! ## Ids and topics -/

theorem key_of_ofJson_normal {a b : Article} (h : Article.ofJson a.toJson.normal = .ok b) :
    b.key = (Text.joinPairs a.id, Text.joinPairs a.topic) := by
  obtain ⟨x, -, rfl⟩ := Article.exists_readBack h
  rfl

/-- Articles are read back with the ids and topics that they were written with. -/
theorem restored_sublist {articles : List Article}
    (h : ∀ a ∈ articles, Text.joinPairs a.id = a.id ∧ Text.joinPairs a.topic = a.topic) :
    ((restored articles).map Article.key).Sublist (articles.map Article.key) := by
  unfold restored
  induction articles with
  | nil => exact .slnil
  | cons a articles ih =>
      obtain ⟨ha, harticles⟩ := List.forall_mem_cons.1 h
      rw [List.filterMap_cons, List.map_cons]
      split
      · exact (ih harticles).cons _
      · next b hb =>
        have hread := ofJson_of_recordOf hb
        rw [List.map_cons, key_of_ofJson_normal hread, ha.1, ha.2]
        exact (ih harticles).cons_cons _

/-- The stored articles have minted ids. -/
def IsMinted (s : Store) (topics : Set Text) (times : Set Moment) (t : FileTree) : Prop :=
  Minted topics times ((s.stored t).map Article.key)

theorem isLasting_minted (hapart : TellsApart topics times) :
    IsLasting fun articles => Minted topics times (articles.map Article.key) where
  nil := minted_nil
  restored _ h := h.sublist (restored_sublist (List.forall_mem_map.1 (h.joined hapart)))

theorem replaceArticle_keys {a b : Article} {articles : List Article}
    (h : articles.find? (·.id = id) = some a) (hb : b.key = a.key) :
    (KnowledgeBase.replaceArticle id b articles).map Article.key = articles.map Article.key := by
  induction articles with
  | nil => cases h
  | cons c rest ih =>
      unfold KnowledgeBase.replaceArticle
      by_cases hc : c.id = id
      · rw [List.find?_cons_of_pos (by simpa using hc)] at h
        obtain rfl := Option.some.inj h
        rw [if_pos hc, List.map_cons, List.map_cons, hb]
      · rw [List.find?_cons_of_neg (by simpa using hc)] at h
        rw [if_neg hc, List.map_cons, List.map_cons, ih h]

end Store

end HelpCenter

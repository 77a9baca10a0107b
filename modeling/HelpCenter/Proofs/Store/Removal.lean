import HelpCenter.Proofs.Store.Frame
import HelpCenter.Proofs.Store.Mirror

/-!
# Documents of removed articles

The one mutation that gives up an article is to delete it, and it removes the documents of the
article after saving (`GivesUp.documented`).  So every mutation that succeeds leaves the documents of
the articles it has made (`Mutation.documented`).
-/

namespace HelpCenter

namespace Store

variable {s : Store} {base : Place} {w w' : Workspace} {k : KnowledgeBase} {t t' : FileTree}
  {articles : List Article}

/-! ## Removing documents -/

/-- The documents of an article are removed, and nothing else changes. -/
structure Prunes (s : Store) (base : Place) (gone : Article) (t t' : FileTree) : Prop where
  locate : ∀ {p q}, t.locate p = .ok q → t'.locate p = .ok q
  entry : ∀ {q e}, t'.entry? q = some e → t.entry? q = some e
  holds : ∀ {p q c}, t.Holds p q c → q ≠ base ++ topicNames gone.topic →
    q ≠ base ++ idNames gone.id → t'.Holds p q c
  removed : ∀ {names c}, names = topicNames gone.topic ∨ names = idNames gone.id →
    t.Holds (s.docsDir.names ++ names) (base ++ names) c → t'.entry? (base ++ names) = none

theorem drops_of_removeDocument {f : FilePath} {names : List Text} {q : Place}
    (hbase : ∀ q, w.files.locate s.docsDir.names = .ok q → q = base)
    (hlinks : w.files.NoLinksBelow base) (hq : FileTree.below? [] names = some q) (hne : q ≠ [])
    (hplace : f.place [] = s.docsDir.names ++ names)
    (h : (removeDocument f).perform w = (.ok (), w')) :
    w.files.Drops (s.docsDir.names ++ names) (base ++ q) w'.files := by
  obtain ⟨-, t', ht', rfl⟩ := Action.changeFiles_eq_ok (Action.onFileFault_eq_ok h)
  rw [hplace] at ht'
  refine FileTree.drops_of_remove hbase hlinks hq hne ?_
  cases hremove : w.files.remove (s.docsDir.names ++ names) with
  | ok t'' =>
      rw [hremove] at ht'
      exact .inl ht'
  | error fault =>
      rw [hremove] at ht'
      cases fault with
      | missing => exact .inr ⟨rfl, (Except.ok.inj ht').symm⟩
      | _ => cases ht'

theorem prunes_of_removals {gone : Article} (hflat : IsFlat gone)
    (hdir : w.files.locate s.docsDir.names = .ok base) (hlinks : w.files.NoLinksBelow base)
    (h : ([s.markdownFile gone, s.jsonFile gone.id].forM removeDocument).perform w = (.ok (), w')) :
    s.Prunes base gone w.files w'.files := by
  obtain ⟨⟨⟩, wm, hfirst, h⟩ := Action.perform_bind_eq_ok h
  obtain ⟨⟨⟩, w₂, hsecond, h⟩ := Action.perform_bind_eq_ok h
  obtain rfl : w₂ = w' := congrArg Prod.snd h
  have hdrops := drops_of_removeDocument (fun q hq => Except.ok.inj (hq.symm.trans hdir)) hlinks
    (FileTree.below?_of_notMem (up_notMem_topicNames gone.topic) []) (topicNames_ne_nil _)
    (by rw [markdownFile_eq hflat.2, place_docsDir]) hfirst
  have hdir' := hdrops.locate hdir
  have hdrops' := drops_of_removeDocument (fun q hq => Except.ok.inj (hq.symm.trans hdir'))
    (hdrops.noLinksBelow hlinks) (FileTree.below?_of_notMem (up_notMem_idNames gone.id) [])
    (List.cons_ne_nil _ _) (by rw [jsonFile_eq hflat.1, place_docsDir]) hsecond
  refine ⟨fun hp => hdrops'.locate (hdrops.locate hp), fun he => hdrops.entry (hdrops'.entry he),
    fun hp hne hne' => hdrops'.holds (hdrops.holds hp hne) hne', ?_⟩
  rintro names c (rfl | rfl) hc
  · cases hentry : w₂.files.entry? (base ++ topicNames gone.topic) with
    | none => rfl
    | some e => exact absurd ((hdrops.entry_eq_none hc).symm.trans (hdrops'.entry hentry)) nofun
  · have hne : base ++ idNames gone.id ≠ base ++ topicNames gone.topic := fun heq =>
      topicNames_ne_idNames _ _ (List.append_cancel_left heq).symm
    exact hdrops'.entry_eq_none (hdrops.holds hc hne)

/-- An article is given up: the others are saved, and then its documents are removed. -/
structure GivesUp (s : Store) (base : Place) (articles : List Article) (gone : Article)
    (k : KnowledgeBase) (t t₁ t₂ : FileTree) : Prop where
  stored : ∃ a ∈ articles, a.key = gone.key
  kept : ∀ a ∈ articles, a.id ≠ gone.id → ∃ b ∈ k.articles, b.key = a.key
  others : ∀ b ∈ k.articles, b.id ≠ gone.id ∧ ∃ a ∈ articles, a.key = b.key
  save : s.Turns k t t₁
  removals : ∃ w w', w.files = t₁ ∧
    ([s.markdownFile gone, s.jsonFile gone.id].forM removeDocument).perform w = (.ok (), w') ∧
    w'.files = t₂
  stands : s.StandsAt base t₂

section GivesUp

variable {t₁ t₂ : FileTree} {gone : Article}

theorem GivesUp.prunes (h : s.GivesUp base articles gone k t t₁ t₂)
    (hdocuments : s.HasDocuments base articles t) :
    s.Prunes base gone t₁ t₂ := by
  obtain ⟨a, ha, hkey⟩ := h.stored
  obtain ⟨hid, htopic⟩ := Prod.mk.inj hkey
  have hext := h.save.extends
  have hdir := hext.locate (hdocuments.directory (List.ne_nil_of_mem ha))
  have hlinks := hext.noLinksBelow hdocuments.links
  obtain ⟨hflatId, hflatTopic⟩ := hdocuments.isFlat a ha
  obtain ⟨w, w', rfl, hremovals, rfl⟩ := h.removals
  exact prunes_of_removals ⟨hid ▸ hflatId, htopic ▸ hflatTopic⟩ hdir hlinks hremovals

/-- What is saved can be told apart, since it could before. -/
theorem GivesUp.savesAt (h : s.GivesUp base articles gone k t t₁ t₂)
    (hdocuments : s.HasDocuments base articles t) (hfiled : s.FiledApart k.articles) :
    s.SavesAt base k t t₁ where
  save := h.save
  filed := hfiled
  minted b hb := by
    obtain ⟨-, a, ha, hkey⟩ := h.others b hb
    exact (hdocuments.minted a ha).of_key hkey
  stands := by
    have hholds := h.save.extends.holds
    obtain ⟨q, c, hitems⟩ := hholds s.itemsFile (by simp)
    obtain ⟨q', c', hgaps⟩ := hholds s.gapsFile (by simp)
    exact h.stands.of_later (h.prunes hdocuments).locate ⟨q, hitems.locate⟩ ⟨q', hgaps.locate⟩
  links := hdocuments.links

/-- The documents of the other articles are still there. -/
theorem GivesUp.holds (h : s.GivesUp base articles gone k t t₁ t₂)
    (hdocumented : s.Documented base articles t) (hfiled : s.FiledApart k.articles) {b : Article}
    (hb : b ∈ k.articles) {p q : Place} (hp : p ∈ s.documents b) {c : Bytes}
    (hq : t₁.Holds p q c) : t₂.Holds p q c := by
  have hsave := h.savesAt hdocumented.toHasDocuments hfiled
  obtain ⟨a₀, ha₀, hkey₀⟩ := h.stored
  obtain ⟨hid₀, htopic₀⟩ := Prod.mk.inj hkey₀
  obtain ⟨names, hn, rfl⟩ := (mem_documents_iff (hsave.isFlat b hb)).1 hp
  obtain rfl := place_of_locate hsave.stands hsave.noLinksBelow hn hq.locate
  obtain ⟨hother, a, ha, hkey⟩ := h.others b hb
  rw [← documentNames_congr hkey] at hn
  have hne : a.id ≠ a₀.id := by
    rw [hid₀, (Prod.mk.inj hkey).1]
    exact hother
  obtain ⟨htopic, hid⟩ := hdocumented.filed.names_ne hdocumented.isFlat ha ha₀ hne hn
  rw [htopic₀] at htopic
  rw [hid₀] at hid
  exact (h.prunes hdocumented.toHasDocuments).holds hq
    (fun heq => htopic (List.append_cancel_left heq)) fun heq => hid (List.append_cancel_left heq)

/-- The file of the articles is none of the documents. -/
theorem GivesUp.stored_eq (h : s.GivesUp base articles gone k t t₁ t₂)
    (hdocuments : s.HasDocuments base articles t) (hfiled : s.FiledApart k.articles) :
    s.stored t₂ = s.stored t₁ := by
  have hsave := h.savesAt hdocuments hfiled
  obtain ⟨hitems, -⟩ := hsave.save.saved hsave.apart
  obtain ⟨bytes, q, -, hq⟩ := hitems.holds
  have hout := hsave.stands.apart s.itemsFile (by simp) q hq.locate
  have hq' := (h.prunes hdocuments).holds hq (fun heq => hout (heq ▸ isDocument_topicNames _ _))
    fun heq => hout (heq ▸ isDocument_idNames _ _)
  rw [stored_of_holds hq, stored_of_holds hq']

/-- Giving up an article removes its documents and leaves those of the others. -/
theorem GivesUp.documented (h : s.GivesUp base articles gone k t t₁ t₂)
    (hdocumented : s.Documented base articles t) (hformat : s.WritesDocuments)
    (hfiled : s.FiledApart k.articles) (hread : ∀ a ∈ k.articles, ∃ x, a.readConfidence = .ok x) :
    s.Documented base k.articles t₂ := by
  have hprunes := h.prunes hdocumented.toHasDocuments
  have hsave := h.savesAt hdocumented.toHasDocuments hfiled
  have hnow := hsave.hasDocuments hformat hread
  have hstored := h.stored_eq hdocumented.toHasDocuments hfiled
  have hholds : ∀ b ∈ k.articles, ∀ p ∈ s.documents b, ∀ q c, t₁.Holds p q c → t₂.Holds p q c :=
    fun _ hb _ hp _ _ => h.holds hdocumented hfiled hb hp
  obtain ⟨a₀, ha₀, hkey₀⟩ := h.stored
  obtain ⟨hid₀, htopic₀⟩ := Prod.mk.inj hkey₀
  have hlinks : t₂.NoLinksBelow base := fun rel hrel target htarget =>
    hsave.noLinksBelow rel hrel target (hprunes.entry htarget)
  refine { hnow.of_holds hformat h.stands hstored hlinks hholds with only := ?_ }
  intro q e hq he hdir
  rcases hdocumented.old_or_written hsave hq (hprunes.entry he) hdir with
    ⟨a, ha, names, hn, rfl, c, hc⟩ | ⟨b, hb, p, hp, hlocate⟩
  · by_cases hid : a.id = gone.id
    · -- a document of the article itself has been removed
      obtain rfl : a = a₀ :=
        List.inj_on_of_nodup_map hdocumented.filed.ids ha ha₀ (hid.trans hid₀.symm)
      have hnames : names = topicNames gone.topic ∨ names = idNames gone.id := by
        rw [← htopic₀, ← hid₀]
        exact mem_documentNames hn
      rw [hprunes.removed hnames hc] at he
      cases he
    · obtain ⟨b, hb, hkey⟩ := h.kept a ha hid
      have hn : names ∈ s.documentNames b := documentNames_congr hkey ▸ hn
      exact ⟨b, hb, _, (mem_documents_iff (hsave.isFlat b hb)).2 ⟨names, hn, rfl⟩,
        hprunes.locate hc.locate⟩
  · exact ⟨b, hb, p, hp, hprunes.locate hlocate⟩

end GivesUp

end Store

/-! ## Mutations -/

variable {s : Store} {k k' : KnowledgeBase} {id : Text} {now : Moment} {m : Mutation}

theorem KnowledgeBase.changed_keeps {change : Article → Except Failure Article}
    (h : k.changed id change = .ok k') (hchange : ∀ a b, change a = .ok b →
      b.key = a.key ∧ b.readConfidence = a.readConfidence) :
    k'.articles.map Article.key = k.articles.map Article.key ∧
      k'.articles.map Article.readConfidence = k.articles.map Article.readConfidence := by
  obtain ⟨before, a, after, b, harticles, -, hb, rfl⟩ := changed_eq_ok h
  obtain ⟨hkey, hread⟩ := hchange a b hb
  rw [harticles]
  simp only [List.map_append, List.map_cons, hkey, hread, and_self]

namespace Mutation

/-- Only a deletion gives up an article; other mutations keep ids, topics and confidences. -/
theorem change_keeps (hm : ∀ id, m ≠ .delete id) (h : m.change now k = .ok k') :
    k'.articles.map Article.key = k.articles.map Article.key ∧
      k'.articles.map Article.readConfidence = k.articles.map Article.readConfidence := by
  cases m with
  | edit id changes by_ =>
      exact KnowledgeBase.changed_keeps h fun a b hb =>
        ⟨Article.edited_key hb, Article.readConfidence_edited hb⟩
  | setStatus id status =>
      exact KnowledgeBase.changed_keeps h fun a b hb => Except.ok.inj hb ▸ ⟨rfl, rfl⟩
  | setPinned id pinned =>
      exact KnowledgeBase.changed_keeps h fun a b hb => Except.ok.inj hb ▸ ⟨rfl, rfl⟩
  | delete id => exact absurd rfl (hm id)
  | addGap question page =>
      simp only [change] at h
      split at h
      all_goals
        obtain rfl := Except.ok.inj h
        exact ⟨rfl, rfl⟩
  | resolveGap id by_ resolution =>
      simp only [change] at h
      split at h
      · obtain rfl := Except.ok.inj h
        exact ⟨rfl, rfl⟩
      · cases h

theorem removals_eq_nil (hm : ∀ id, m ≠ .delete id) : m.removals s k = [] := by
  cases m with
  | delete id => exact absurd rfl (hm id)
  | _ => rfl

variable {base : Place} {articles : List Article} {w w' : Workspace}

/-- After a mutation that succeeds, the documents are those of the articles it has made. -/
theorem documented (h : s.Documented base articles w.files) (hformat : s.WritesDocuments)
    (hmade : m.made s w.files w.now = .ok (k, k')) (hdone : (m.action s).perform w = (.ok (), w'))
    (hfiled : s.FiledApart k'.articles) (hstands : s.StandsAt base w'.files) :
    s.Documented base k'.articles w'.files := by
  obtain ⟨k₀, k₁, w₁, hmade', hsave, -, hremove⟩ := action_eq_ok hdone
  obtain ⟨rfl, rfl⟩ := Prod.mk.inj (Except.ok.inj (hmade.symm.trans hmade'))
  obtain ⟨-, hk, hchange⟩ := made_eq_ok_iff.1 hmade
  have hstored : k.articles = s.stored w.files :=
    congrArg KnowledgeBase.articles (Store.loaded_eq_ok_iff.1 hk).2
  have hturns : s.Turns k' w.files w₁.files :=
    ⟨_, w₁, (Store.reads_load s).files_eq w, hsave, rfl⟩
  -- only a deletion removes documents; every other mutation saves articles with the same keys
  by_cases hm : ∃ id, m = .delete id
  · obtain ⟨id, rfl⟩ := hm
    obtain ⟨gone, hgone, rfl, hk', hremovals⟩ := change_delete (s := s) hchange
    have hrest := congrArg KnowledgeBase.articles hk'
    rw [hremovals] at hremove
    rw [hstored] at hgone hrest
    have hgives : s.GivesUp base articles gone k' w.files w₁.files w'.files := {
      stored := h.exists_key_iff.1 ⟨gone, hgone, rfl⟩
      kept := fun a ha hid => by
        obtain ⟨b, hb, hkey⟩ := h.exists_key_iff.2 ⟨a, ha, rfl⟩
        have hne : b.id ≠ gone.id := (Prod.mk.inj hkey).1 ▸ hid
        rw [hrest]
        exact ⟨b, List.mem_filter.2 ⟨hb, by simpa using hne⟩, hkey⟩
      others := fun b hb => by
        rw [hrest] at hb
        obtain ⟨hb, hne⟩ := List.mem_filter.1 hb
        exact ⟨of_decide_eq_true hne, h.exists_key_iff.1 ⟨b, hb, rfl⟩⟩
      save := hturns
      removals := ⟨w₁, w', rfl, hremove, rfl⟩
      stands := hstands }
    refine hgives.documented h hformat hfiled fun b hb => h.read_stored b ?_
    rw [hrest] at hb
    exact List.mem_of_mem_filter hb
  · rw [not_exists] at hm
    obtain ⟨hkeys, hread⟩ := change_keeps hm hchange
    rw [hstored] at hkeys hread
    rw [removals_eq_nil hm] at hremove
    obtain rfl : w₁ = w' := congrArg Prod.snd hremove
    refine h.saved hformat hturns (h.renews (fun _ hkey => hkeys ▸ hkey) (fun b hb => ?_)
      fun b hb => ?_) hfiled hstands
    · exact .inl (hkeys ▸ List.mem_map_of_mem hb)
    · have hconfidence := List.mem_map_of_mem (f := Article.readConfidence) hb
      rw [hread] at hconfidence
      obtain ⟨a, ha, hsame⟩ := List.mem_map.1 hconfidence
      exact hsame ▸ h.read_stored a ha

end Mutation

end HelpCenter

import HelpCenter.Proofs.Refresh.Basic
import HelpCenter.Proofs.Store.Invariant

/-!
# Properties of the articles over a run

A run keeps a lasting property of the stored articles, whatever it comes to, if every batch that it
can write does (`leaves_run`); writing one article again keeps it if putting the new article in its
place does (`leaves_rewriteArticle`).
-/

namespace HelpCenter

open HelpCenter.Action (Leaves Quiet)

namespace Refresher

variable {t : FileTree} {now : Moment} {settings : Settings} {c : Catalog} {m : CodeMap}
  {I : List Article → Prop}

/-- What is saved can be printed where no articles were stored, or there is a file of articles. -/
theorem isPrintable_or_holds {s : Store} {k : KnowledgeBase}
    (harticles : s.stored t = [] → ∀ a ∈ k.articles, a.toJson.isPrintable = true)
    (hscan : k.info.lastScanAt.isPrintable = true)
    (hgenerate : k.info.lastGenerateAt.isPrintable = true ∨
      k.info.lastGenerateAt = (s.content t).info.lastGenerateAt) :
    (Store.itemsJson k).isPrintable = true ∨ ∃ q bytes, t.Holds s.itemsFile q bytes := by
  rcases Store.holds_or_stateIn_eq_none s.itemsFile t with hholds | hnone
  · exact .inr hholds
  · refine .inl (isPrintable_itemsJson (harticles (Store.stored_of_stateIn hnone)) hscan ?_)
    refine hgenerate.elim id fun he => ?_
    rw [he]
    unfold Store.content
    rw [hnone]
    rfl

/-- The part of a run after its author was chosen. -/
def runWith (s : Settings) (c : Catalog) (root : Place) (o : RefreshOptions)
    (author : Option ChosenAuthor) : Action RefreshOutcome := do
  let store := Store.ofSettings s
  let k ← store.load
  let m ← timed "Scan" (scan s c root)
  let k := scanned k m (← Action.now)
  match author with
  | none =>
    if !o.trial then store.save k
    log "Scan complete (generation skipped)"
    return ⟨m, none, o.trial⟩
  | some a =>
    let result ← timed "Generation" (write s c a m k.articles o)
    log (summary result)
    if o.trial then
      log "Dry run: no files written"
    else
      store.save (written k result.articles (← Action.now))
      log (lit "Knowledge base saved to " ++ store.docsDir.toText)
    return ⟨m, some result, o.trial⟩

/-- Every batch that is written for the settings on the stored articles has the property. -/
def BatchesKeep (settings : Settings) (t : FileTree) (now : Moment) (o : RefreshOptions)
    (I : List Article → Prop) : Prop :=
  ∀ (c : Catalog) (d : Desk) (m : CodeMap) (r : BatchResult), catalogOf settings = .ok c →
    m.IsScanOf c → d.now = now → d.generate m settings.docs.topics
      ((Store.ofSettings settings).stored t) o.changedOnly o.trial = .ok r → I r.articles

theorem leaves_runWith (root : Place) (o : RefreshOptions) (author : Option ChosenAuthor)
    (hI : Store.IsLasting I) (hc : catalogOf settings = .ok c)
    (hbatches : BatchesKeep settings t now o I) (ht : I ((Store.ofSettings settings).stored t)) :
    Leaves t now (runWith settings c root o author)
      fun t' => I ((Store.ofSettings settings).stored t') := by
  unfold runWith
  refine (Store.quiet_load _).bind_leaves ht fun k ⟨hnames, hk⟩ => ?_
  refine (quiet_timed _ (quiet_scan hc root)).bind_leaves ht fun m hm => ?_
  refine Action.quiet_now.bind_leaves ht fun now' hnow' => ?_
  have harticles : k.articles = (Store.ofSettings settings).stored t :=
    congrArg KnowledgeBase.articles hk
  cases author with
  | none =>
      have done (t : FileTree) (now : Moment) (ht : I ((Store.ofSettings settings).stored t)) :
          Leaves t now (do
            log "Scan complete (generation skipped)"
            return (⟨m, none, o.trial⟩ : RefreshOutcome))
            fun t' => I ((Store.ofSettings settings).stored t') :=
        (Action.quiet_log _).bind_leaves ht fun _ _ => Action.leaves_pure ht
      refine Leaves.ite (fun _ => ?_) fun _ => done t now ht
      refine (Store.leaves_save hI hnames ht (harticles ▸ ht) ?_).bind fun _ => done
      refine isPrintable_or_holds (fun hnil a ha => ?_) rfl (.inr (by rw [← hk]; rfl))
      have hempty : (scanned k m now').articles = [] := harticles.trans hnil
      rw [hempty] at ha
      cases ha
  | some a =>
      refine (quiet_timed _ (quiet_write a m k.articles o)).bind_leaves ht fun r hr => ?_
      obtain ⟨d, hd, hr⟩ := hr
      refine (Action.quiet_log _).bind_leaves ht fun _ _ => ?_
      refine Leaves.ite (fun _ => ?_) fun _ => ?_
      · exact (Action.quiet_log _).bind_leaves ht fun _ _ => Action.leaves_pure ht
      refine Action.quiet_now.bind_leaves ht fun now'' _ => ?_
      have hbatch : I r.articles := hbatches c d m r hc hm hd (harticles ▸ hr)
      refine (Store.leaves_save hI hnames ht hbatch ?_).bind fun _ t' now' ht' => ?_
      · refine isPrintable_or_holds (fun hnil => ?_) rfl (.inl rfl)
        rw [harticles.trans hnil] at hr
        exact Desk.isPrintable_of_mem_generate hm hr
      · exact (Action.quiet_log _).bind_leaves ht' fun _ _ => Action.leaves_pure ht'

/-- A run keeps the property, whatever it comes to. -/
theorem leaves_run (r : Refresher) (target : Place) (o : RefreshOptions) (hI : Store.IsLasting I)
    (hsettings : Configures settings t target) (hbatches : BatchesKeep settings t now o I)
    (ht : I ((Store.ofSettings settings).stored t)) :
    Leaves t now (r.run target o) fun t' => I ((Store.ofSettings settings).stored t') := by
  unfold run
  refine Action.quiet_files.bind_leaves ht fun files hfiles => ?_
  refine (Action.quiet_log _).bind_leaves ht fun _ _ => ?_
  refine (Action.quiet_ofExcept _).bind_leaves ht fun s hs => ?_
  obtain rfl : s = settings := hsettings s (hfiles ▸ hs)
  refine (Action.quiet_ofExcept _).bind_leaves ht fun c hc => ?_
  have hauthor (x : Except Failure ChosenAuthor) :
      Quiet t now (some <$> Action.ofExcept x) fun _ => True :=
    (Action.quiet_ofExcept x).map fun _ _ => trivial
  refine Leaves.ite (fun _ => ?_) fun _ => leaves_runWith _ o none hI hc hbatches ht
  exact (hauthor _).bind_leaves ht fun author _ => leaves_runWith _ o author hI hc hbatches ht

/-! ## Writing one article again -/

theorem unpinnedArticle_eq_ok {k : KnowledgeBase} {id : Text} {a : Article}
    (h : unpinnedArticle k id = .ok a) : k.article? id = some a ∧ ¬ a.IsPinned := by
  unfold unpinnedArticle at h
  split at h
  · cases h
  · next b hb =>
    split at h
    · cases h
    · next hpin =>
      obtain rfl := Except.ok.inj h
      exact ⟨hb, fun hpinned => hpin ((Article.isPinned_iff b).2 hpinned)⟩

/-- An article is planned anew for the feature on its topic. -/
theorem planAgain_eq_ok {a : Article} {p : PlannedTopic} (h : planAgain m a = .ok p) :
    ∃ f ∈ m.features, f.id = a.topic ∧ ∃ context, f.context m = .ok context ∧
      p = ⟨f, .update a context⟩ := by
  unfold planAgain at h
  split at h
  · cases h
  · next f hf =>
    split at h
    · next context hcontext =>
      have htopic : f.id = a.topic := by simpa using List.find?_some hf
      exact ⟨f, List.mem_of_find?_eq_some hf, htopic, context, hcontext, (Except.ok.inj h).symm⟩
    · cases h

theorem feature_mem_of_planAgain {a : Article} {p : PlannedTopic} (h : planAgain m a = .ok p) :
    p.feature ∈ m.features := by
  obtain ⟨f, hf, -, context, -, rfl⟩ := planAgain_eq_ok h
  exact hf

/-- Writing an article again keeps the property, whatever it comes to. -/
theorem leaves_rewriteArticle (r : Refresher) (target : Place) (id : Text) (offline : Bool)
    (hI : Store.IsLasting I) (hsettings : Configures settings t target)
    (hrewrite : ∀ (old : Article) (m : CodeMap) (p : PlannedTopic) (draft : Draft),
      ((Store.ofSettings settings).stored t).find? (·.id = id) = some old → planAgain m old = .ok p →
        I (((Store.ofSettings settings).stored t).map fun b =>
          if b.id = id then p.article draft m now else b))
    (ht : I ((Store.ofSettings settings).stored t)) :
    Leaves t now (r.rewriteArticle target id offline)
      fun t' => I ((Store.ofSettings settings).stored t') := by
  unfold rewriteArticle
  refine Action.quiet_files.bind_leaves ht fun files hfiles => ?_
  refine (Action.quiet_ofExcept _).bind_leaves ht fun s hs => ?_
  obtain rfl : s = settings := hsettings s (hfiles ▸ hs)
  refine (Action.quiet_ofExcept _).bind_leaves ht fun c hc => ?_
  refine (Store.quiet_load _).bind_leaves ht fun k ⟨hnames, hk⟩ => ?_
  subst hk
  refine (Action.quiet_ofExcept _).bind_leaves ht fun old hold => ?_
  refine (Action.quiet_ofExcept _).bind_leaves ht fun author _ => ?_
  refine (quiet_scan hc _).bind_leaves ht fun m _ => ?_
  refine (Action.quiet_ofExcept _).bind_leaves ht fun p hp => ?_
  refine (quiet_writeOne author m p).bind_leaves ht fun a ⟨draft, ha⟩ => ?_
  refine Action.quiet_now.bind_leaves ht fun now' _ => ?_
  subst ha
  obtain ⟨hfound, -⟩ := unpinnedArticle_eq_ok hold
  have hmem : old ∈ (Store.ofSettings s).stored t := List.mem_of_find?_eq_some hfound
  refine (Store.leaves_save hI hnames ht (hrewrite old m p draft hfound hp)
    (.inr (Store.holds_of_mem hmem))).bind fun _ t' now' ht' => ?_
  exact (Action.quiet_log _).bind_leaves ht' fun _ _ => Action.leaves_pure ht'

end Refresher

end HelpCenter

import HelpCenter.Proofs.Refresh.Review
import HelpCenter.Proofs.Store.Removal

/-!
# Documents over whole runs

From a directory of documents with nothing in it on, runs and edits that succeed leave there just the
documents of the articles they saved, and these articles are what is stored
(`mirrors_of_maintained`).  What is stored need not give the same documents once more, since a title
that is a number is read back as a text (`not_mirrors_titled`).
-/

namespace HelpCenter

open HelpCenter.Action (Quiet)

open HelpCenter.Action (Yields)

/-! ## What runs save -/

/-- The articles that are saved after a run on the stored ones. -/
def RefreshOutcome.articles (out : RefreshOutcome) (stored : List Article) : List Article :=
  match out.result with
  | some r => r.articles
  | none => stored

namespace Refresher

variable {t : FileTree} {now : Moment} {settings : Settings} {c : Catalog} {o : RefreshOptions}

/-- What a run gives and leaves that was no trial. -/
def Refreshes (settings : Settings) (t : FileTree) (o : RefreshOptions) (out : RefreshOutcome)
    (t' : FileTree) : Prop :=
  ∃ k, (Store.ofSettings settings).Turns k t t' ∧
    k.articles = out.articles ((Store.ofSettings settings).stored t) ∧
    ∀ r, out.result = some r → ∃ (c : Catalog) (d : Desk) (m : CodeMap), m.IsScanOf c ∧
      d.generate m settings.docs.topics ((Store.ofSettings settings).stored t) o.changedOnly
        o.trial = .ok r

/-- A trial leaves the files as they are, and another run saves what it gives. -/
theorem yields_runWith (root : Place) (o : RefreshOptions) (author : Option ChosenAuthor)
    (hc : catalogOf settings = .ok c) :
    Yields t now (runWith settings c root o author) fun out t' =>
      (o.trial = true ∧ t' = t) ∨ (o.trial = false ∧ Refreshes settings t o out t') := by
  unfold runWith
  refine (Store.quiet_load _).bind_yields fun k ⟨_, hk⟩ => ?_
  refine (quiet_timed _ (quiet_scan hc root)).bind_yields fun m hm => ?_
  refine Action.quiet_now.bind_yields fun now' _ => ?_
  have harticles : k.articles = (Store.ofSettings settings).stored t :=
    congrArg KnowledgeBase.articles hk
  cases author with
  | none =>
      refine Yields.ite (fun hsave => ?_) fun htrial => ?_
      · refine Store.yields_save_bind (k := scanned k m now') fun t' now'' hturns => ?_
        have hsaved : o.trial = false := by simpa using hsave
        refine (Action.quiet_log _).bind fun _ _ => Action.quiet_pure (.inr ⟨hsaved, ?_⟩)
        exact ⟨scanned k m now', hturns, harticles, nofun⟩
      · have htrial : o.trial = true := by simpa using htrial
        exact ((Action.quiet_log _).bind fun _ _ =>
          Action.quiet_pure (.inl ⟨htrial, rfl⟩)).yields
  | some a =>
      refine (quiet_timed _ (quiet_write a m k.articles o)).bind_yields fun r ⟨d, _, hr⟩ => ?_
      refine (Action.quiet_log _).bind_yields fun _ _ => ?_
      refine Yields.ite (fun htrial => ?_) fun hsave => ?_
      · exact ((Action.quiet_log _).bind fun _ _ =>
          Action.quiet_pure (.inl ⟨htrial, rfl⟩)).yields
      · refine Action.quiet_now.bind_yields fun now'' _ => ?_
        refine Store.yields_save_bind (k := written (scanned k m now') r.articles now'')
          fun t' _ hturns => ?_
        have hsaved : o.trial = false := by simpa using hsave
        refine (Action.quiet_log _).bind fun _ _ => Action.quiet_pure (.inr ⟨hsaved, ?_⟩)
        refine ⟨_, hturns, rfl, fun r' hr' => ?_⟩
        obtain rfl := Option.some.inj hr'
        exact ⟨c, d, m, hm, harticles ▸ hr⟩

theorem yields_run (r : Refresher) (target : Place) (o : RefreshOptions)
    (hsettings : Configures settings t target) :
    Yields t now (r.run target o) fun out t' =>
      (o.trial = true ∧ t' = t) ∨ (o.trial = false ∧ Refreshes settings t o out t') := by
  unfold run
  refine Action.quiet_files.bind_yields fun files hfiles => ?_
  refine (Action.quiet_log _).bind_yields fun _ _ => ?_
  refine (Action.quiet_ofExcept _).bind_yields fun s hs => ?_
  obtain rfl : s = settings := hsettings s (hfiles ▸ hs)
  refine (Action.quiet_ofExcept _).bind_yields fun c hc => ?_
  have hauthor (x : Except Failure ChosenAuthor) :
      Quiet t now (some <$> Action.ofExcept x) fun _ => True :=
    (Action.quiet_ofExcept x).map fun _ _ => trivial
  refine Yields.ite (fun _ => ?_) fun _ => yields_runWith _ o none hc
  exact (hauthor _).bind_yields fun author _ => yields_runWith _ o author hc

/-- What writing an article again gives and leaves. -/
def Rewrites (settings : Settings) (t : FileTree) (id : Text) (a : Article) (t' : FileTree) :
    Prop :=
  ∃ k, (Store.ofSettings settings).Turns k t t' ∧
    k.articles = ((Store.ofSettings settings).stored t).map (fun b => if b.id = id then a else b) ∧
    ∃ (old : Article) (m : CodeMap) (p : PlannedTopic) (draft : Draft) (now : Moment),
      ((Store.ofSettings settings).stored t).find? (·.id = id) = some old ∧
      planAgain m old = .ok p ∧ (∃ c : Catalog, m.IsScanOf c) ∧ a = p.article draft m now

theorem yields_rewriteArticle (r : Refresher) (target : Place) (id : Text) (offline : Bool)
    (hsettings : Configures settings t target) :
    Yields t now (r.rewriteArticle target id offline) (Rewrites settings t id) := by
  unfold rewriteArticle
  refine Action.quiet_files.bind_yields fun files hfiles => ?_
  refine (Action.quiet_ofExcept _).bind_yields fun s hs => ?_
  obtain rfl : s = settings := hsettings s (hfiles ▸ hs)
  refine (Action.quiet_ofExcept _).bind_yields fun c hc => ?_
  refine (Store.quiet_load _).bind_yields fun k ⟨_, hk⟩ => ?_
  subst hk
  refine (Action.quiet_ofExcept _).bind_yields fun old hold => ?_
  refine (Action.quiet_ofExcept _).bind_yields fun author _ => ?_
  refine (quiet_scan hc _).bind_yields fun m hm => ?_
  refine (Action.quiet_ofExcept _).bind_yields fun p hp => ?_
  refine (quiet_writeOne author m p).bind_yields fun a ⟨draft, ha⟩ => ?_
  refine Action.quiet_now.bind_yields fun now' _ => ?_
  refine Store.yields_save_bind fun t' _ hturns => ?_
  refine (Action.quiet_log _).bind fun _ _ => Action.quiet_pure ?_
  exact ⟨_, hturns, rfl, old, m, p, draft, now, (unpinnedArticle_eq_ok hold).1, hp, ⟨c, hm⟩, ha⟩

/-! ## Documents after runs -/

section Documents

variable {s : Store} {base : Place} {t' : FileTree} {articles : List Article}

/-- A batch whose articles have different ids keeps those that are stored and adds new ones. -/
theorem renews_of_generate {d : Desk} {m : CodeMap} {categories : List Text} {changedOnly : Bool}
    {r : BatchResult} (h : s.HasDocuments base articles t) (hm : m.IsScanOf c)
    (hr : d.generate m categories (s.stored t) changedOnly false = .ok r)
    (hids : (r.articles.map Article.id).Nodup) : Store.Renews articles r.articles := by
  obtain ⟨plan, hplan, rfl⟩ := Desk.generate_eq_ok_iff.1 hr
  have hkeys := Desk.write_keys hplan hids
  refine h.renews (fun key hkey => ?_) (fun b hb => ?_) fun b hb => ?_
  · rw [hkeys]
    exact List.mem_append_left _ hkey
  · have hkey := List.mem_map_of_mem (f := Article.key) hb
    rw [hkeys] at hkey
    refine (List.mem_append.1 hkey).imp_right fun hnew => ?_
    obtain ⟨topic, -, hnew⟩ := List.mem_map.1 hnew
    obtain ⟨hid, htopic⟩ := Prod.mk.inj hnew
    exact ⟨d.now, by rw [← hid, ← htopic]⟩
  · rcases Desk.mem_write hb with hold | ⟨p, hp, draft, rfl⟩
    · exact h.read_stored b hold
    · have hf : p.feature ∈ m.features := List.mem_of_mem_filter (mem_planArticles hplan hp).1
      exact p.exists_readConfidence_article (hm.known _ hf) draft m _

theorem Refreshes.documented {out : RefreshOutcome}
    (hrun : Refreshes settings t o out t') (htrial : o.trial = false)
    (h : (Store.ofSettings settings).Documented base articles t)
    (hformat : (Store.ofSettings settings).WritesDocuments)
    (hfiled : (Store.ofSettings settings).FiledApart
      (out.articles ((Store.ofSettings settings).stored t)))
    (hstands : (Store.ofSettings settings).StandsAt base t') :
    (Store.ofSettings settings).Documented base
      (out.articles ((Store.ofSettings settings).stored t)) t' := by
  obtain ⟨k, hturns, harticles, hbatch⟩ := hrun
  rw [← harticles] at hfiled ⊢
  refine h.saved hformat hturns ?_ hfiled hstands
  unfold RefreshOutcome.articles at harticles
  split at harticles
  · next r hr =>
    obtain ⟨c, d, m, hm, hgenerate⟩ := hbatch r hr
    rw [htrial] at hgenerate
    rw [harticles] at hfiled ⊢
    exact renews_of_generate h.toHasDocuments hm hgenerate hfiled.ids
  · rw [harticles]
    exact h.renews (List.Subset.refl _) (fun b hb => .inl (List.mem_map_of_mem hb)) h.read_stored

theorem Rewrites.documented {id : Text} {a : Article} (hrewrite : Rewrites settings t id a t')
    (h : (Store.ofSettings settings).Documented base articles t)
    (hformat : (Store.ofSettings settings).WritesDocuments)
    (hfiled : (Store.ofSettings settings).FiledApart
      (((Store.ofSettings settings).stored t).map fun b => if b.id = id then a else b))
    (hstands : (Store.ofSettings settings).StandsAt base t') :
    (Store.ofSettings settings).Documented base
      (((Store.ofSettings settings).stored t).map fun b => if b.id = id then a else b) t' := by
  obtain ⟨k, hturns, harticles, old, m, p, draft, now, hold, hp, ⟨c, hm⟩, rfl⟩ := hrewrite
  rw [← harticles] at hfiled ⊢
  refine h.saved hformat hturns ?_ hfiled hstands
  rw [harticles]
  have hid : old.id = id := by simpa using List.find?_some hold
  have hids : (((Store.ofSettings settings).stored t).map Article.id).Nodup := by
    rw [map_id_eq, h.keys, ← map_id_eq]
    exact h.filed.ids
  have hkeys := map_replace_keys hids (List.mem_of_find?_eq_some hold) hid
    (planAgain_key hp draft now)
  refine h.renews (fun key hkey => hkeys ▸ hkey) (fun b hb => ?_) fun b hb => ?_
  · exact .inl (hkeys ▸ List.mem_map_of_mem hb)
  · obtain ⟨b', hb', rfl⟩ := List.mem_map.1 hb
    split
    · exact p.exists_readConfidence_article (hm.known _ (feature_mem_of_planAgain hp)) draft m now
    · exact h.read_stored b' hb'

end Documents

end Refresher

/-! ## Sequences of calls -/

/-- A call on a project succeeds and leaves the workspace as it is in the end.  Of the articles that
were saved last, `articles` before the call and the given ones after it. -/
inductive Succeeds (settings : Settings) (w : Workspace) (articles : List Article) :
    List Article → Workspace → Prop
  | mutation (m : Mutation) {k k' : KnowledgeBase} {w' : Workspace}
    (hmade : m.made (Store.ofSettings settings) w.files w.now = .ok (k, k'))
    (h : (m.action (Store.ofSettings settings)).perform w = (.ok (), w')) :
    Succeeds settings w articles k'.articles w'
  | run (r : Refresher) (target : Place) (o : RefreshOptions) {out : RefreshOutcome}
    {w' : Workspace} (hsettings : Refresher.Configures settings w.files target)
    (htrial : o.trial = false) (h : (r.run target o).perform w = (.ok out, w')) :
    Succeeds settings w articles (out.articles ((Store.ofSettings settings).stored w.files)) w'
  | trial (r : Refresher) (target : Place) (o : RefreshOptions) {out : RefreshOutcome}
    {w' : Workspace} (hsettings : Refresher.Configures settings w.files target)
    (htrial : o.trial = true) (h : (r.run target o).perform w = (.ok out, w')) :
    Succeeds settings w articles articles w'
  | rewrite (r : Refresher) (target : Place) (id : Text) (offline : Bool) {a : Article}
    {w' : Workspace} (hsettings : Refresher.Configures settings w.files target)
    (h : (r.rewriteArticle target id offline).perform w = (.ok a, w')) :
    Succeeds settings w articles
      (((Store.ofSettings settings).stored w.files).map fun b => if b.id = id then a else b) w'

/-- What calls lead to that succeed, from no articles and an empty directory of documents on.  The
ids and the documents of the articles can be told apart throughout, and so can the places. -/
inductive Maintained (settings : Settings) (base : Place) : List Article → Workspace → Prop
  | empty {w : Workspace} (hstored : (Store.ofSettings settings).stored w.files = [])
    (hbare : ∀ rel ≠ [], w.files.entry? (base ++ rel) = none) : Maintained settings base [] w
  | outside {articles : List Article} {w w' : Workspace} (h : Maintained settings base articles w)
    (hspares : (Store.ofSettings settings).Spares base articles w.files w'.files)
    (hstands : (Store.ofSettings settings).StandsAt base w'.files) :
    Maintained settings base articles w'
  | call {articles articles' : List Article} {w w' : Workspace}
    (h : Maintained settings base articles w) (hcall : Succeeds settings w articles articles' w')
    (hfiled : (Store.ofSettings settings).FiledApart articles')
    (hstands : (Store.ofSettings settings).StandsAt base w'.files) :
    Maintained settings base articles' w'

section Maintained

variable {settings : Settings} {base : Place} {articles articles' : List Article}
  {w w' : Workspace}

theorem Succeeds.documented (hcall : Succeeds settings w articles articles' w')
    (hformat : (Store.ofSettings settings).WritesDocuments)
    (h : (Store.ofSettings settings).Documented base articles w.files)
    (hfiled : (Store.ofSettings settings).FiledApart articles')
    (hstands : (Store.ofSettings settings).StandsAt base w'.files) :
    (Store.ofSettings settings).Documented base articles' w'.files := by
  cases hcall with
  | mutation m hmade hdone => exact Mutation.documented h hformat hmade hdone hfiled hstands
  | run r target o hsettings htrial hdone =>
      rcases (r.yields_run target o hsettings).of_eq_ok rfl rfl hdone with ⟨hno, -⟩ | ⟨-, hrun⟩
      · rw [htrial] at hno
        cases hno
      · exact hrun.documented htrial h hformat hfiled hstands
  | trial r target o hsettings htrial hdone =>
      rcases (r.yields_run target o hsettings).of_eq_ok rfl rfl hdone with ⟨-, hsame⟩ | ⟨hno, -⟩
      · rw [hsame]
        exact h
      · rw [htrial] at hno
        cases hno
  | rewrite r target id offline hsettings hdone =>
      have hrewrite := (r.yields_rewriteArticle target id offline hsettings).of_eq_ok rfl rfl hdone
      exact hrewrite.documented h hformat hfiled hstands

theorem Maintained.documented (hformat : (Store.ofSettings settings).WritesDocuments)
    (h : Maintained settings base articles w) :
    (Store.ofSettings settings).Documented base articles w.files := by
  induction h with
  | empty hstored hbare => exact Store.documented_nil hstored hbare
  | outside _ hspares hstands ih => exact ih.of_spares hformat hspares hstands
  | call _ hcall hfiled hstands ih => exact hcall.documented hformat ih hfiled hstands

theorem writesDocuments_of_mem (h : settings.docs.format ∈ Settings.formats) :
    (Store.ofSettings settings).WritesDocuments := by
  unfold Store.WritesDocuments Store.hasFormat
  simp only [Settings.formats, List.mem_cons, List.not_mem_nil, or_false] at h
  rcases h with h | h | h
  · exact .inl (by simp [Store.ofSettings, h])
  · exact .inr (by simp [Store.ofSettings, h])
  · exact .inl (by simp [Store.ofSettings, h])

/-- The documents are those of the articles that were saved last, and the stored articles are these
as they are read back. -/
theorem mirrors_of_maintained (hformat : settings.docs.format ∈ Settings.formats)
    (h : Maintained settings base articles w) :
    (Store.ofSettings settings).Mirrors base articles w.files ∧
      List.Forall₂ (fun a b => Article.ofJson a.toJson.normal = .ok b) articles
        ((Store.ofSettings settings).stored w.files) ∧
      ((∀ a ∈ articles, a.Survives) → (Store.ofSettings settings).stored w.files = articles) := by
  have hdocumented := h.documented (writesDocuments_of_mem hformat)
  refine ⟨hdocumented.mirrors, hdocumented.read, fun hsurvives => ?_⟩
  have hsame : List.Forall₂ (· = ·) articles ((Store.ofSettings settings).stored w.files) := by
    refine List.forall₂_iff_zip.2 ⟨hdocumented.read.length_eq, fun {a b} hab => ?_⟩
    have hread := (List.forall₂_iff_zip.1 hdocumented.read).2 hab
    exact Except.ok.inj ((hsurvives a (List.of_mem_zip hab).1).symm.trans hread)
  exact (List.forall₂_eq_eq_eq ▸ hsame).symm

end Maintained

/-! ## An edit with a number -/

namespace Store

variable {s : Store} {base : Place} {t : FileTree} {articles : List Article}

instance (s : Store) (articles : List Article) : Decidable (s.FiledApart articles) :=
  decidable_of_iff (_ ∧ _ ∧ _)
    ⟨fun h => ⟨h.1, h.2.1, h.2.2⟩, fun h => ⟨h.ids, h.paths, h.slashFree⟩⟩

/-- Places that lead to themselves stand where they are. -/
theorem standsAt_of_straight (hdir : t.locate (s.docsDir.place []) = .ok base)
    (hstates : ∀ p ∈ [s.itemsFile, s.gapsFile, s.codeMapFile],
      t.locate p = .ok p ∧ p.take base.length ≠ base) : s.StandsAt base t where
  directory q hq := Except.ok.inj (hq.symm.trans hdir)
  states := by
    have apart {a b : String} (h : lit a ≠ lit b) : s.stateFile a ≠ s.stateFile b := fun heq =>
      h (List.cons.inj (List.cons.inj (List.append_cancel_left heq)).2).1
    have hplaces : [s.itemsFile, s.gapsFile, s.codeMapFile].Pairwise fun p q => q ≠ p := by
      simp only [List.pairwise_cons, List.forall_mem_cons]
      exact ⟨⟨apart (by decide), apart (by decide), nofun⟩, ⟨apart (by decide), nofun⟩, nofun, .nil⟩
    refine hplaces.imp_of_mem fun {p q} hp hq hne heq => hne ?_
    rw [(hstates p hp).1, (hstates q hq).1] at heq
    exact Except.ok.inj heq
  apart p hp q hq hdocument := by
    obtain ⟨hstraight, hout⟩ := hstates p hp
    obtain rfl : p = q := Except.ok.inj (hstraight.symm.trans hq)
    obtain ⟨rel, -, rfl⟩ := hdocument.exists_below
    exact hout (List.take_left' rfl)

theorem Mirrors.read_eq (h : s.Mirrors base articles t) :
    ∀ d ∈ articles.flatMap s.rendered, d.2.bind Text.toUtf8? = (t.read d.1).toOption := by
  intro d hd
  obtain ⟨a, ha, hd⟩ := List.mem_flatMap.1 hd
  obtain ⟨text, bytes, q, htext, hbytes, hq, -⟩ := h.found a ha d hd
  rw [htext, Option.bind_some, hbytes, read_of_holds hq]
  rfl

/-- Below a directory in which nothing stands there are no entries. -/
theorem entry?_below_eq_none (h : ∀ e ∈ t.entries, e.1.take base.length = base → e.1 = base)
    {rel : Place} (hrel : rel ≠ []) : t.entry? (base ++ rel) = none := by
  unfold FileTree.entry?
  rw [if_neg (by simp [hrel]), List.lookup_eq_none_iff]
  intro e he
  have hne : base ++ rel ≠ e.1 := fun heq => by
    have hbase := h e he (heq ▸ List.take_left' rfl)
    rw [hbase] at heq
    exact hrel (List.append_right_eq_self.1 heq)
  simpa using hne

end Store

/-- The store of the project with one topic. -/
def planStore : Store := .ofSettings planSettings

/-- The directory of its documents. -/
def planDocs : Place := [lit ".kodex", lit "docs"]

/-- A run on the project. -/
def planRun : Except Failure RefreshOutcome × Workspace :=
  (Refresher.run { author := some fun _ => .ok (lit "x"), send := fun _ => .timedOut } [] {}).perform
    planProject

/-- An edit that gives a number for the title of the new article. -/
def titleEdit : Mutation := .edit (lit "kb-billing-plan-1714608000000") [(lit "title", .int 5)] none

/-- The edit after the run. -/
def titled : Except Failure Unit × Workspace := (titleEdit.action planStore).perform planRun.2

/-- In a tree the directory of the documents and the state files are where their paths say. -/
def IsStraight (t : FileTree) : Prop :=
  t.locate (planStore.docsDir.place []) = .ok planDocs ∧
    ∀ p ∈ [planStore.itemsFile, planStore.gapsFile, planStore.codeMapFile],
      t.locate p = .ok p ∧ p.take planDocs.length ≠ planDocs

instance (t : FileTree) : Decidable (IsStraight t) := inferInstanceAs (Decidable (_ ∧ _))

theorem checks_titled :
    ((planStore.stored planProject.files).isEmpty = true ∧
      ∀ e ∈ planProject.files.entries, e.1.take planDocs.length = planDocs → e.1 = planDocs) ∧
    (planRun.1.toOption.isSome = true ∧ IsStraight planRun.2.files ∧
      (planRun.1.toOption.all fun out => decide (planStore.FiledApart (out.articles []))) = true) ∧
    (titled.1.toOption.isSome = true ∧ IsStraight titled.2.files ∧
      ((titleEdit.made planStore planRun.2.files planRun.2.now).toOption.all fun made =>
        decide (planStore.FiledApart made.2.articles ∧ made.2.articles.length = 1)) = true) ∧
    ((planStore.stored titled.2.files).flatMap planStore.rendered).all (fun d =>
      decide (d.2.bind Text.toUtf8? = (titled.2.files.read d.1).toOption)) = false := by
  decide +kernel

theorem configures_planSettings (w : Workspace) (h : w.files = planProject.files) :
    Refresher.Configures planSettings w.files [] := h ▸ configures_pairSettings _ _

theorem IsStraight.standsAt {t : FileTree} (h : IsStraight t) : planStore.StandsAt planDocs t :=
  Store.standsAt_of_straight h.1 h.2

/-- The run and the edit maintain the documents of the one article. -/
theorem maintained_titled : ∃ articles, articles.length = 1 ∧
    Maintained planSettings planDocs articles titled.2 := by
  obtain ⟨⟨hnone, hbare⟩, ⟨hrun, hrunStraight, hrunFiled⟩, ⟨hedit, heditStraight, heditFiled⟩, -⟩ :=
    checks_titled
  have hstored : planStore.stored planProject.files = [] := List.isEmpty_iff.1 hnone
  have hempty : Maintained planSettings planDocs [] planProject :=
    .empty hstored fun rel hrel => Store.entry?_below_eq_none hbare hrel
  obtain ⟨out, hout⟩ := Action.exists_eq_ok_of_isSome hrun
  have houtFiled : planStore.FiledApart (out.articles []) := by
    rw [hout] at hrunFiled
    exact of_decide_eq_true hrunFiled
  have hcall : Succeeds planSettings planProject []
      (out.articles (planStore.stored planProject.files)) planRun.2 :=
    .run _ [] {} (configures_planSettings _ rfl) rfl hout
  have hwritten := hempty.call hcall (hstored.symm ▸ houtFiled) hrunStraight.standsAt
  obtain ⟨⟨⟩, hdone⟩ := Action.exists_eq_ok_of_isSome hedit
  obtain ⟨k, k', -, hmade, -⟩ := Mutation.action_eq_ok hdone
  rw [hmade] at heditFiled
  obtain ⟨hfiled, hone⟩ : planStore.FiledApart k'.articles ∧ k'.articles.length = 1 :=
    of_decide_eq_true heditFiled
  exact ⟨_, hone, hwritten.call (.mutation titleEdit hmade hdone) hfiled heditStraight.standsAt⟩

/-- The documents after an edit that gives a number for a title. -/
theorem mirrors_of_maintained_titled : ∃ articles, articles.length = 1 ∧
    Maintained planSettings planDocs articles titled.2 ∧
      planStore.Mirrors planDocs articles titled.2.files ∧
      List.Forall₂ (fun a b => Article.ofJson a.toJson.normal = .ok b) articles
        (planStore.stored titled.2.files) := by
  obtain ⟨articles, hone, h⟩ := maintained_titled
  have hformat : planSettings.docs.format ∈ Settings.formats := by decide +kernel
  obtain ⟨hmirrors, hread, -⟩ := mirrors_of_maintained hformat h
  exact ⟨articles, hone, h, hmirrors, hread⟩

/-- A project whose file of questions is a link to a document that is not there. -/
def linkedProject : Workspace where
  files := ⟨[([lit ".kodex"], .dir), (planDocs, .dir),
    ([lit ".kodex", lit "gaps.json"], .link (lit "docs/notes.md"))]⟩
  now := ⟨1714608000000000⟩

/-- A question that is asked there. -/
def asked : Except Failure Unit × Workspace :=
  ((Mutation.addGap (lit "q") .null).action planStore).perform linkedProject

/-- An article with a number for a title is read back with a text, so that its documents are not
those of the stored article; and a link can make a document of a state file. -/
theorem not_mirrors_titled :
    (∃ articles, Maintained planSettings planDocs articles titled.2 ∧
      ¬ planStore.Mirrors planDocs (planStore.stored titled.2.files) titled.2.files) ∧
    Maintained planSettings planDocs [] linkedProject ∧ asked.1 = .ok () ∧
      planStore.stored asked.2.files = [] ∧ ¬ planStore.Mirrors planDocs [] asked.2.files := by
  obtain ⟨-, -, -, hdiffers⟩ := checks_titled
  obtain ⟨⟨hnone, hbare⟩, hasked, hstill, hnote⟩ :
      ((planStore.stored linkedProject.files).isEmpty = true ∧ ∀ e ∈ linkedProject.files.entries,
        e.1.take planDocs.length = planDocs → e.1 = planDocs) ∧ asked.1 = .ok () ∧
        (planStore.stored asked.2.files).isEmpty = true ∧
        (asked.2.files.entry? (planDocs ++ [lit "notes.md"])).any (· ≠ .dir) = true := by
    decide +kernel
  obtain ⟨articles, -, hmaintained⟩ := maintained_titled
  refine ⟨⟨articles, hmaintained, fun h => ?_⟩, ?_, hasked, List.isEmpty_iff.1 hstill, fun h => ?_⟩
  · have hsame := List.all_eq_true.2 fun d hd => decide_eq_true (h.read_eq d hd)
    rw [hdiffers] at hsame
    cases hsame
  · exact .empty (List.isEmpty_iff.1 hnone) fun rel hrel => Store.entry?_below_eq_none hbare hrel
  · have hdocument : IsDocument planDocs (planDocs ++ [lit "notes.md"]) := .markdown [] (by decide)
    cases he : asked.2.files.entry? (planDocs ++ [lit "notes.md"]) with
    | none =>
        rw [he] at hnote
        cases hnote
    | some e =>
        rw [he] at hnote
        obtain ⟨a, ha, -⟩ := h.only _ e hdocument he (of_decide_eq_true hnote)
        cases ha

end HelpCenter

import HelpCenter.Proofs.Refresh.Invariant
import HelpCenter.Proofs.Scan.Project
import HelpCenter.Proofs.Store.Mirror
import HelpCenter.Proofs.Workspace.Prompts

/-!
# What a run and the writing of a single article start from

Both read the settings, choose an author, load the knowledge base and scan the project before they
write anything.  What they get, a `Briefing`, depends on the files and the time alone (`Briefs`).
`concludes_rewriteArticle` and `concludes_run` say what comes of it: which prompts are sent and
what is saved.
-/

namespace HelpCenter

open HelpCenter.Action (Tells Sends Concludes Ends Silent)

/-! ## Saving -/

namespace Store

variable {s : Store} {k : KnowledgeBase} {t : FileTree} {now : Moment}

theorem silent_writeJson (file : Place) (v : Json) : Silent (writeJson file v) := by
  unfold writeJson
  split
  · exact Action.silent_writeText file _
  · exact Action.silent_throw _

theorem silent_writeState (file : Place) (v : Json) : Silent (writeState file v) :=
  Silent.onFileFault <| (Action.silent_makeDirs _).bind fun _ => silent_writeJson file v

theorem silent_writeDocs (s : Store) (a : Article) : Silent (s.writeDocs a) := by
  rw [writeDocs_eq]
  refine Silent.onFileFault (Silent.bind ?_ fun _ => ?_)
  · unfold writeMarkdown
    split
    · refine (Action.silent_makeDirs _).bind fun _ => ?_
      split
      · exact Action.silent_writeText _ _
      · exact Action.silent_throw _
    · exact Action.silent_pure ()
  · unfold writeRecord
    split
    · exact (Action.silent_makeDirs _).bind fun _ => silent_writeJson _ _
    · exact Action.silent_pure ()

theorem silent_save (s : Store) (k : KnowledgeBase) : Silent (s.save k) := by
  rw [save_eq]
  refine (silent_writeState _ _).bind fun _ => (silent_writeState _ _).bind fun _ => Silent.bind ?_
    fun _ => Action.silent_forM s.silent_writeDocs k.articles
  unfold saveMap
  split
  · exact silent_writeState _ _
  · exact Action.silent_pure ()

/-- Saving the knowledge base fails with `e` and turns the first files into the second. -/
def Breaks (s : Store) (k : KnowledgeBase) (e : Failure) (t t' : FileTree) : Prop :=
  ∃ w w', w.files = t ∧ (s.save k).perform w = (.error e, w') ∧ w'.files = t'

/-- How saving ends when only something for the log follows. -/
theorem concludes_save {α : Type} {entry : LogEntry} {x : α} :
    Concludes t now (do s.save k; Action.log entry; return x) fun r ps t' => ps = [] ∧
      ((∃ e, r = .error e ∧ s.Breaks k e t t') ∨ (r = .ok x ∧ s.Turns k t t')) := by
  have hsilent : Silent (do s.save k; Action.log entry; return x) :=
    (s.silent_save k).bind fun _ => (Action.silent_log entry).bind fun _ => Action.silent_pure x
  refine hsilent.concludes fun w ht _ => ⟨rfl, ?_⟩
  rcases hr : (s.save k).perform w with ⟨_ | ⟨⟨⟩⟩, w'⟩
  · rw [Action.perform_bind_error hr]
    exact .inl ⟨_, rfl, w, w', ht, hr, rfl⟩
  · rw [Action.perform_bind_ok hr]
    exact .inr ⟨rfl, w, w', ht, hr, rfl⟩

end Store

/-- What articles are written from: the settings, the topics, the knowledge base as it is stored, who
writes, and what the sources show. -/
structure Briefing where
  settings : Settings
  catalog : Catalog
  base : KnowledgeBase
  author : ChosenAuthor
  codeMap : CodeMap

namespace Briefing

/-- Where the knowledge base is stored. -/
def store (b : Briefing) : Store := .ofSettings b.settings

/-- The desk at which the articles are written. -/
def desk (b : Briefing) (now : Moment) : Desk where
  author := b.author.author
  catalog := b.catalog
  product := b.settings.name
  now

/-- The prompt that is sent for a planned topic. -/
def prompt (b : Briefing) (now : Moment) (p : PlannedTopic) : SentPrompt where
  offline := b.author.offline
  text := (b.desk now).prompt p
  limit := b.settings.model.maxTokens

/-- The knowledge base that is saved with the given articles. -/
def saved (b : Briefing) (now : Moment) (articles : List Article) : KnowledgeBase :=
  Refresher.written (Refresher.scanned b.base b.codeMap now) articles now

end Briefing

namespace Refresher

variable {r : Refresher} {t : FileTree} {now : Moment} {target : Place} {id : Text}
  {offline : Bool} {b : Briefing}

/-- The files and the time give the briefing for the project at a place. -/
structure Briefs (r : Refresher) (t : FileTree) (now : Moment) (target : Place) (offline : Bool)
    (b : Briefing) : Prop where
  settings : Settings.load t (t.resolve target) = .ok b.settings
  catalog : catalogOf b.settings = .ok b.catalog
  base : b.store.loaded t = .ok b.base
  author : r.chooseAuthor b.settings offline = .ok b.author
  codeMap : (Scanner.mk b.catalog b.settings.scan.workers).scanned t now
    (t.resolve (t.resolve target)) (Place.path (t.resolve target)).toText b.settings.scan =
      .ok b.codeMap

/-- There is one briefing at most. -/
theorem Briefs.unique {b' : Briefing} (h : r.Briefs t now target offline b)
    (h' : r.Briefs t now target offline b') : b = b' := by
  obtain ⟨settings, catalog, base, author, codeMap⟩ := b
  obtain ⟨settings', catalog', base', author', codeMap'⟩ := b'
  obtain rfl : settings = settings' := Except.ok.inj (h.settings.symm.trans h'.settings)
  obtain rfl : catalog = catalog' := Except.ok.inj (h.catalog.symm.trans h'.catalog)
  obtain rfl : base = base' := Except.ok.inj (h.base.symm.trans h'.base)
  obtain rfl : author = author' := Except.ok.inj (h.author.symm.trans h'.author)
  obtain rfl : codeMap = codeMap' := Except.ok.inj (h.codeMap.symm.trans h'.codeMap)
  rfl

theorem Briefs.base_eq (h : r.Briefs t now target offline b) : b.base = b.store.content t :=
  (Store.loaded_eq_ok_iff.1 h.base).2

theorem Briefs.isScanOf (h : r.Briefs t now target offline b) : b.codeMap.IsScanOf b.catalog := by
  have hquiet : Action.Quiet t now _ _ := quiet_scan h.catalog (t.resolve target)
  obtain ⟨es, hscan⟩ := (Scanner.tells_scan (s := ⟨b.catalog, b.settings.scan.workers⟩)
    (t.resolve target) (Place.path (t.resolve target)).toText b.settings.scan).perform_eq
      (w := ⟨t, now, [], []⟩) rfl rfl
  refine (hquiet ⟨t, now, [], []⟩ rfl rfl).2.2 _ ?_
  rw [h.codeMap] at hscan
  exact congrArg Prod.fst hscan

/-! ## Writing a single article -/

/-- The article of an id can be written again: it is stored and not pinned, the scan shows evidence
for its topic, and the author gives a draft. -/
structure Revises (b : Briefing) (now : Moment) (id : Text) (old : Article) (p : PlannedTopic)
    (draft : Draft) : Prop where
  found : unpinnedArticle b.base id = .ok old
  planned : planAgain b.codeMap old = .ok p
  draft : (b.desk now).draft p = .ok draft

theorem tells_desk : Tells t now (desk b.settings b.catalog b.author) (.ok (b.desk now)) :=
  Action.tells_now.then (Action.tells_pure _)

theorem sends_writeOne (p : PlannedTopic) :
    Sends t now (writeOne b.settings b.catalog b.author b.codeMap p)
      ((b.desk now).draft p >>= fun draft => .ok (p.article draft b.codeMap now))
      [b.prompt now p] := by
  refine tells_desk.then_sends ((Action.sends_send [b.prompt now p]).then_tells ?_)
  exact (Action.tells_ofExcept _).bind fun draft _ => Action.tells_pure _

/-- The articles with one in the place of those of an id. -/
def replaced (articles : List Article) (id : Text) (a : Article) : List Article :=
  articles.map fun b => if b.id = id then a else b

/-- How writing an article again can end: it fails and leaves the files as they are, or everything is
there for the new article, its prompt alone is sent, and the article is saved in the place of the old
one or saving fails. -/
inductive Rewriting (r : Refresher) (t : FileTree) (now : Moment) (target : Place) (offline : Bool)
    (id : Text) : Except Failure Article → List SentPrompt → FileTree → Prop
  | failed (e : Failure) (ps : List SentPrompt) : Rewriting r t now target offline id (.error e) ps t
  | unsaved {b : Briefing} {old : Article} {p : PlannedTopic} {draft : Draft} {e : Failure}
    {t' : FileTree} (hb : r.Briefs t now target offline b) (hp : Revises b now id old p draft)
    (hbreaks : b.store.Breaks (b.saved now
      (replaced b.base.articles id (p.article draft b.codeMap now))) e t t') :
    Rewriting r t now target offline id (.error e) [b.prompt now p] t'
  | saved {b : Briefing} {old : Article} {p : PlannedTopic} {draft : Draft} {t' : FileTree}
    (hb : r.Briefs t now target offline b) (hp : Revises b now id old p draft)
    (hturns : b.store.Turns (b.saved now
      (replaced b.base.articles id (p.article draft b.codeMap now))) t t') :
    Rewriting r t now target offline id (.ok (p.article draft b.codeMap now)) [b.prompt now p] t'

theorem Rewriting.of_ok {a : Article} {ps : List SentPrompt} {t' : FileTree}
    (h : Rewriting r t now target offline id (.ok a) ps t') :
    ∃ b old p draft, r.Briefs t now target offline b ∧ Revises b now id old p draft ∧
      a = p.article draft b.codeMap now ∧ ps = [b.prompt now p] ∧
      b.store.Turns (b.saved now (replaced b.base.articles id a)) t t' := by
  cases h with
  | saved hb hp hturns => exact ⟨_, _, _, _, hb, hp, rfl, rfl, hturns⟩

theorem concludes_rewriteArticle (r : Refresher) (target : Place) (id : Text) (offline : Bool) :
    Concludes t now (r.rewriteArticle target id offline) (Rewriting r t now target offline id) := by
  have failed (e : Failure) {ps : List SentPrompt} :
      Rewriting r t now target offline id (.error e) ps t := .failed e ps
  unfold rewriteArticle
  refine Action.tells_files.bind_concludes nofun fun files hfiles => ?_
  obtain rfl := Except.ok.inj hfiles
  refine (Action.tells_ofExcept _).bind_concludes (fun e _ => failed e) fun s hs => ?_
  refine (Action.tells_ofExcept _).bind_concludes (fun e _ => failed e) fun c hc => ?_
  refine (Store.reads_load _).tells.bind_concludes (fun e _ => failed e) fun k hk => ?_
  refine (Action.tells_ofExcept _).bind_concludes (fun e _ => failed e) fun old hold => ?_
  refine (Action.tells_ofExcept _).bind_concludes (fun e _ => failed e) fun author ha => ?_
  refine (Scanner.tells_scan _ _ _).bind_concludes (fun e _ => failed e) fun m hm => ?_
  refine (Action.tells_ofExcept _).bind_concludes (fun e _ => failed e) fun p hp => ?_
  let b : Briefing := ⟨s, c, k, author, m⟩
  have hb : r.Briefs t now target offline b := ⟨hs, hc, hk, ha, hm⟩
  refine (sends_writeOne (b := b) p).bind_concludes (fun e _ => failed e) fun a ha => ?_
  obtain ⟨draft, hdraft, hwritten⟩ := Except.bind_eq_ok_iff.1 ha
  obtain rfl := Except.ok.inj hwritten
  refine Action.tells_now.bind_concludes nofun fun now' hnow => ?_
  obtain rfl := Except.ok.inj hnow
  refine Store.concludes_save.mono fun res ps t' hsaved => ?_
  obtain ⟨rfl, ⟨e, rfl, hbreaks⟩ | ⟨rfl, hturns⟩⟩ := hsaved
  · exact .unsaved hb ⟨hold, hp, hdraft⟩ hbreaks
  · exact .saved hb ⟨hold, hp, hdraft⟩ hturns

/-! ## A run -/

theorem sends_timed {α : Type} {a : Action α} {res : Except Failure α} {ps : List SentPrompt}
    (label : Text) (h : Sends t now a res ps) : Sends t now (timed label a) res ps :=
  h.attempt.then_tells <| (Action.tells_log _).then (Action.tells_ofExcept res)

section Write

variable {o : RefreshOptions} (htrial : o.trial = false)

include htrial

theorem sends_write {result : BatchResult}
    (h : (b.desk now).generate b.codeMap b.settings.docs.topics b.base.articles o.changedOnly false =
      .ok result) :
    Sends t now (write b.settings b.catalog b.author b.codeMap b.base.articles o) (.ok result)
      ((result.plan.filter (·.needsWriting)).map (b.prompt now)) := by
  refine tells_desk.then_sends ?_
  rw [htrial, h]
  exact (Action.sends_send _).then_tells ((Action.tells_logAll _).then (Action.tells_pure _))

theorem sends_write_error {fault : DataFault}
    (h : (b.desk now).generate b.codeMap b.settings.docs.topics b.base.articles o.changedOnly false =
      .error fault) :
    Sends t now (write b.settings b.catalog b.author b.codeMap b.base.articles o)
      (.error (.data fault)) [] := by
  refine tells_desk.then_sends ?_
  rw [htrial, h]
  exact (Action.tells_throw _).sends

end Write

/-- What a run that writes and saves has done if it succeeds: a batch was written on the stored
articles, the prompts of the plan were sent, and the batch is saved. -/
structure Runs (r : Refresher) (t : FileTree) (now : Moment) (target : Place)
    (changedOnly offline : Bool) (out : RefreshOutcome) (ps : List SentPrompt) (t' : FileTree)
    (b : Briefing) (result : BatchResult) : Prop where
  briefs : r.Briefs t now target offline b
  batch : (b.desk now).generate b.codeMap b.settings.docs.topics b.base.articles changedOnly false =
    .ok result
  outcome : out.result = some result
  prompts : ps = (result.plan.filter (·.needsWriting)).map (b.prompt now)
  turns : b.store.Turns (b.saved now result.articles) t t'

theorem concludes_run (r : Refresher) (target : Place) (changedOnly offline : Bool) :
    Concludes t now (r.run target { changedOnly, offline }) fun res ps t' => ∀ out, res = .ok out →
      ∃ b result, r.Runs t now target changedOnly offline out ps t' b result := by
  unfold run
  refine Action.tells_files.bind_concludes nofun fun files hfiles => ?_
  obtain rfl := Except.ok.inj hfiles
  refine (Action.tells_log _).bind_concludes nofun fun _ _ => ?_
  refine (Action.tells_ofExcept _).bind_concludes (fun _ _ => nofun) fun s hs => ?_
  refine (Action.tells_ofExcept _).bind_concludes (fun _ _ => nofun) fun c hc => ?_
  dsimp only
  rw [if_pos rfl]
  refine (Action.tells_ofExcept _).map.bind_concludes (fun _ _ => nofun) fun author hauthor => ?_
  obtain ⟨a, ha, rfl⟩ : ∃ a, r.chooseAuthor s offline = .ok a ∧ some a = author := by
    rw [Bool.or_false] at hauthor
    cases hchosen : r.chooseAuthor s offline with
    | error e => rw [hchosen] at hauthor; cases hauthor
    | ok a => rw [hchosen] at hauthor; exact ⟨a, rfl, Except.ok.inj hauthor⟩
  refine (Store.reads_load _).tells.bind_concludes (fun _ _ => nofun) fun k hk => ?_
  refine (sends_timed _ (Scanner.tells_scan _ _ _).sends).bind_concludes (fun _ _ => nofun)
    fun m hm => ?_
  refine Action.tells_now.bind_concludes nofun fun now' hnow => ?_
  obtain rfl := Except.ok.inj hnow
  let b : Briefing := ⟨s, c, k, a, m⟩
  have hb : r.Briefs t now target offline b := ⟨hs, hc, hk, ha, hm⟩
  let o : RefreshOptions := { changedOnly, offline }
  cases hbatch : (b.desk now).generate m s.docs.topics k.articles changedOnly false with
  | error fault =>
      exact (sends_timed _ (sends_write_error (b := b) (o := o) rfl hbatch)).bind_concludes
        (fun _ _ => nofun) fun _ => nofun
  | ok result =>
      refine (sends_timed _ (sends_write (b := b) (o := o) rfl hbatch)).bind_concludes
        (fun _ => nofun) fun result' hresult => ?_
      obtain rfl := Except.ok.inj hresult
      refine (Action.tells_log _).bind_concludes nofun fun _ _ => ?_
      rw [if_neg Bool.false_ne_true]
      refine Action.tells_now.bind_concludes nofun fun now' hnow => ?_
      obtain rfl := Except.ok.inj hnow
      refine Store.concludes_save.mono fun res ps t' hsaved out hout => ?_
      obtain ⟨rfl, ⟨e, rfl, -⟩ | ⟨rfl, hturns⟩⟩ := hsaved
      · cases hout
      · obtain rfl := Except.ok.inj hout
        exact ⟨b, result, hb, hbatch, rfl, List.append_nil _, hturns⟩

end Refresher

end HelpCenter

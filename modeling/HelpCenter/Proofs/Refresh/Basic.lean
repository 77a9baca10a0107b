import HelpCenter.Proofs.Article.Reading
import HelpCenter.Proofs.Generation.Identity
import HelpCenter.Proofs.Scan.Features
import HelpCenter.Proofs.Store.Invariant
import HelpCenter.Proofs.Store.Load
import HelpCenter.Refresh.Article
import Mathlib.Data.Set.Defs

/-!
# Operations on a knowledge base

`Reached` says which workspaces any sequence of operations on the knowledge base of a project can
lead to.  Each operation may fail, and between the operations everything but the stored articles may
change: the sources, the time, the answers.

Until it saves, a run changes no file.  What it saves can be printed, unless that is due to articles
that were stored before (`isPrintable_itemsJson`).
-/

namespace HelpCenter

open HelpCenter.Action (Quiet)

/-- What can be asked of the knowledge base of a project. -/
inductive Operation where
  | run (r : Refresher) (target : Place) (o : RefreshOptions)
  | rewrite (r : Refresher) (target : Place) (id : Text) (offline : Bool)
  | edit (id : Text) (changes : List (Text × Json)) (by_ : Option Text)
  | setStatus (id status : Text)
  | setPinned (id : Text) (pinned : Bool)
  | delete (id : Text)

/-- The settings that are read at a place are the given ones, if any can be read. -/
def Refresher.Configures (settings : Settings) (t : FileTree) (target : Place) : Prop :=
  ∀ s, Settings.load t (t.resolve target) = .ok s → s = settings

namespace Operation

/-- The workspace after the operation, whether it succeeds or fails. -/
def perform (settings : Settings) (w : Workspace) (op : Operation) : Workspace :=
  let store := Store.ofSettings settings
  match op with
  | .run r target o => ((r.run target o).perform w).2
  | .rewrite r target id offline => ((r.rewriteArticle target id offline).perform w).2
  | .edit id changes by_ => ((store.edit id changes by_).perform w).2
  | .setStatus id status => ((store.setStatus id status).perform w).2
  | .setPinned id pinned => ((store.setPinned id pinned).perform w).2
  | .delete id => ((store.delete id).perform w).2

/-- The operation is one on the project with the given settings. -/
def IsOn (settings : Settings) (w : Workspace) : Operation → Prop
  | .run _ target _ | .rewrite _ target _ _ => Refresher.Configures settings w.files target
  | .edit .. | .setStatus .. | .setPinned .. | .delete .. => True

end Operation

/-- The workspaces reached from an empty knowledge base by operations at the given times. -/
inductive Reached (settings : Settings) (times : Set Moment) : Workspace → Prop
  | empty {w : Workspace} (h : ((Store.ofSettings settings).content w.files).articles = []) :
    Reached settings times w
  | outside {w w' : Workspace} (h : Reached settings times w)
    (hsame : ((Store.ofSettings settings).content w'.files).articles =
      ((Store.ofSettings settings).content w.files).articles) : Reached settings times w'
  | step {w : Workspace} (h : Reached settings times w) (op : Operation)
    (hon : op.IsOn settings w) (hnow : w.now ∈ times) :
    Reached settings times (op.perform settings w)

/-! ## Parts of a run -/

namespace Refresher

variable {t : FileTree} {now : Moment} {settings : Settings} {c : Catalog}

/-! ## Scanning and writing -/

theorem isMeasured_catalogOf (h : catalogOf settings = .ok c) : c.IsMeasured :=
  Catalog.isMeasured_builtin.extend h

theorem quiet_timed {α : Type} {a : Action α} {Q : α → Prop} (label : Text) (h : Quiet t now a Q) :
    Quiet t now (timed label a) Q :=
  h.attempt.bind fun r hr => (Action.quiet_log _).bind fun _ _ =>
    (Action.quiet_ofExcept r).mono hr

theorem quiet_scan (h : catalogOf settings = .ok c) (root : Place) :
    Quiet t now (scan settings c root) (CodeMap.IsScanOf c) :=
  Scanner.quiet_scan (isMeasured_catalogOf h) root _ _

theorem quiet_desk (a : ChosenAuthor) :
    Quiet t now (desk settings c a) fun d => d.now = now :=
  Action.quiet_now.bind fun _ h => Action.quiet_pure h

/-- Writing changes no file and gives what a desk generates at the present time. -/
theorem quiet_write (a : ChosenAuthor) (m : CodeMap) (articles : List Article)
    (o : RefreshOptions) :
    Quiet t now (write settings c a m articles o) fun r => ∃ d : Desk, d.now = now ∧
      d.generate m settings.docs.topics articles o.changedOnly o.trial = .ok r := by
  refine (quiet_desk a).bind fun d hd => ?_
  split
  · exact Action.quiet_throw _
  · next r hr =>
    refine Quiet.ite_bind (Action.quiet_send _) ?_
    exact (Action.quiet_logAll _).bind fun _ _ => Action.quiet_pure ⟨d, hd, hr⟩

theorem quiet_writeOne (a : ChosenAuthor) (m : CodeMap) (p : PlannedTopic) :
    Quiet t now (writeOne settings c a m p) fun b => ∃ draft, b = p.article draft m now := by
  refine (quiet_desk a).bind fun d hd => ?_
  refine (Action.quiet_send _).bind fun _ _ => ?_
  refine (Action.quiet_ofExcept _).bind fun draft _ => Action.quiet_pure ⟨draft, ?_⟩
  rw [hd]

end Refresher

/-! ## Printing what was written -/

open Json

/-- A first article on a topic can be printed. -/
theorem PlannedTopic.isPrintable_article {p : PlannedTopic} (hnew : p.decision.existing? = none)
    (hconf : ∃ x, p.feature.confidence = .double x) (draft : Draft) (m : CodeMap) (now : Moment) :
    (p.article draft m now).toJson.isPrintable = true := by
  obtain ⟨x, hx⟩ := hconf
  unfold PlannedTopic.article Article.toJson
  rw [isPrintable_ofFields, hnew, hx]
  simp only [List.forall_mem_cons]
  exact ⟨rfl, rfl, rfl, allPrintable_texts _, rfl, allPrintable_texts _, rfl, rfl, rfl, rfl, rfl,
    rfl, rfl, rfl, nofun⟩

/-- The confidence of an article on a known feature is a double, which can be written and read. -/
theorem PlannedTopic.exists_readConfidence_article (p : PlannedTopic) {c : Catalog}
    (h : p.feature.IsKnown c) (draft : Draft) (m : CodeMap) (now : Moment) :
    ∃ x, (p.article draft m now).readConfidence = .ok x := by
  obtain ⟨x, hx⟩ := h.confidence
  exact Article.exists_readConfidence hx

/-- Where no articles were stored, those that a batch gives can be printed. -/
theorem Desk.isPrintable_of_mem_generate {d : Desk} {m : CodeMap} {categories : List Text}
    {changedOnly trial : Bool} {r : BatchResult} {c : Catalog} (hm : m.IsScanOf c)
    (hr : d.generate m categories [] changedOnly trial = .ok r) :
    ∀ a ∈ r.articles, a.toJson.isPrintable = true := by
  intro a ha
  obtain ⟨plan, hplan, rfl⟩ := Desk.generate_eq_ok_iff.1 hr
  obtain ⟨p, hp, draft, rfl⟩ := (Desk.mem_write ha).resolve_left nofun
  have hf : p.feature ∈ m.features := List.mem_of_mem_filter (mem_planArticles hplan hp).1
  exact p.isPrintable_article (existing?_eq_articleOn hplan hp) (hm.known _ hf).confidence draft m _

theorem isPrintable_itemsJson {k : KnowledgeBase}
    (harticles : ∀ a ∈ k.articles, a.toJson.isPrintable = true)
    (hscan : k.info.lastScanAt.isPrintable = true)
    (hgenerate : k.info.lastGenerateAt.isPrintable = true) :
    (Store.itemsJson k).isPrintable = true := by
  unfold Store.itemsJson KnowledgeInfo.toJson
  simp only [isPrintable_ofFields, List.forall_mem_cons]
  exact ⟨allPrintable_iff.2 (List.forall_mem_map.2 harticles), ⟨rfl, rfl, hscan, hgenerate, nofun⟩,
    nofun⟩

end HelpCenter

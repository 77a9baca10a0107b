import HelpCenter.Article.Plan
import HelpCenter.Proofs.Article.Edit
import HelpCenter.Proofs.Article.Reading
import HelpCenter.Proofs.Refresh.Identity

/-!
# The state of review

`Article.HasReviewState` relates the marks that people set on an article: its state is one of four,
it is pinned in the state of that name alone, and where a person wrote the content it is known when.
Every edit keeps this, and a newly written article has it from the start.  So, whatever is asked of
the knowledge base of a project, and whether it succeeds or fails, the marks of review on the stored
articles agree with each other (`hasReviewState_of_tended`).
-/

namespace HelpCenter

namespace Article

/-- The marks of the review agree with each other. -/
structure HasReviewState (a : Article) : Prop where
  status : a.status ∈ statuses
  /-- The article is pinned in the state of that name alone. -/
  pinned : a.pinned = true ↔ a.status = lit "pinned"
  /-- The time of the last edit is known if the content is a person's. -/
  edited : a.humanEdited = true → a.lastEditedAt ≠ .null

variable {a b : Article}

theorem normal_ne_null {v : Json} (h : v ≠ .null) : v.normal ≠ .null := by
  cases v with
  | null => exact absurd rfl h
  | arr items => simp [Json.normal_arr]
  | _ => simp [Json.normal]

theorem HasReviewState.readBack (h : a.HasReviewState) (x : Binary64) :
    (a.readBack x).HasReviewState := by
  have hstatus : (a.readBack x).status = a.status := readStatus_of_mem h.status
  exact {
    status := hstatus ▸ h.status
    pinned := by rw [hstatus]; exact h.pinned
    edited := fun he => normal_ne_null (h.edited he) }

/-! ## Edits -/

theorem HasReviewState.edit {edit : List (Text × Json)} {by_ : Option Text} {now : Moment}
    (h : a.HasReviewState) (hnames : (edit.map Prod.fst).Nodup)
    (hb : a.edited edit by_ now = .ok b) : b.HasReviewState := by
  obtain ⟨c, hc, hb⟩ := Except.bind_eq_ok_iff.1 hb
  have hedit := editFields_outcome hnames hc
  have hpinned : c.pinned = a.pinned := by rw [hedit.frame]
  obtain rfl := Except.ok.inj hb
  refine ⟨?_, ?_, fun _ => nofun⟩
  · rcases hedit.status with ⟨-, hstatus⟩ | ⟨-, hstatus⟩
    · exact hstatus.symm ▸ h.status
    · exact hstatus
  · show (if gives edit "status" then decide (c.status = lit "pinned") else c.pinned) = true ↔
      c.status = lit "pinned"
    rw [gives_eq_isSome]
    rcases hedit.status with ⟨hnone, hstatus⟩ | ⟨hsome, -⟩
    · rw [hnone, hpinned, hstatus]
      exact h.pinned
    · rw [hsome]
      exact decide_eq_true_iff

theorem HasReviewState.inStatus {status : Text} (h : a.HasReviewState) (hs : status ∈ statuses) :
    (a.inStatus status).HasReviewState :=
  ⟨hs, decide_eq_true_iff, h.edited⟩

theorem HasReviewState.withPin (h : a.HasReviewState) (pinned : Bool) :
    (a.withPin pinned).HasReviewState := by
  have hstates : lit "pinned" ∈ statuses ∧ lit "reviewed" ∈ statuses ∧
      lit "reviewed" ≠ lit "pinned" := by decide
  obtain ⟨hpin, hreviewed, hne⟩ := hstates
  cases pinned with
  | true => exact ⟨hpin, iff_of_true rfl rfl, h.edited⟩
  | false =>
      -- an article that was pinned counts as reviewed now
      by_cases hs : a.status = lit "pinned"
      · have hb : (a.withPin false).status = lit "reviewed" := if_pos hs
        exact ⟨hb ▸ hreviewed, by rw [hb]; exact iff_of_false nofun hne, h.edited⟩
      · have hb : (a.withPin false).status = a.status := if_neg hs
        exact ⟨hb ▸ h.status, by rw [hb]; exact iff_of_false nofun hs, h.edited⟩

/-! ## Writing -/

theorem hasReviewState_article (p : PlannedTopic) (d : Draft)
    (m : CodeMap) (now : Moment) : (p.article d m now).HasReviewState := by
  have hdraft : lit "draft" ∈ statuses ∧ lit "draft" ≠ lit "pinned" := by decide
  exact ⟨hdraft.1, iff_of_false nofun hdraft.2, nofun⟩

end Article

/-! ## Whole runs -/

/-- An edit gives a value for each field at most once. -/
def Operation.IsMapping : Operation → Prop
  | .edit _ changes _ => (changes.map Prod.fst).Nodup
  | _ => True

/-- The workspaces that operations on the project under `root` lead to from one without articles.
In between everything but the stored articles may change, the settings of the project too. -/
inductive Tended (root : Place) : Workspace → Prop
  | empty {w : Workspace} (h : (Store.content { root } w.files).articles = []) : Tended root w
  | outside {w w' : Workspace} (h : Tended root w)
    (hsame : (Store.content { root } w'.files).articles = (Store.content { root } w.files).articles) :
    Tended root w'
  | step {w : Workspace} (h : Tended root w) (settings : Settings) (hroot : settings.root = root)
    (op : Operation) (hon : op.IsOn settings w) (hmapping : op.IsMapping) :
    Tended root (op.perform settings w)

namespace Store

/-- Where the articles are stored depends on the root alone. -/
theorem stored_eq (s s' : Store) (h : s.root = s'.root) (t : FileTree) :
    s.stored t = s'.stored t := by
  obtain ⟨root, docs, name, version⟩ := s
  cases h
  rfl

theorem ofSettings_root (settings : Settings) : (ofSettings settings).root = settings.root := rfl

theorem isLasting_review : IsLasting fun articles => ∀ a ∈ articles, a.HasReviewState := by
  refine isLasting_forall fun a b hread ha => ?_
  obtain ⟨x, -, rfl⟩ := Article.exists_readBack hread
  exact ha.readBack x

end Store

theorem Refresher.batchesKeep_review {settings : Settings} {t : FileTree} {now : Moment}
    (o : RefreshOptions)
    (ht : ∀ a ∈ (Store.ofSettings settings).stored t, a.HasReviewState) :
    BatchesKeep settings t now o fun articles => ∀ a ∈ articles, a.HasReviewState := by
  intro c d m r _ _ _ hr a ha
  obtain ⟨plan, -, rfl⟩ := Desk.generate_eq_ok_iff.1 hr
  rcases Desk.mem_write ha with hold | ⟨p, -, draft, rfl⟩
  · exact ht a hold
  · exact Article.hasReviewState_article p draft m d.now

theorem Operation.keeps_review (op : Operation) {settings : Settings} {w : Workspace}
    (hon : op.IsOn settings w) (hmapping : op.IsMapping)
    (hw : ∀ a ∈ (Store.ofSettings settings).stored w.files, a.HasReviewState) :
    ∀ a ∈ (Store.ofSettings settings).stored (op.perform settings w).files, a.HasReviewState := by
  have hI := Store.isLasting_review
  have replaced {id : Text} {b : Article} (hb : b.HasReviewState) :
      ∀ a ∈ KnowledgeBase.replaceArticle id b ((Store.ofSettings settings).stored w.files),
        a.HasReviewState := by
    intro a ha
    rcases Store.mem_replaceArticle ha with rfl | ha
    · exact hb
    · exact hw a ha
  have found {id : Text} {a : Article}
      (ha : ((Store.ofSettings settings).stored w.files).find? (·.id = id) = some a) :
      a.HasReviewState :=
    hw a (List.mem_of_find?_eq_some ha)
  cases op with
  | run r target o =>
      exact r.leaves_run target o hI hon (Refresher.batchesKeep_review o hw) hw w rfl rfl
  | rewrite r target id offline =>
      refine r.leaves_rewriteArticle target id offline hI hon (fun old m p draft _ _ b hb => ?_) hw
        w rfl rfl
      obtain ⟨c, hc, rfl⟩ := List.mem_map.1 hb
      split
      · exact Article.hasReviewState_article p draft m w.now
      · exact hw c hc
  | edit id changes by_ =>
      exact Store.leaves_changeArticle hI hw
        (fun a b ha hb => replaced ((found ha).edit hmapping hb)) w rfl rfl
  | setStatus id status =>
      exact Store.leaves_setStatus hI hw
        (fun hstatus a ha => replaced ((found ha).inStatus hstatus)) w rfl rfl
  | setPinned id pinned =>
      refine Store.leaves_changeArticle hI hw (fun a b ha hb => ?_) w rfl rfl
      obtain rfl := Except.ok.inj hb
      exact replaced ((found ha).withPin pinned)
  | delete id =>
      exact Store.leaves_delete hI hw (fun a ha => hw a (List.mem_of_mem_filter ha)) w rfl rfl

section

variable {settings : Settings} {w : Workspace}

theorem Tended.start (h : ((Store.ofSettings settings).content w.files).articles.isEmpty = true) :
    Tended settings.root w :=
  .empty ((Store.stored_eq _ (Store.ofSettings settings) rfl _).trans (List.isEmpty_iff.1 h))

theorem Tended.next (h : Tended settings.root w) (op : Operation) (hon : op.IsOn settings w)
    (hmapping : op.IsMapping) : Tended settings.root (op.perform settings w) :=
  h.step settings rfl op hon hmapping

end

theorem Tended.hasReviewState {root : Place} {w : Workspace} (h : Tended root w) :
    ∀ a ∈ (Store.content { root } w.files).articles, a.HasReviewState := by
  induction h with
  | empty hnone =>
      rw [hnone]
      nofun
  | outside _ hsame ih =>
      rw [hsame]
      exact ih
  | step _ settings hroot op hon hmapping ih =>
      have hstored (t : FileTree) : (Store.content { root } t).articles =
          (Store.ofSettings settings).stored t :=
        Store.stored_eq _ (Store.ofSettings settings) hroot.symm t
      rw [hstored] at ih ⊢
      exact op.keeps_review hon hmapping ih

/-- Whatever is asked of the knowledge base under a root, and however it ends, the stored articles
and those that are loaded are in one of the four states, pinned in the state of that name alone, and
a person's content has the time of an edit. -/
theorem hasReviewState_of_tended {root : Place} {w : Workspace} (h : Tended root w) (s : Store)
    (hs : s.root = root) :
    (∀ a ∈ (s.content w.files).articles, a.HasReviewState) ∧
      ∀ k, (s.load.perform w).1 = .ok k → ∀ a ∈ k.articles, a.HasReviewState := by
  have hstored : ∀ a ∈ (s.content w.files).articles, a.HasReviewState := by
    have heq : (s.content w.files).articles = (Store.content { root } w.files).articles :=
      Store.stored_eq _ { root } hs w.files
    rw [heq]
    exact h.hasReviewState
  refine ⟨hstored, fun k hk => ?_⟩
  rw [(Store.reads_load s w).1] at hk
  obtain ⟨-, rfl⟩ := Store.loaded_eq_ok_iff.1 hk
  exact hstored

/-- A project with one topic to write on. -/
def planProject : Workspace := pairProject "billing.plan" "other.plan"

/-- The settings of the project. -/
def planSettings : Settings := pairSettings "billing.plan" "other.plan"

/-- The project after a run and an edit that pins the new article. -/
def pinnedByEdit : Workspace :=
  (Operation.edit (lit "kb-billing-plan-1714608000000")
    [(lit "content", .str (lit "y")), (lit "title", .null), (lit "status", .str (lit "pinned"))]
    none).perform planSettings (plainRun.perform planSettings planProject)

theorem marks_pinnedByEdit :
    ((Store.ofSettings planSettings).content planProject.files).articles.isEmpty = true ∧
      ((Store.ofSettings planSettings).content pinnedByEdit.files).articles.map
        (fun a => (a.status, a.pinned, a.humanEdited)) = [(lit "pinned", true, true)] := by
  decide +kernel

theorem hasReviewState_of_tended_pinned :
    Tended planSettings.root pinnedByEdit ∧
      (∀ a ∈ ((Store.ofSettings planSettings).content pinnedByEdit.files).articles,
        a.HasReviewState) ∧
      ((Store.ofSettings planSettings).content pinnedByEdit.files).articles.map
        (fun a => (a.status, a.pinned, a.humanEdited)) = [(lit "pinned", true, true)] := by
  have hwritten : Tended planSettings.root (plainRun.perform planSettings planProject) :=
    (Tended.start marks_pinnedByEdit.1).next plainRun (configures_pairSettings _ _) trivial
  have hnames : ([lit "content", lit "title", lit "status"] : List Text).Nodup := by decide
  have htended : Tended planSettings.root pinnedByEdit := hwritten.next _ trivial hnames
  exact ⟨htended, (hasReviewState_of_tended htended (Store.ofSettings planSettings)
    (Store.ofSettings_root planSettings)).1, marks_pinnedByEdit.2⟩

end HelpCenter

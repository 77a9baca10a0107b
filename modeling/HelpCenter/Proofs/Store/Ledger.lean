import HelpCenter.Proofs.Article.Edit
import HelpCenter.Proofs.Store.Questions

/-!
# The store keeps a ledger

`Served` says which workspaces requests to a store can lead to from one without questions, and how
often a question was recorded on the way.  Each request leaves a ledger of that many questions
(`StoreRequest.ends_saving`), so every such workspace holds one (`ledger_of_served`).
-/

namespace HelpCenter

open HelpCenter.Action (Ends IsWriteFault)

/-- What can be asked of a store. -/
inductive StoreRequest where
  | addGap (question : Text) (page : Json)
  | resolveGap (id : Text) (by_ resolution : Json)
  | listGaps (status : Option Text)
  | article (id : Text)
  | edit (id : Text) (changes : List (Text × Json)) (by_ : Option Text)
  | setStatus (id status : Text)
  | setPinned (id : Text) (pinned : Bool)
  | delete (id : Text)
  | load

/-- The action without what it gives. -/
def Action.done {α : Type} (a : Action α) : Action Unit := do
  let _ ← a
  return ()

/-- How many questions are recorded when this is what adding one gives. -/
def Store.recordedBy {α : Type} : Except Failure α → ℕ
  | .ok _ => 1
  | .error _ => 0

/-- Saves the knowledge base without the articles of an id and gives the first one of them. -/
def Store.saveWithout (s : Store) (id : Text) : Action Article := do
  let k ← s.load
  let a ← Store.findArticle k id
  s.save { k with articles := k.articles.filter (·.id ≠ id) }
  return a

theorem Store.delete_eq (s : Store) (id : Text) :
    s.delete id = (s.saveWithout id >>= fun a => do
      Store.removeDocument (s.markdownFile a)
      Store.removeDocument (s.jsonFile id)) := by
  simp [Store.delete, Store.saveWithout]

namespace StoreRequest

variable (s : Store)

/-- What is done for a request until everything is saved. -/
def saving : StoreRequest → Action Unit
  | .addGap question page => (s.addGap question page).done
  | .resolveGap id by_ resolution => (s.resolveGap id by_ resolution).done
  | .listGaps status => (s.listGaps status).done
  | .article id => (s.article id).done
  | .edit id changes by_ => (s.edit id changes by_).done
  | .setStatus id status => (s.setStatus id status).done
  | .setPinned id pinned => (s.setPinned id pinned).done
  | .delete id => (s.saveWithout id).done
  | .load => s.load.done

/-- All that is done for a request. -/
def action : StoreRequest → Action Unit
  | .delete id => s.delete id
  | r => r.saving s

/-- The files that are written for a request after the one of the questions. -/
def laterFiles (articles : List Article) : StoreRequest → List Place
  | .addGap .. | .resolveGap .. | .edit .. | .setStatus .. | .setPinned .. => s.laterFiles articles
  | .delete id => s.laterFiles (articles.filter (·.id ≠ id))
  | .listGaps _ | .article _ | .load => []

/-- Whether what is asked holds no surrogates. -/
def isEncodable : StoreRequest → Bool
  | .addGap question _ => question.isEncodable
  | _ => true

/-- How many questions are recorded for a request with this outcome. -/
def recorded : StoreRequest → Except Failure Unit → ℕ
  | .addGap .., r => Store.recordedBy r
  | _, _ => 0

end StoreRequest

/-- All files could be written, or nothing was changed; and no file among `fs` is the one of the
questions. -/
structure Store.Undisturbed {α : Type} (s : Store) (t : FileTree) (fs : List Place)
    (r : Except Failure α) (t' : FileTree) : Prop where
  written : ∀ e, r = .error e → IsWriteFault e → t' = t
  apart : ∀ f ∈ fs, ¬ t'.Meet f s.gapsFile

/-- All files can be written for the request, and nothing but questions gets into their file. -/
structure StoreRequest.GoesWell (s : Store) (w : Workspace) (r : StoreRequest) : Prop where
  encodable : r.isEncodable = true
  saved : s.Undisturbed w.files (r.laterFiles s (s.content w.files).articles)
    ((r.saving s).perform w).1 ((r.saving s).perform w).2.files
  /-- The file of the questions is not removed with a document. -/
  kept : w.files.isFile s.gapsFile = true →
    ((r.action s).perform w).2.files.isFile s.gapsFile = true

/-- The request succeeds, and nothing but questions gets into their file. -/
def StoreRequest.Succeeds (s : Store) (w : Workspace) (r : StoreRequest) : Prop :=
  r.isEncodable = true ∧ ((r.saving s).perform w).1.toOption.isSome = true ∧
    (∀ f ∈ r.laterFiles s (s.content w.files).articles,
      ¬ ((r.saving s).perform w).2.files.Meet f s.gapsFile) ∧
    (w.files.isFile s.gapsFile = true →
      ((r.action s).perform w).2.files.isFile s.gapsFile = true)

instance (s : Store) (w : Workspace) (r : StoreRequest) : Decidable (r.Succeeds s w) :=
  inferInstanceAs (Decidable (_ ∧ _ ∧ _ ∧ _))

theorem StoreRequest.Succeeds.goesWell {s : Store} {w : Workspace} {r : StoreRequest}
    (h : r.Succeeds s w) : r.GoesWell s w where
  encodable := h.1
  saved.written e he := by
    have hok := h.2.1
    rw [he] at hok
    cases hok
  saved.apart := h.2.2.1
  kept := h.2.2.2

namespace Store

variable {s : Store} {t t' : FileTree} {now : Moment} {k : KnowledgeBase} {n : ℕ} {fs : List Place}

/-- The workspaces that requests lead to from one without questions, each with the number of
questions that were recorded.  In between, everything but the stored questions may change. -/
inductive Served (s : Store) : Workspace → ℕ → Prop
  | start {w : Workspace} (h : (s.content w.files).gaps = []) : Served s w 0
  | outside {w w' : Workspace} {n : ℕ} (h : Served s w n)
    (hsame : (s.content w'.files).gaps = (s.content w.files).gaps) : Served s w' n
  | step {w : Workspace} {n : ℕ} (h : Served s w n) (r : StoreRequest) (hr : r.GoesWell s w) :
    Served s ((r.action s).perform w).2 (n + r.recorded ((r.action s).perform w).1)

/-! ## Saving a ledger -/

/-- Saving a ledger leaves it in its file, or fails and leaves everything as it was. -/
theorem ends_save_ledger (hk : IsLedger n k.gaps)
    (hfs : ∀ f ∈ s.laterFiles k.articles, f ∈ fs) :
    Ends t now (s.save k) fun r t' => s.Undisturbed t fs r t' →
      IsLedger n (s.questions t') ∨ (∃ e, r = .error e ∧ IsWriteFault e) ∧ t' = t := by
  intro w ht hn
  have hsaved := ends_save s k w ht hn
  intro hclean
  by_cases hfault : ∃ e, ((s.save k).perform w).1 = .error e ∧ IsWriteFault e
  · obtain ⟨e, he, hwrite⟩ := hfault
    exact .inr ⟨⟨e, he, hwrite⟩, hclean.written e he hwrite⟩
  · push Not at hfault
    rw [hsaved hfault fun f hf => hclean.apart f (hfs f hf)]
    exact .inl (isLedger_recalled hk)

theorem Undisturbed.of_ok {α β : Type} {x : α} {y : β} (h : s.Undisturbed t fs (.ok y) t') :
    s.Undisturbed t fs (.ok x) t' :=
  ⟨nofun, h.apart⟩

theorem Undisturbed.of_error {α β : Type} {e : Failure}
    (h : s.Undisturbed t fs (.error e : Except Failure β) t') :
    s.Undisturbed t fs (.error e : Except Failure α) t' :=
  ⟨fun e' he => h.written e' (congrArg Except.error (Except.error.inj he)), h.apart⟩

/-- The ledger is the same after the action. -/
def KeepsLedger {α : Type} (s : Store) (t : FileTree) (now : Moment) (fs : List Place)
    (a : Action α) : Prop :=
  ∀ n, IsLedger n (s.questions t) →
    Ends t now a fun r t' => s.Undisturbed t fs r t' → IsLedger n (s.questions t')

theorem keepsLedger_save (hk : ∀ n, IsLedger n (s.questions t) → IsLedger n k.gaps)
    (hfs : ∀ f ∈ s.laterFiles k.articles, f ∈ fs) : s.KeepsLedger t now fs (s.save k) := by
  intro n ht w hw hn hclean
  rcases ends_save_ledger (hk n ht) hfs w hw hn hclean with h | ⟨-, h⟩
  · exact h
  · exact h.symm ▸ ht

section Rules

variable {α β : Type} {a : Action α} {Q : α → Prop}

theorem KeepsLedger.of_quiet (ha : Action.Quiet t now a Q) : s.KeepsLedger t now fs a :=
  fun _ ht => ha.ends fun _ _ => ht

theorem KeepsLedger.quiet_bind {f : α → Action β} (ha : Action.Quiet t now a Q)
    (hf : ∀ x, Q x → s.KeepsLedger t now fs (f x)) : s.KeepsLedger t now fs (a >>= f) :=
  fun n ht => ha.bind_ends (fun _ _ => ht) fun x hx => hf x hx n ht

theorem KeepsLedger.bind_pure (ha : s.KeepsLedger t now fs a) (f : α → β) :
    s.KeepsLedger t now fs (a >>= fun x => pure (f x)) :=
  fun n ht => (ha n ht).bind_pure (fun _ _ h hclean => h hclean.of_ok)
    fun _ _ h hclean => h hclean.of_error

theorem KeepsLedger.done (ha : s.KeepsLedger t now fs a) : s.KeepsLedger t now fs a.done :=
  ha.bind_pure fun _ => ()

end Rules

/-! ## Articles -/

theorem documents_of_key {a b : Article} (h : a.key = b.key) : s.documents a = s.documents b := by
  obtain ⟨hid, htopic⟩ := Prod.mk.inj h
  unfold documents markdownFile Article.markdownPath
  rw [hid, htopic]

theorem flatMap_documents (articles : List Article) :
    articles.flatMap s.documents =
      (articles.map Article.key).flatMap fun e => s.documents { id := e.1, topic := e.2 } := by
  rw [List.flatMap_map]
  exact List.flatMap_congr fun a _ => documents_of_key rfl

theorem keepsLedger_changeArticle (id : Text) {change : Article → Moment → Except Failure Article}
    (hchange : ∀ a now b, change a now = .ok b → b.key = a.key) :
    s.KeepsLedger t now (s.laterFiles (s.content t).articles) (s.changeArticle id change) := by
  refine .quiet_bind (quiet_load s) fun k ⟨_, hk⟩ => ?_
  subst hk
  refine .quiet_bind (quiet_findArticle _ id) fun a ha => ?_
  refine .quiet_bind Action.quiet_now fun _ _ => ?_
  refine .quiet_bind (Action.quiet_ofExcept _) fun b hb => ?_
  have hfiles : s.laterFiles ((s.content t).withArticle id b).articles =
      s.laterFiles (s.content t).articles := by
    have hkeys : ((s.content t).withArticle id b).articles.map Article.key = _ :=
      replaceArticle_keys ha (hchange a _ b hb)
    unfold laterFiles
    rw [flatMap_documents, hkeys, ← flatMap_documents]
  have hsave : s.KeepsLedger t now (s.laterFiles (s.content t).articles)
      (s.save ((s.content t).withArticle id b)) :=
    keepsLedger_save (fun _ ht => ht) fun f hf => hfiles ▸ hf
  exact hsave.bind_pure fun _ => b

theorem keepsLedger_saveWithout (id : Text) :
    s.KeepsLedger t now (s.laterFiles ((s.content t).articles.filter (·.id ≠ id)))
      (s.saveWithout id) := by
  refine .quiet_bind (quiet_load s) fun k ⟨_, hk⟩ => ?_
  subst hk
  refine .quiet_bind (quiet_findArticle _ id) fun a _ => ?_
  have hsave : s.KeepsLedger t now (s.laterFiles ((s.content t).articles.filter (·.id ≠ id)))
      (s.save { s.content t with articles := (s.content t).articles.filter (·.id ≠ id) }) :=
    keepsLedger_save (fun _ ht => ht) fun _ hf => hf
  exact hsave.bind_pure fun _ => a

theorem shrinks_delete (id : Text) (w : Workspace) :
    FileTree.Shrinks ((s.saveWithout id).done.perform w).2.files
      ((s.delete id).perform w).2.files := by
  have removal (a : Article) : Action.Respects FileTree.Shrinks (do
      removeDocument (s.markdownFile a)
      removeDocument (s.jsonFile id)) :=
    (shrinks_removeDocument _).bind fun _ => shrinks_removeDocument _
  rw [delete_eq]
  rcases hsave : (s.saveWithout id).perform w with ⟨e | a, w'⟩
  · rw [Action.done, Action.perform_bind_error hsave, Action.perform_bind_error hsave]
    exact refl w'.files
  · rw [Action.done, Action.perform_bind_ok hsave, Action.perform_bind_ok hsave]
    exact removal a w'

/-! ## Questions -/

theorem keepsLedger_resolveGap (id : Text) (by_ resolution : Json) :
    s.KeepsLedger t now (s.laterFiles (s.content t).articles) (s.resolveGap id by_ resolution) := by
  refine .quiet_bind (quiet_load s) fun k ⟨_, hk⟩ => ?_
  subst hk
  split
  · next g gaps hgaps =>
    have hentries := Gap.map_entry_changeFirst hgaps fun _ => rfl
    exact (keepsLedger_save (fun n ht => IsLedger.congr ht hentries) fun f hf => hf).bind_pure
      fun _ => g
  · exact .of_quiet (Action.quiet_throw (Q := fun _ => True) _)

theorem keepsLedger_listGaps (status : Option Text) :
    s.KeepsLedger t now fs (s.listGaps status) := by
  have list : Action.Quiet t now (do
      let gaps := (← s.load).gaps.filter fun g => status.all (g.status = ·)
      return gaps.mergeSort fun g h => h.frequency ≤ g.frequency) fun _ => True :=
    (quiet_load s).bind fun _ _ => Action.quiet_pure trivial
  refine .of_quiet (Q := fun _ => True) ?_
  unfold listGaps
  split
  · split
    · exact (Action.quiet_throw (Q := fun _ => True) _).bind fun _ _ => list
    · exact list
  · exact list

/-- Saving a ledger with one more question records it, or fails and records nothing. -/
theorem ends_save_more (ht : IsLedger n (s.questions t)) (hk : IsLedger (n + 1) k.gaps)
    (hcontent : ∀ a ∈ k.articles, ∃ text, a.content = .str text) :
    Ends t now (s.save k) fun r t' => s.Undisturbed t (s.laterFiles k.articles) r t' →
      IsLedger (n + recordedBy r) (s.questions t') := by
  intro w hw hn hclean
  rcases hr : (s.save k).perform w with ⟨e | x, w'⟩
  · have hfault : IsWriteFault e := faults_save hcontent w e (by rw [hr])
    rw [hr] at hclean
    have hsame : w'.files = t := hclean.written e rfl hfault
    exact hsame.symm ▸ ht
  · have hsaved := ends_save_ledger hk (fun f hf => hf) w hw hn hclean
    rw [hr] at hsaved
    rcases hsaved with h | ⟨⟨e, he, -⟩, -⟩
    · exact h
    · cases he

theorem ends_addGap (ht : IsLedger n (s.questions t)) {question : Text} (page : Json)
    (hquestion : question.isEncodable = true) :
    Ends t now (s.addGap question page) fun r t' =>
      s.Undisturbed t (s.laterFiles (s.content t).articles) r t' →
        IsLedger (n + recordedBy r) (s.questions t') := by
  have hcontent : ∀ a ∈ (s.content t).articles, ∃ text, a.content = .str text := fun a ha =>
    content_of_mem_content ha
  have recorded {k : KnowledgeBase} (g : Gap) (hk : IsLedger (n + 1) k.gaps)
      (harticles : k.articles = (s.content t).articles) :
      Ends t now (do s.save k; return g) fun r t' =>
        s.Undisturbed t (s.laterFiles (s.content t).articles) r t' →
          IsLedger (n + recordedBy r) (s.questions t') :=
    (ends_save_more ht hk (harticles ▸ hcontent)).bind_pure
      (fun _ _ h hclean => h (harticles ▸ hclean.of_ok))
      fun _ _ h hclean => h (harticles ▸ hclean.of_error)
  unfold addGap
  dsimp only
  split
  · exact (Action.quiet_throw (Q := fun _ => False) _).bind_ends (fun _ _ => ht)
      fun _ h => h.elim
  next hne =>
  refine (quiet_load s).bind_ends (fun _ _ => ht) fun k ⟨_, hk⟩ => ?_
  subst hk
  split
  · next g gaps hgaps =>
    obtain ⟨before, old, after, hold, -, rfl⟩ := Gap.changeFirst_eq_some hgaps
    have hledger : IsLedger n (before ++ old :: after) := hold ▸ ht
    exact recorded g hledger.again rfl
  · next hnone =>
    refine Action.quiet_now.bind_ends (fun _ _ => ht) fun now' _ => ?_
    have hquestion' : Text.trim question ≠ [] := by simpa using hne
    obtain ⟨i, -, hid, hfree, -⟩ := Gap.newId_spec now' ((s.content t).gaps.map (·.id))
    refine recorded _ (IsLedger.first ht ?_ ?_ ?_ ?_ rfl) rfl
    · exact hid ▸ hfree
    · intro old hold
      simpa [Gap.asks] using Gap.changeFirst_eq_none_iff.1 hnone old hold
    · exact ⟨Text.isBlank_trim hquestion', Text.trim_trim question⟩
    · exact ⟨hid ▸ (Gap.isPlain_idChoice now' i).isEncodable, Text.isEncodable_trim hquestion⟩

end Store

/-! ## Requests -/

namespace StoreRequest

open Store

variable {s : Store} {t : FileTree} {now : Moment} {n : ℕ}

theorem ends_saving (r : StoreRequest) (hencodable : r.isEncodable = true)
    (ht : IsLedger n (s.questions t)) :
    Ends t now (r.saving s) fun o t' =>
      s.Undisturbed t (r.laterFiles s (s.content t).articles) o t' →
        IsLedger (n + r.recorded o) (s.questions t') := by
  cases r with
  | addGap question page =>
      refine (ends_addGap ht page hencodable).bind_pure ?_ ?_
      · exact fun _ _ h hclean => h hclean.of_ok
      · exact fun _ _ h hclean => h hclean.of_error
  | resolveGap id by_ resolution => exact (keepsLedger_resolveGap id by_ resolution).done n ht
  | listGaps status => exact (keepsLedger_listGaps status).done n ht
  | article id =>
      have harticle : Action.Quiet t now (s.article id) fun _ => True :=
        (quiet_load s).bind fun k _ => (quiet_findArticle k id).mono fun _ _ => trivial
      exact (KeepsLedger.of_quiet harticle).done n ht
  | edit id changes by_ =>
      exact (keepsLedger_changeArticle id fun _ _ _ => Article.edited_key).done n ht
  | setStatus id status =>
      have hchange : s.KeepsLedger t now (s.laterFiles (s.content t).articles)
          (s.changeArticle id fun a _ => .ok (a.inStatus status)) :=
        keepsLedger_changeArticle id fun a _ b h => by cases h; rfl
      have hstatus : s.KeepsLedger t now (s.laterFiles (s.content t).articles)
          (s.setStatus id status) := by
        unfold Store.setStatus
        split
        · exact .quiet_bind (Action.quiet_throw (Q := fun _ => False) _) fun _ h => h.elim
        · exact hchange
      exact hstatus.done n ht
  | setPinned id pinned =>
      exact (keepsLedger_changeArticle id fun a _ b h => by cases h; rfl).done n ht
  | delete id => exact (keepsLedger_saveWithout id).done n ht
  | load => exact (KeepsLedger.of_quiet (quiet_load s)).done n ht

theorem isLedger_action (r : StoreRequest) {w : Workspace} (hr : r.GoesWell s w)
    (hw : IsLedger n (s.questions w.files)) :
    IsLedger (n + r.recorded ((r.action s).perform w).1)
      (s.questions ((r.action s).perform w).2.files) := by
  have hsaved := r.ends_saving hr.encodable hw w rfl rfl hr.saved
  cases r with
  | delete id =>
      show IsLedger n (s.questions ((s.delete id).perform w).2.files)
      cases hfile : ((s.delete id).perform w).2.files.isFile s.gapsFile with
      | true =>
          rw [questions_of_shrinks (shrinks_delete id w) hfile]
          exact hsaved
      | false =>
          -- without the file there are no questions, and there were none before
          have hbefore : w.files.isFile s.gapsFile = false :=
            Bool.eq_false_iff.2 fun h => Bool.false_ne_true (hfile.symm.trans (hr.kept h))
          rw [questions_of_isFile_eq_false hfile]
          rwa [questions_of_isFile_eq_false hbefore] at hw
  | _ => exact hsaved

end StoreRequest

namespace Store

variable {s : Store}

theorem isLedger_of_served {w : Workspace} {n : ℕ} (h : s.Served w n) :
    IsLedger n (s.questions w.files) := by
  induction h with
  | start h => exact (show s.questions _ = [] from h) ▸ IsLedger.nil
  | outside _ hsame ih => exact (show s.questions _ = s.questions _ from hsame) ▸ ih
  | step _ r hr ih => exact r.isLedger_action hr ih

theorem Served.addGap {w : Workspace} {n : ℕ} (h : s.Served w n) {question : Text} {page : Json}
    (hr : (StoreRequest.addGap question page).Succeeds s w) :
    s.Served (((StoreRequest.addGap question page).action s).perform w).2 (n + 1) := by
  have hstep := h.step (.addGap question page) hr.goesWell
  obtain ⟨-, hok, -⟩ := hr
  cases ho : (((StoreRequest.addGap question page).action s).perform w).1 with
  | error e =>
      rw [show (((StoreRequest.addGap question page).saving s).perform w).1 = _ from ho] at hok
      cases hok
  | ok x =>
      rw [ho] at hstep
      exact hstep

/-- Whatever requests a store without questions is given, it holds a ledger of the questions that
were recorded, and the search for a new id ends at the first choice that is not taken. -/
theorem ledger_of_served (s : Store) :
    (∀ w n, s.Served w n → IsLedger n (s.content w.files).gaps ∧
      ∀ k, (s.load.perform w).1 = .ok k → IsLedger n k.gaps) ∧
    ∀ (now : Moment) (taken : List Text), ∃ i ≤ taken.length,
      Gap.newId now taken = Gap.idChoice now i ∧ Gap.idChoice now i ∉ taken ∧
        ∀ j < i, Gap.idChoice now j ∈ taken := by
  refine ⟨fun w n h => ⟨isLedger_of_served h, fun k hk => ?_⟩, Gap.newId_spec⟩
  rw [(reads_load s w).1] at hk
  obtain ⟨-, rfl⟩ := loaded_eq_ok_iff.1 hk
  exact isLedger_of_served h

/-- A workspace with nothing but a file of one article with the given id. -/
def storedArticle (id : Text) : Workspace where
  files := ⟨[([lit ".kodex"], .dir), ([lit ".kodex", lit "items.json"], .file <|
    (lit "\x7b\"items\": [\x7b\"id\": \"" ++ id ++
      lit "\", \"topic\": \"billing.plan\"\x7d]\x7d").flatMap CodePoint.utf8)]⟩
  now := ⟨0⟩

/-- Three questions in one millisecond, two of them the same, are a ledger with two ids. -/
theorem ledger_of_served_repeated :
    let s : Store := { root := [], docs := { format := lit "json" } }
    ∃ w, s.Served w 3 ∧ IsLedger 3 (s.content w.files).gaps ∧
      (s.content w.files).gaps.map (fun g => (g.id, g.frequency)) =
        [(lit "gap-0", 2), (lit "gap-0-2", 1)] := by
  intro s
  let pay : StoreRequest := .addGap (lit "Pay?") .null
  let pay' : StoreRequest := .addGap (lit " PAY? ") (.str (lit "/billing"))
  let cancel : StoreRequest := .addGap (lit "End?") .null
  let w₀ := storedArticle (lit "kb-1")
  let w₁ := ((pay.action s).perform w₀).2
  let w₂ := ((pay'.action s).perform w₁).2
  let w₃ := ((cancel.action s).perform w₂).2
  -- one evaluation for all, so that each workspace is computed once
  have checks : (s.content w₀.files).gaps.length = 0 ∧ pay.Succeeds s w₀ ∧ pay'.Succeeds s w₁ ∧
      cancel.Succeeds s w₂ ∧ (s.content w₃.files).gaps.map (fun g => (g.id, g.frequency)) =
        [(lit "gap-0", 2), (lit "gap-0-2", 1)] := by decide +kernel
  obtain ⟨hstart, hpay, hpay', hcancel, hgaps⟩ := checks
  have start : s.Served w₀ 0 := .start (List.eq_nil_of_length_eq_zero hstart)
  have served : s.Served w₃ 3 := ((start.addGap hpay).addGap hpay').addGap hcancel
  exact ⟨w₃, served, ((ledger_of_served s).1 w₃ 3 served).1, hgaps⟩

/-- A document that is written over the file of the questions takes a recorded one away. -/
theorem not_ledger_wayward :
    let s : Store := { root := [] }
    let w := storedArticle (lit "../../gaps")
    let w' := ((s.addGap (lit "How do I pay?") .null).perform w).2
    (s.content w.files).gaps = [] ∧
      ((s.addGap (lit "How do I pay?") .null).perform w).1.toOption.isSome = true ∧
      ¬ IsLedger 1 (s.content w'.files).gaps := by
  intro s w w'
  have checks : (s.content w.files).gaps.length = 0 ∧
      ((s.addGap (lit "How do I pay?") .null).perform w).1.toOption.isSome = true ∧
      (s.content w'.files).gaps.length = 0 := by decide +kernel
  obtain ⟨hstart, hok, hend⟩ := checks
  refine ⟨List.eq_nil_of_length_eq_zero hstart, hok, fun h => ?_⟩
  have htotal := h.total
  rw [List.eq_nil_of_length_eq_zero hend] at htotal
  cases htotal

end Store

end HelpCenter

import HelpCenter.Proofs.Store.Ledger

/-!
# Mutations of a store

What a mutation makes of the knowledge base is a function of the one that was loaded and of the time
(`Mutation.change`).  Every mutation checks what it is given, loads, changes and saves, and a
deletion then removes two documents (`Mutation.action_eq`); so it is refused and changes no file
(`Mutation.perform_prepare_error`), or it comes to saving (`Mutation.perform_prepare_ok`).
-/

namespace HelpCenter

/-- The knowledge base with the first article of an id changed. -/
def KnowledgeBase.changed (k : KnowledgeBase) (id : Text)
    (change : Article → Except Failure Article) : Except Failure KnowledgeBase :=
  match k.article? id with
  | some a => do return k.withArticle id (← change a)
  | none => .error (.noDocument id)

/-- What changes a knowledge base by way of its store. -/
inductive Mutation where
  | edit (id : Text) (changes : List (Text × Json)) (by_ : Option Text)
  | setStatus (id status : Text)
  | setPinned (id : Text) (pinned : Bool)
  | delete (id : Text)
  | addGap (question : Text) (page : Json)
  | resolveGap (id : Text) (by_ resolution : Json)

namespace Mutation

/-- What is done for a mutation. -/
def action (s : Store) : Mutation → Action Unit
  | .edit id changes by_ => (s.edit id changes by_).done
  | .setStatus id status => (s.setStatus id status).done
  | .setPinned id pinned => (s.setPinned id pinned).done
  | .delete id => s.delete id
  | .addGap question page => (s.addGap question page).done
  | .resolveGap id by_ resolution => (s.resolveGap id by_ resolution).done

/-- What is refused whatever the store holds. -/
def check : Mutation → Except Failure Unit
  | .setStatus _ status =>
    if Article.statuses.contains status then .ok () else .error (.unknownStatus status)
  | .addGap question _ => if (Text.trim question).isEmpty then .error .emptyQuestion else .ok ()
  | _ => .ok ()

/-- What is made of a knowledge base at a time. -/
def change (now : Moment) (k : KnowledgeBase) : Mutation → Except Failure KnowledgeBase
  | .edit id changes by_ => k.changed id fun a => a.edited changes by_ now
  | .setStatus id status => k.changed id fun a => .ok (a.inStatus status)
  | .setPinned id pinned => k.changed id fun a => .ok (a.withPin pinned)
  | .delete id =>
    match k.article? id with
    | some _ => .ok { k with articles := k.articles.filter (·.id ≠ id) }
    | none => .error (.noDocument id)
  | .addGap question page =>
    let question := Text.trim question
    match Gap.changeFirst (Gap.asks question) (fun g => { g with frequency := g.frequency + 1 })
        k.gaps with
    | some (_, gaps) => .ok { k with gaps }
    | none => .ok { k with gaps := k.gaps ++
        [{ id := Gap.newId now (k.gaps.map (·.id)), question, askedAt := now.toText, page }] }
  | .resolveGap id by_ resolution =>
    match Gap.changeFirst (fun g => g.id = id) (fun g => g.resolved by_ resolution) k.gaps with
    | some (_, gaps) => .ok { k with gaps }
    | none => .error (.noGap id)

/-- The documents that are removed after saving. -/
def removals (s : Store) (k : KnowledgeBase) : Mutation → List FilePath
  | .delete id =>
    match k.article? id with
    | some a => [s.markdownFile a, s.jsonFile id]
    | none => []
  | _ => []

/-- Checks, loads and changes, and goes on with what was loaded and what was made of it. -/
def prepare (m : Mutation) (s : Store) (next : KnowledgeBase → KnowledgeBase → Action Unit) :
    Action Unit := do
  Action.ofExcept m.check
  let k ← s.load
  let now ← Action.now
  let k' ← Action.ofExcept (m.change now k)
  next k k'

/-- What is done for a mutation until everything is saved. -/
def saving (m : Mutation) (s : Store) : Action Unit := m.prepare s fun _ k' => s.save k'

/-- What is done with the knowledge base that a mutation makes. -/
def carryOut (s : Store) (k k' : KnowledgeBase) (m : Mutation) : Action Unit := do
  s.save k'
  (m.removals s k).forM Store.removeDocument

end Mutation

/-- Giving something after an action that gives nothing makes no difference to what is done. -/
theorem Action.done_bind_pure {α : Type} (a : Action Unit) (x : α) :
    (a >>= fun _ => pure x).done = a := by
  rw [Action.done, bind_assoc]
  simp only [pure_bind]
  exact bind_pure a

namespace Store

theorem done_changeArticle (s : Store) (id : Text)
    (change : Article → Moment → Except Failure Article) :
    (s.changeArticle id change).done = (do
      let k ← s.load
      let now ← Action.now
      let k' ← Action.ofExcept (k.changed id fun a => change a now)
      s.save k') := by
  refine (bind_assoc (m := Action) _ _ _).trans (bind_congr (m := Action) fun k => ?_)
  unfold findArticle KnowledgeBase.changed
  cases k.article? id with
  | none => rfl
  | some a =>
      show (do
        let b ← Action.ofExcept (change a (← Action.now))
        s.save (k.withArticle id b)
        return b : Action Article).done = _
      refine (bind_assoc (m := Action) _ _ _).trans (bind_congr (m := Action) fun now => ?_)
      dsimp only
      cases change a now with
      | error e => rfl
      | ok b => exact Action.done_bind_pure (s.save (k.withArticle id b)) b

end Store

namespace Mutation

/-- A mutation that takes nothing away is done when everything is saved. -/
theorem carryOut_eq_save {m : Mutation} {s : Store} {k k' : KnowledgeBase}
    (h : m.removals s k = []) : m.carryOut s k k' = s.save k' := by
  unfold carryOut
  rw [h]
  exact bind_pure _

theorem action_eq (m : Mutation) (s : Store) : m.action s = m.prepare s (m.carryOut s) := by
  unfold prepare
  -- the two sides do the same in turn and differ in how they are bound, and in the answer dropped
  cases m with
  | edit id changes by_ =>
      simp only [carryOut_eq_save (show removals s _ (.edit id changes by_) = [] from rfl)]
      exact Store.done_changeArticle s id _
  | setStatus id status =>
      simp only [carryOut_eq_save (show removals s _ (.setStatus id status) = [] from rfl)]
      simp only [action, Store.setStatus, check]
      cases Article.statuses.contains status with
      | false => rfl
      | true => exact Store.done_changeArticle s id _
  | setPinned id pinned =>
      simp only [carryOut_eq_save (show removals s _ (.setPinned id pinned) = [] from rfl)]
      exact Store.done_changeArticle s id _
  | delete id =>
      refine bind_congr (m := Action) fun k => ?_
      simp only [Store.findArticle, carryOut, removals, change]
      cases k.article? id with
      | none => rfl
      | some a =>
          have hlast : Store.removeDocument (s.jsonFile id) >>= pure = _ := bind_pure _
          show (do
            s.save { k with articles := k.articles.filter (·.id ≠ id) }
            Store.removeDocument (s.markdownFile a)
            Store.removeDocument (s.jsonFile id)) = _
          rw [← hlast]
          rfl
  | addGap question page =>
      simp only [carryOut_eq_save (show removals s _ (.addGap question page) = [] from rfl)]
      simp only [action, Store.addGap, check]
      cases (Text.trim question).isEmpty with
      | true => rfl
      | false =>
          refine (bind_assoc (m := Action) _ _ _).trans (bind_congr (m := Action) fun k => ?_)
          simp only [change]
          rcases Gap.changeFirst (Gap.asks (Text.trim question)) _ k.gaps with _ | ⟨g, gaps⟩
          · refine (bind_assoc (m := Action) _ _ _).trans (bind_congr (m := Action) fun now => ?_)
            exact Action.done_bind_pure (s.save _) _
          · exact Action.done_bind_pure (s.save { k with gaps }) g
  | resolveGap id by_ resolution =>
      simp only [carryOut_eq_save (show removals s _ (.resolveGap id by_ resolution) = [] from rfl)]
      refine (bind_assoc (m := Action) _ _ _).trans (bind_congr (m := Action) fun k => ?_)
      simp only [change]
      rcases Gap.changeFirst (fun g => g.id = id) _ k.gaps with _ | ⟨g, gaps⟩
      · rfl
      · exact Action.done_bind_pure (s.save { k with gaps }) g

/-- The knowledge base that is loaded for a mutation and the one that is made of it. -/
def made (m : Mutation) (s : Store) (t : FileTree) (now : Moment) :
    Except Failure (KnowledgeBase × KnowledgeBase) := do
  m.check
  let k ← s.loaded t
  return (k, ← m.change now k)

variable {m : Mutation} {s : Store} {w : Workspace}

theorem made_eq_ok_iff {t : FileTree} {now : Moment} {k k' : KnowledgeBase} :
    m.made s t now = .ok (k, k') ↔
      m.check = .ok () ∧ s.loaded t = .ok k ∧ m.change now k = .ok k' := by
  unfold made
  simp only [Except.bind_eq_ok_iff]
  constructor
  · rintro ⟨⟨⟩, hcheck, k₁, hk, k₂, hk', h⟩
    cases h
    exact ⟨hcheck, hk, hk'⟩
  · rintro ⟨hcheck, hk, hk'⟩
    exact ⟨(), hcheck, k, hk, k', hk', rfl⟩

variable {next : KnowledgeBase → KnowledgeBase → Action Unit}

theorem perform_prepare_of_check (hcheck : m.check = .ok ()) :
    (m.prepare s next).perform w = (do
      let k ← s.load
      let now ← Action.now
      let k' ← Action.ofExcept (m.change now k)
      next k k' : Action Unit).perform w := by
  unfold prepare
  rw [hcheck]
  exact Action.perform_bind_ok (Action.perform_ofExcept _ w)

theorem perform_prepare_of_loaded {k : KnowledgeBase} (hcheck : m.check = .ok ())
    (hk : s.loaded w.files = .ok k) : (m.prepare s next).perform w =
      (Action.ofExcept (m.change w.now k) >>= next k).perform (s.load.perform w).2 := by
  have hload : s.load.perform w = (.ok k, (s.load.perform w).2) :=
    Prod.ext ((Store.reads_load s w).1.trans hk) rfl
  have hnow : (s.load.perform w).2.now = w.now := (Store.reads_load s).now_eq w
  rw [perform_prepare_of_check hcheck, Action.perform_bind_ok hload, ← hnow]
  generalize (s.load.perform w).2 = w'
  have hnow' : Action.now.perform w' = (.ok w'.now, w') := rfl
  exact Action.perform_bind_ok hnow'

/-- A mutation that is refused changes no file. -/
theorem perform_prepare_error {e : Failure} (h : m.made s w.files w.now = .error e) :
    ((m.prepare s next).perform w).1 = .error e ∧
      ((m.prepare s next).perform w).2.files = w.files := by
  rcases Except.bind_eq_error_iff.1 h with hcheck | ⟨u, hcheck, h⟩
  · unfold prepare
    rw [hcheck]
    exact ⟨rfl, rfl⟩
  have hfiles := (Store.reads_load s).files_eq w
  rcases Except.bind_eq_error_iff.1 h with hk | ⟨k, hk, h⟩
  · have hload : s.load.perform w = (.error e, (s.load.perform w).2) :=
      Prod.ext ((Store.reads_load s w).1.trans hk) rfl
    rw [perform_prepare_of_check hcheck, Action.perform_bind_error hload]
    exact ⟨rfl, hfiles⟩
  · rw [perform_prepare_of_loaded hcheck hk]
    rcases Except.bind_eq_error_iff.1 h with hk' | ⟨k', -, h⟩
    · rw [hk']
      exact ⟨rfl, hfiles⟩
    · cases h

theorem perform_prepare_ok {k k' : KnowledgeBase} (h : m.made s w.files w.now = .ok (k, k')) :
    (m.prepare s next).perform w = (next k k').perform (s.load.perform w).2 := by
  obtain ⟨hcheck, hk, hk'⟩ := made_eq_ok_iff.1 h
  rw [perform_prepare_of_loaded hcheck hk, hk']
  rfl

/-- What is done for a mutation that succeeds. -/
theorem action_eq_ok {w' : Workspace} (h : (m.action s).perform w = (.ok (), w')) :
    ∃ k k' w₁, m.made s w.files w.now = .ok (k, k') ∧
      (s.save k').perform (s.load.perform w).2 = (.ok (), w₁) ∧
      (m.saving s).perform w = (.ok (), w₁) ∧
      ((m.removals s k).forM Store.removeDocument).perform w₁ = (.ok (), w') := by
  rw [action_eq] at h
  cases hmade : m.made s w.files w.now with
  | error e =>
      have hfail : ((m.prepare s (m.carryOut s)).perform w).1 = .error e :=
        (perform_prepare_error hmade).1
      rw [h] at hfail
      cases hfail
  | ok made =>
      obtain ⟨k, k'⟩ := made
      rw [perform_prepare_ok hmade] at h
      obtain ⟨⟨⟩, w₁, hsave, hremove⟩ := Action.perform_bind_eq_ok h
      exact ⟨k, k', w₁, rfl, hsave, (perform_prepare_ok hmade).trans hsave, hremove⟩

end Mutation

end HelpCenter

import HelpCenter.Proofs.Workspace.Files

/-!
# Actions that send prompts

`Sends t now a r ps` says of an action that changes no file what it gives and which prompts it sends.
`Concludes t now a P` is about actions that may change files: the outcome, the prompts sent and the
files that are left satisfy `P`.  A silent action sends none (`Silent`).
-/

namespace HelpCenter.Action

variable {α β : Type} {t : FileTree} {now : Moment} {a : Action α} {r : Except Failure α}
  {ps qs : List SentPrompt}

/-! ## Prompts that are known -/

/-- With files `t` and the time `now` the action gives `r` and sends `ps`, and nothing else but the
log changes. -/
def Sends (t : FileTree) (now : Moment) (a : Action α) (r : Except Failure α)
    (ps : List SentPrompt) : Prop :=
  ∀ w, w.files = t → w.now = now → (a.perform w).1 = r ∧
    ∃ es, (a.perform w).2 = { w with log := w.log ++ es, sent := w.sent ++ ps }

theorem Tells.sends (h : Tells t now a r) : Sends t now a r [] := by
  intro w ht hn
  obtain ⟨hr, es, hw⟩ := h w ht hn
  exact ⟨hr, es, by rw [hw, List.append_nil]⟩

theorem sends_send (ps : List SentPrompt) : Sends t now (send ps) (.ok ()) ps :=
  fun w _ _ => ⟨rfl, [], by rw [List.append_nil]; rfl⟩

/-- What comes after a step that succeeds. -/
theorem Sends.then {f : α → Action β} {x : α} {s : Except Failure β}
    (ha : Sends t now a (.ok x) ps) (hf : Sends t now (f x) s qs) :
    Sends t now (a >>= f) s (ps ++ qs) := by
  intro w ht hn
  obtain ⟨hr, es, hw⟩ := ha w ht hn
  rw [perform_bind_ok (Prod.ext hr hw)]
  obtain ⟨hs, fs, hw'⟩ := hf { w with log := w.log ++ es, sent := w.sent ++ ps } ht hn
  exact ⟨hs, es ++ fs, by rw [hw', List.append_assoc, List.append_assoc]⟩

theorem Tells.then_sends {f : α → Action β} {x : α} {s : Except Failure β}
    (ha : Tells t now a (.ok x)) (hf : Sends t now (f x) s qs) : Sends t now (a >>= f) s qs :=
  ha.sends.then hf

theorem Sends.then_tells {f : α → Action β} {x : α} {s : Except Failure β}
    (ha : Sends t now a (.ok x) ps) (hf : Tells t now (f x) s) : Sends t now (a >>= f) s ps :=
  List.append_nil ps ▸ ha.then hf.sends

theorem Sends.attempt (h : Sends t now a r ps) : Sends t now a.attempt (.ok r) ps :=
  fun w ht hn => ⟨congrArg Except.ok (h w ht hn).1, (h w ht hn).2⟩

/-! ## Actions that end with a change of files -/

/-- With files `t` and the time `now` the action ends with an outcome, prompts that it has sent and
files that satisfy `P`. -/
def Concludes (t : FileTree) (now : Moment) (a : Action α)
    (P : Except Failure α → List SentPrompt → FileTree → Prop) : Prop :=
  ∀ w, w.files = t → w.now = now → ∃ ps, (a.perform w).2.sent = w.sent ++ ps ∧
    P (a.perform w).1 ps (a.perform w).2.files

variable {P : Except Failure β → List SentPrompt → FileTree → Prop}

theorem Concludes.mono {Q Q' : Except Failure α → List SentPrompt → FileTree → Prop}
    (h : Concludes t now a Q) (hQ : ∀ r ps t', Q r ps t' → Q' r ps t') : Concludes t now a Q' := by
  intro w ht hn
  obtain ⟨ps, hps, hend⟩ := h w ht hn
  exact ⟨ps, hps, hQ _ _ _ hend⟩

theorem Sends.bind_concludes {f : α → Action β} (ha : Sends t now a r ps)
    (herror : ∀ e, r = .error e → P (.error e) ps t)
    (hf : ∀ x, r = .ok x → Concludes t now (f x) fun s qs t' => P s (ps ++ qs) t') :
    Concludes t now (a >>= f) P := by
  intro w ht hn
  obtain ⟨hr, es, hw⟩ := ha w ht hn
  cases r with
  | error e =>
      rw [perform_bind_error (Prod.ext hr hw)]
      exact ⟨ps, rfl, ht ▸ herror e rfl⟩
  | ok x =>
      rw [perform_bind_ok (Prod.ext hr hw)]
      obtain ⟨qs, hqs, hP⟩ := hf x rfl { w with log := w.log ++ es, sent := w.sent ++ ps } ht hn
      exact ⟨ps ++ qs, hqs.trans (List.append_assoc ..), hP⟩

theorem Tells.bind_concludes {f : α → Action β} (ha : Tells t now a r)
    (herror : ∀ e, r = .error e → P (.error e) [] t)
    (hf : ∀ x, r = .ok x → Concludes t now (f x) P) : Concludes t now (a >>= f) P :=
  ha.sends.bind_concludes herror hf

/-! ## Actions that send nothing -/

/-- Whether the action succeeds or fails, it sends no prompt. -/
def Silent (a : Action α) : Prop := ∀ w, (a.perform w).2.sent = w.sent

theorem silent_pure (x : α) : Silent (pure x) := fun _ => rfl

theorem silent_throw (e : Failure) : Silent (throw e : Action α) := fun _ => rfl

theorem silent_log (e : LogEntry) : Silent (log e) := fun _ => rfl

theorem Silent.bind {f : α → Action β} (ha : Silent a) (hf : ∀ x, Silent (f x)) :
    Silent (a >>= f) := by
  intro w
  have h := ha w
  rcases hr : a.perform w with ⟨r, w'⟩
  rw [hr] at h
  cases r with
  | error e =>
      rw [perform_bind_error hr]
      exact h
  | ok x =>
      rw [perform_bind_ok hr]
      exact (hf x w').trans h

theorem silent_forM {f : β → Action Unit} (h : ∀ x, Silent (f x)) (xs : List β) :
    Silent (xs.forM f) := by
  induction xs with
  | nil => exact silent_pure ()
  | cons x xs ih => exact (h x).bind fun _ => ih

theorem Silent.onFileFault {e : FileFault → Failure} (h : Silent a) : Silent (onFileFault e a) := by
  intro w
  rw [perform_onFileFault_snd]
  exact h w

theorem silent_changeFiles (p : Place) (change : FileTree → Except FileFault FileTree) :
    Silent (changeFiles p change) := by
  intro w
  obtain ⟨e, hw, -⟩ | ⟨t, hw, -⟩ := changeFiles_cases p change w
  · rw [hw]
  · rw [hw]

theorem silent_makeDirs (p : Place) : Silent (makeDirs p) := silent_changeFiles p _

theorem silent_writeText (p : Place) (text : Text) : Silent (writeText p text) := by
  refine (silent_changeFiles p _).bind fun _ => ?_
  split
  · exact silent_changeFiles p _
  · exact silent_throw _

theorem Silent.concludes {Q : Except Failure α → List SentPrompt → FileTree → Prop}
    (h : Silent a) (hend : Ends t now a fun r t' => Q r [] t') : Concludes t now a Q :=
  fun w ht hn => ⟨[], (h w).trans (List.append_nil _).symm, hend w ht hn⟩

end HelpCenter.Action

import HelpCenter.Proofs.Except
import HelpCenter.Workspace.Basic

/-!
# Reasoning about actions

`perform_bind` runs a sequence of actions step by step.  Judgments follow whole actions:
`Reads a f` says that the result of `a` is the function `f` of the files and that nothing but the
log changes, `Tells t now a r` that this result is `r` where the files are `t` and the time is `now`,
`Quiet t now a Q` that `a` leaves the files `t` and the clock as they are and that what it gives
satisfies `Q`, and `Leaves t now a I` that the files satisfy `I` afterwards, whether `a` succeeds or
fails; `Ends t now a P` relates them to the outcome too, and `Yields t now a S` to what a success
gives.
-/

namespace HelpCenter.Action

variable {α β : Type}

/-! ## Running actions -/

theorem perform_pure (x : α) (w : Workspace) : (pure x : Action α).perform w = (.ok x, w) := rfl

theorem perform_throw (e : Failure) (w : Workspace) :
    (throw e : Action α).perform w = (.error e, w) := rfl

theorem perform_bind (a : Action α) (f : α → Action β) (w : Workspace) :
    (a >>= f).perform w =
      match a.perform w with
      | (.ok x, w') => (f x).perform w'
      | (.error e, w') => (.error e, w') := by
  unfold perform
  rw [ExceptT.run_bind, StateT.run_bind]
  rcases (a.run).run w with ⟨r, w'⟩
  cases r <;> rfl

theorem perform_bind_ok {a : Action α} {f : α → Action β} {w w' : Workspace} {x : α}
    (h : a.perform w = (.ok x, w')) : (a >>= f).perform w = (f x).perform w' := by
  rw [perform_bind, h]

theorem perform_bind_error {a : Action α} {f : α → Action β} {w w' : Workspace} {e : Failure}
    (h : a.perform w = (.error e, w')) : (a >>= f).perform w = (.error e, w') := by
  rw [perform_bind, h]

/-- A sequence succeeds if both parts do, one after the other. -/
theorem perform_bind_eq_ok {a : Action α} {f : α → Action β} {w w' : Workspace} {y : β}
    (h : (a >>= f).perform w = (.ok y, w')) :
    ∃ x w₁, a.perform w = (.ok x, w₁) ∧ (f x).perform w₁ = (.ok y, w') := by
  rw [perform_bind] at h
  split at h
  · next x w₁ ha => exact ⟨x, w₁, ha, h⟩
  · next => cases h

theorem exists_eq_ok_of_isSome {r : Except Failure α × Workspace}
    (h : r.1.toOption.isSome = true) : ∃ x, r = (.ok x, r.2) := by
  obtain ⟨_ | x, w⟩ := r
  · cases h
  · exact ⟨x, rfl⟩

theorem perform_ofExcept (r : Except Failure α) (w : Workspace) :
    (ofExcept r).perform w = (r, w) := by
  cases r <;> rfl

theorem perform_attempt (a : Action α) (w : Workspace) :
    a.attempt.perform w = (.ok (a.perform w).1, (a.perform w).2) := rfl

theorem perform_files (w : Workspace) : files.perform w = (.ok w.files, w) := rfl

theorem perform_readText (p : Place) (w : Workspace) :
    (readText p).perform w = (checkNames p >>= fun _ => w.files.readText p, w) := by
  unfold readText
  cases h : checkNames p with
  | error e => rfl
  | ok u =>
      rw [perform_bind_ok (perform_ofExcept _ w), perform_bind_ok (perform_files w),
        perform_ofExcept]
      rfl

/-! ## Actions that only read -/

/-- The result is a function of the files, and nothing but the log changes. -/
def Reads (a : Action α) (f : FileTree → Except Failure α) : Prop :=
  ∀ w, (a.perform w).1 = f w.files ∧ ∃ es, (a.perform w).2 = { w with log := w.log ++ es }

theorem reads_of_perform {a : Action α} {f : FileTree → Except Failure α}
    (h : ∀ w, a.perform w = (f w.files, w)) : Reads a f :=
  fun w => ⟨by rw [h], [], by rw [h]; simp⟩

theorem reads_pure (x : α) : Reads (pure x) fun _ => .ok x := reads_of_perform fun _ => rfl

theorem reads_throw (e : Failure) : Reads (throw e : Action α) fun _ => .error e :=
  reads_of_perform fun _ => rfl

theorem reads_log (e : LogEntry) : Reads (log e) fun _ => .ok () := fun _ => ⟨rfl, [e], rfl⟩

theorem reads_readText (p : Place) :
    Reads (readText p) fun t => checkNames p >>= fun _ => t.readText p :=
  reads_of_perform fun w => perform_readText p w

theorem Reads.attempt {a : Action α} {f : FileTree → Except Failure α} (h : Reads a f) :
    Reads a.attempt fun t => .ok (f t) :=
  fun w => ⟨congrArg Except.ok (h w).1, (h w).2⟩

theorem Reads.bind {a : Action α} {b : α → Action β} {f : FileTree → Except Failure α}
    {g : α → FileTree → Except Failure β} (ha : Reads a f) (hb : ∀ x, Reads (b x) (g x)) :
    Reads (a >>= b) fun t => f t >>= fun x => g x t := by
  intro w
  obtain ⟨h₁, es, h₂⟩ := ha w
  rcases hr : a.perform w with ⟨r, w'⟩
  simp only [hr] at h₁ h₂
  subst h₂
  cases r with
  | error e =>
      rw [perform_bind_error hr]
      exact ⟨by simp only [← h₁]; rfl, es, rfl⟩
  | ok x =>
      rw [perform_bind_ok hr]
      obtain ⟨h₃, fs, h₄⟩ := hb x { w with log := w.log ++ es }
      exact ⟨by simp only [← h₁]; exact h₃, es ++ fs, by rw [h₄, List.append_assoc]⟩

theorem Reads.mapM {a : α → Action β} {f : α → FileTree → Except Failure β}
    (h : ∀ x, Reads (a x) (f x)) (xs : List α) :
    Reads (xs.mapM a) fun t => xs.mapM fun x => f x t := by
  induction xs with
  | nil => exact reads_pure []
  | cons x xs ih =>
      simp only [List.mapM_cons]
      exact (h x).bind fun y => ih.bind fun ys => reads_pure (y :: ys)

/-- The files stay as they are. -/
theorem Reads.files_eq {a : Action α} {f : FileTree → Except Failure α} (h : Reads a f)
    (w : Workspace) : (a.perform w).2.files = w.files := by
  obtain ⟨-, es, he⟩ := h w
  rw [he]

theorem Reads.now_eq {a : Action α} {f : FileTree → Except Failure α} (h : Reads a f)
    (w : Workspace) : (a.perform w).2.now = w.now := by
  obtain ⟨-, es, he⟩ := h w
  rw [he]

/-! ## Actions whose result is known -/

/-- With files `t` and the time `now` the action gives `r`, and nothing but the log changes. -/
def Tells (t : FileTree) (now : Moment) (a : Action α) (r : Except Failure α) : Prop :=
  ∀ w, w.files = t → w.now = now →
    (a.perform w).1 = r ∧ ∃ es, (a.perform w).2 = { w with log := w.log ++ es }

section Tells

variable {t : FileTree} {now : Moment} {a b : Action α} {r r' : Except Failure α}

theorem Reads.tells {f : FileTree → Except Failure α} (h : Reads a f) : Tells t now a (f t) :=
  fun w ht _ => ⟨ht ▸ (h w).1, (h w).2⟩

theorem tells_pure (x : α) : Tells t now (pure x) (.ok x) := (reads_pure x).tells

theorem tells_throw (e : Failure) : Tells t now (throw e : Action α) (.error e) :=
  (reads_throw e).tells

theorem tells_log (e : LogEntry) : Tells t now (log e) (.ok ()) := (reads_log e).tells

theorem tells_logAll (es : List LogEntry) : Tells t now (logAll es) (.ok ()) :=
  fun _ _ _ => ⟨rfl, es, rfl⟩

theorem tells_ofExcept (r : Except Failure α) : Tells t now (ofExcept r) r :=
  fun w _ _ => by rw [perform_ofExcept]; exact ⟨rfl, [], by simp⟩

theorem tells_files : Tells t now files (.ok t) :=
  (reads_of_perform (f := .ok) perform_files).tells

theorem tells_now : Tells t now Action.now (.ok now) :=
  fun w _ hn => ⟨congrArg Except.ok hn, [], by rw [List.append_nil]; rfl⟩

theorem Tells.bind {f : α → Action β} {g : α → Except Failure β} (ha : Tells t now a r)
    (hf : ∀ x, r = .ok x → Tells t now (f x) (g x)) : Tells t now (a >>= f) (r >>= g) := by
  intro w ht hn
  obtain ⟨h₁, es, h₂⟩ := ha w ht hn
  rcases hr : a.perform w with ⟨s, w'⟩
  simp only [hr] at h₁ h₂
  subst h₁ h₂
  cases s with
  | error e =>
      rw [perform_bind_error hr]
      exact ⟨rfl, es, rfl⟩
  | ok x =>
      rw [perform_bind_ok hr]
      obtain ⟨h₃, fs, h₄⟩ := hf x rfl { w with log := w.log ++ es } ht hn
      exact ⟨h₃, es ++ fs, by rw [h₄, List.append_assoc]⟩

/-- What comes after a step that succeeds. -/
theorem Tells.then {f : α → Action β} {x : α} {s : Except Failure β} (ha : Tells t now a (.ok x))
    (hf : Tells t now (f x) s) : Tells t now (a >>= f) s :=
  ha.bind (g := fun _ => s) fun _ hx => Except.ok.inj hx ▸ hf

theorem Tells.map {f : α → β} (ha : Tells t now a r) : Tells t now (f <$> a) (r.map f) := by
  rw [map_eq_pure_bind]
  have hr : r.map f = r >>= fun x => .ok (f x) := by cases r <;> rfl
  rw [hr]
  exact ha.bind fun x _ => tells_pure (f x)

/-- An action on each item that succeeds. -/
theorem Tells.mapM {f : β → Action α} {g : β → α} (h : ∀ x, Tells t now (f x) (.ok (g x)))
    (xs : List β) : Tells t now (xs.mapM f) (.ok (xs.map g)) := by
  induction xs with
  | nil => exact tells_pure []
  | cons x xs ih =>
      rw [List.mapM_cons]
      exact (h x).then (ih.then (tells_pure _))

/-- The result for a workspace with these files at this time. -/
theorem Tells.perform_eq (h : Tells t now a r) {w : Workspace} (ht : w.files = t)
    (hn : w.now = now) : ∃ es, a.perform w = (r, { w with log := w.log ++ es }) := by
  obtain ⟨h₁, es, h₂⟩ := h w ht hn
  exact ⟨es, Prod.ext h₁ h₂⟩

end Tells

/-! ## Actions that change no file -/

variable {t : FileTree} {now : Moment} {Q : α → Prop} {R : β → Prop} {I : FileTree → Prop}

/-- With files `t` and the time `now` the action changes neither, and its result satisfies `Q`. -/
def Quiet (t : FileTree) (now : Moment) (a : Action α) (Q : α → Prop) : Prop :=
  ∀ w, w.files = t → w.now = now → (a.perform w).2.files = t ∧ (a.perform w).2.now = now ∧
    ∀ x, (a.perform w).1 = .ok x → Q x

theorem quiet_ofExcept (r : Except Failure α) : Quiet t now (ofExcept r) (r = .ok ·) := by
  intro w ht hn
  rw [perform_ofExcept]
  exact ⟨ht, hn, fun x hx => hx⟩

theorem quiet_pure {x : α} (h : Q x) : Quiet t now (pure x) Q :=
  fun _ ht hn => ⟨ht, hn, fun _ hx => Except.ok.inj hx ▸ h⟩

theorem quiet_throw (e : Failure) : Quiet t now (throw e) Q :=
  fun _ ht hn => ⟨ht, hn, nofun⟩

theorem quiet_log (e : LogEntry) : Quiet t now (log e) fun _ => True :=
  fun _ ht hn => ⟨ht, hn, fun _ _ => trivial⟩

theorem quiet_logAll (es : List LogEntry) : Quiet t now (logAll es) fun _ => True :=
  fun _ ht hn => ⟨ht, hn, fun _ _ => trivial⟩

theorem quiet_send (ps : List SentPrompt) : Quiet t now (send ps) fun _ => True :=
  fun _ ht hn => ⟨ht, hn, fun _ _ => trivial⟩

theorem quiet_files : Quiet t now files (· = t) :=
  fun _ ht hn => ⟨ht, hn, fun _ hx => Except.ok.inj hx ▸ ht⟩

theorem quiet_now : Quiet t now Action.now (· = now) :=
  fun _ ht hn => ⟨ht, hn, fun _ hx => Except.ok.inj hx ▸ hn⟩

theorem Reads.quiet {a : Action α} {f : FileTree → Except Failure α} (h : Reads a f) :
    Quiet t now a (f t = .ok ·) := fun w ht hn =>
  ⟨(h.files_eq w).trans ht, (h.now_eq w).trans hn, fun x hx => by rw [← ht, ← (h w).1, hx]⟩

theorem Quiet.mono {a : Action α} {Q' : α → Prop} (h : Quiet t now a Q) (hQ : ∀ x, Q x → Q' x) :
    Quiet t now a Q' := fun w ht hn =>
  let ⟨h₁, h₂, h₃⟩ := h w ht hn
  ⟨h₁, h₂, fun x hx => hQ x (h₃ x hx)⟩

theorem Quiet.bind {a : Action α} {f : α → Action β} (ha : Quiet t now a Q)
    (hf : ∀ x, Q x → Quiet t now (f x) R) : Quiet t now (a >>= f) R := by
  intro w ht hn
  obtain ⟨h₁, h₂, h₃⟩ := ha w ht hn
  rcases hr : a.perform w with ⟨r, w'⟩
  rw [hr] at h₁ h₂ h₃
  cases r with
  | error e =>
      rw [perform_bind_error hr]
      exact ⟨h₁, h₂, nofun⟩
  | ok x =>
      rw [perform_bind_ok hr]
      exact hf x (h₃ x rfl) w' h₁ h₂

theorem Quiet.map {a : Action α} {f : α → β} (ha : Quiet t now a Q) (hf : ∀ x, Q x → R (f x)) :
    Quiet t now (f <$> a) R := by
  rw [map_eq_pure_bind]
  exact ha.bind fun x hx => quiet_pure (hf x hx)

theorem Quiet.attempt {a : Action α} (h : Quiet t now a Q) :
    Quiet t now a.attempt fun r => ∀ x, r = .ok x → Q x := by
  intro w ht hn
  obtain ⟨h₁, h₂, h₃⟩ := h w ht hn
  rw [perform_attempt]
  exact ⟨h₁, h₂, fun r hr x hx => h₃ x ((Except.ok.inj hr).trans hx)⟩

theorem Quiet.mapM {a : β → Action α} (h : ∀ x, Quiet t now (a x) Q) (xs : List β) :
    Quiet t now (xs.mapM a) fun ys => ∀ y ∈ ys, Q y := by
  induction xs with
  | nil => exact quiet_pure nofun
  | cons x xs ih =>
      rw [List.mapM_cons]
      exact (h x).bind fun y hy => ih.bind fun ys hys =>
        quiet_pure (List.forall_mem_cons.2 ⟨hy, hys⟩)

/-- A step that is taken only under a condition before the rest. -/
theorem Quiet.ite_bind {c : Prop} [Decidable c] {a : Action α} {b : Action β}
    (ha : Quiet t now a fun _ => True) (hb : Quiet t now b R) :
    Quiet t now (if c then a >>= fun _ => b else b) R := by
  split
  · exact ha.bind fun _ _ => hb
  · exact hb

/-- With files `t` and the time `now` the action leaves files that satisfy `I`. -/
def Leaves (t : FileTree) (now : Moment) (a : Action α) (I : FileTree → Prop) : Prop :=
  ∀ w, w.files = t → w.now = now → I (a.perform w).2.files

theorem Quiet.leaves {a : Action α} (h : Quiet t now a Q) (hI : I t) : Leaves t now a I :=
  fun w ht hn => (h w ht hn).1.symm ▸ hI

theorem leaves_pure {x : α} (hI : I t) : Leaves t now (pure x) I :=
  fun _ ht _ => ht.symm ▸ hI

theorem Quiet.bind_leaves {a : Action α} {f : α → Action β} (ha : Quiet t now a Q) (hI : I t)
    (hf : ∀ x, Q x → Leaves t now (f x) I) : Leaves t now (a >>= f) I := by
  intro w ht hn
  obtain ⟨h₁, h₂, h₃⟩ := ha w ht hn
  rcases hr : a.perform w with ⟨r, w'⟩
  rw [hr] at h₁ h₂ h₃
  cases r with
  | error e =>
      rw [perform_bind_error hr]
      exact h₁.symm ▸ hI
  | ok x =>
      rw [perform_bind_ok hr]
      exact hf x (h₃ x rfl) w' h₁ h₂

theorem Leaves.ite {c : Prop} [Decidable c] {a b : Action α} (ha : c → Leaves t now a I)
    (hb : ¬ c → Leaves t now b I) : Leaves t now (if c then a else b) I := by
  split
  · exact ha ‹_›
  · exact hb ‹_›

/-- What follows may change files too if it keeps `I`. -/
theorem Leaves.bind {a : Action α} {f : α → Action β} (ha : Leaves t now a I)
    (hf : ∀ x t' now', I t' → Leaves t' now' (f x) I) : Leaves t now (a >>= f) I := by
  intro w ht hn
  have hI := ha w ht hn
  rcases hr : a.perform w with ⟨r, w'⟩
  rw [hr] at hI
  cases r with
  | error e =>
      rw [perform_bind_error hr]
      exact hI
  | ok x =>
      rw [perform_bind_ok hr]
      exact hf x _ _ hI w' rfl rfl

/-! ## Outcomes -/

variable {P : Except Failure α → FileTree → Prop} {P' : Except Failure β → FileTree → Prop}

/-- With files `t` and the time `now` the action ends with an outcome and files that satisfy
`P`. -/
def Ends (t : FileTree) (now : Moment) (a : Action α) (P : Except Failure α → FileTree → Prop) :
    Prop :=
  ∀ w, w.files = t → w.now = now → P (a.perform w).1 (a.perform w).2.files

theorem Quiet.ends {a : Action α} (ha : Quiet t now a Q) (hP : ∀ r, P r t) : Ends t now a P :=
  fun w ht hn => (ha w ht hn).1.symm ▸ hP _

theorem Quiet.bind_ends {a : Action α} {f : α → Action β} (ha : Quiet t now a Q)
    (herror : ∀ e, P' (.error e) t) (hf : ∀ x, Q x → Ends t now (f x) P') :
    Ends t now (a >>= f) P' := by
  intro w ht hn
  obtain ⟨h₁, h₂, h₃⟩ := ha w ht hn
  rcases hr : a.perform w with ⟨r, w'⟩
  rw [hr] at h₁ h₂ h₃
  cases r with
  | error e =>
      rw [perform_bind_error hr]
      exact h₁.symm ▸ herror e
  | ok x =>
      rw [perform_bind_ok hr]
      exact hf x (h₃ x rfl) w' h₁ h₂

/-- The action ends in the same way if something is made of what it gives. -/
theorem Ends.bind_pure {a : Action α} {f : α → β} (ha : Ends t now a P)
    (hok : ∀ x t', P (.ok x) t' → P' (.ok (f x)) t')
    (herror : ∀ e t', P (.error e) t' → P' (.error e) t') :
    Ends t now (a >>= fun x => pure (f x)) P' := by
  intro w ht hn
  have h := ha w ht hn
  rcases hr : a.perform w with ⟨r, w'⟩
  rw [hr] at h
  cases r with
  | error e =>
      rw [perform_bind_error hr]
      exact herror e _ h
  | ok x =>
      rw [perform_bind_ok hr]
      exact hok x _ h

/-- With files `t` and the time `now` a success of the action gives a value and leaves files that
`S` relates. -/
def Yields (t : FileTree) (now : Moment) (a : Action α) (S : α → FileTree → Prop) : Prop :=
  Ends t now a fun r t' => ∀ x, r = .ok x → S x t'

variable {S : α → FileTree → Prop} {S' : β → FileTree → Prop}

theorem Yields.of_eq_ok {a : Action α} (h : Yields t now a S) {w w' : Workspace} {x : α}
    (ht : w.files = t) (hn : w.now = now) (hp : a.perform w = (.ok x, w')) : S x w'.files := by
  have hend := h w ht hn
  rw [hp] at hend
  exact hend x rfl

theorem Quiet.yields {a : Action α} (h : Quiet t now a (S · t)) : Yields t now a S := by
  intro w ht hn x hx
  obtain ⟨hfiles, -, hS⟩ := h w ht hn
  rw [hfiles]
  exact hS x hx

theorem Quiet.bind_yields {a : Action α} {f : α → Action β} (ha : Quiet t now a Q)
    (hf : ∀ x, Q x → Yields t now (f x) S') : Yields t now (a >>= f) S' :=
  ha.bind_ends (fun _ => nofun) hf

theorem Yields.ite {c : Prop} [Decidable c] {a b : Action α} (ha : c → Yields t now a S)
    (hb : ¬ c → Yields t now b S) : Yields t now (if c then a else b) S := by
  split
  · exact ha ‹_›
  · exact hb ‹_›

end HelpCenter.Action

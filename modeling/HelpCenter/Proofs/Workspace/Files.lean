import HelpCenter.Proofs.Files.Tree
import HelpCenter.Proofs.Workspace.Action

/-!
# Actions that write files

`Writes a fs` says that a success of the action `a` leaves the files as they were, except that the
paths `fs` have been written to.  `Respects R a` is about failures too: with `Stays C` for `R` no
file gets a content that does not satisfy `C` (`Keeps C a`), with `Touches fs` only files that the
paths `fs` lead to get another content.  `Faults P a` says what can go wrong.
-/

namespace HelpCenter.Action

open FileTree (Extends)

variable {α β : Type} {p : Place} {w w' : Workspace} {fs gs : List Place}

/-- When the action succeeds, only the paths `fs` have been written to. -/
def Writes (a : Action α) (fs : List Place) : Prop :=
  ∀ w x w', a.perform w = (.ok x, w') → Extends w.files w'.files fs

theorem writes_pure (x : α) : Writes (pure x) [] := by
  intro w y w' h
  rw [perform_pure, Prod.mk.injEq] at h
  rw [h.2]
  exact FileTree.extends_refl _

theorem Writes.bind {a : Action α} {f : α → Action β} (ha : Writes a fs)
    (hf : ∀ x, Writes (f x) gs) : Writes (a >>= f) (fs ++ gs) := by
  intro w y w' h
  obtain ⟨x, w₁, h₁, h₂⟩ := perform_bind_eq_ok h
  exact (ha _ _ _ h₁).trans (hf x _ _ _ h₂)

theorem writes_forM {f : β → Action Unit} {g : β → List Place} (h : ∀ x, Writes (f x) (g x))
    (xs : List β) : Writes (xs.forM f) (xs.flatMap g) := by
  induction xs with
  | nil => exact writes_pure ()
  | cons x xs ih => exact (h x).bind fun _ => ih

theorem onFileFault_eq_ok {a : Action α} {e : FileFault → Failure} {x : α}
    (h : (onFileFault e a).perform w = (.ok x, w')) : a.perform w = (.ok x, w') := by
  unfold onFileFault at h
  obtain ⟨r, w₁, h₁, h₂⟩ := perform_bind_eq_ok h
  rw [perform_attempt, Prod.mk.injEq] at h₁
  obtain ⟨hr, rfl⟩ := h₁
  obtain rfl := Except.ok.inj hr
  rcases hr : a.perform w with ⟨r, w₁⟩
  rw [hr] at h₂
  cases r with
  | ok y => exact h₂
  | error fault => cases fault <;> cases h₂

theorem Writes.onFileFault {a : Action α} {e : FileFault → Failure} (h : Writes a fs) :
    Writes (onFileFault e a) fs :=
  fun w x w' hp => h w x w' (onFileFault_eq_ok hp)

/-! ## Single changes -/

theorem changeFiles_eq_ok {change : FileTree → Except FileFault FileTree} {x : Unit}
    (h : (changeFiles p change).perform w = (.ok x, w')) :
    checkNames p = .ok () ∧ ∃ t, change w.files = .ok t ∧ w' = { w with files := t } := by
  obtain ⟨u, w₁, h₁, h₂⟩ := perform_bind_eq_ok h
  rw [perform_ofExcept, Prod.mk.injEq] at h₁
  obtain ⟨hnames, rfl⟩ := h₁
  rw [perform_bind_ok (perform_files w)] at h₂
  cases hc : change w.files with
  | error e => rw [hc] at h₂; cases h₂
  | ok t =>
      rw [hc] at h₂
      exact ⟨hnames, t, rfl, (Prod.mk.inj h₂).2.symm⟩

theorem writes_makeDirs (p : Place) : Writes (makeDirs p) [] := by
  intro w x w' h
  obtain ⟨-, t, ht, rfl⟩ := changeFiles_eq_ok h
  exact FileTree.extends_makeDirs ht

/-- A text that was written is in the file. -/
theorem writeText_eq_ok {text : Text} {x : Unit}
    (h : (writeText p text).perform w = (.ok x, w')) :
    Extends w.files w'.files [p] ∧ checkNames p = .ok () ∧
      ∃ bytes q, text.toUtf8? = some bytes ∧ w'.files.Holds p q bytes := by
  obtain ⟨u, w₁, h₁, h₂⟩ := perform_bind_eq_ok h
  obtain ⟨hnames, t, ht, rfl⟩ := changeFiles_eq_ok h₁
  cases hb : text.toUtf8? with
  | none => rw [hb] at h₂; cases h₂
  | some bytes =>
      rw [hb] at h₂
      obtain ⟨-, t', ht', rfl⟩ := changeFiles_eq_ok h₂
      obtain ⟨hfirst, -⟩ := FileTree.extends_write ht
      obtain ⟨hsecond, q, hq⟩ := FileTree.extends_write ht'
      exact ⟨(hfirst.trans hsecond).congr (by simp), hnames, bytes, q, rfl, hq⟩

theorem writes_writeText (p : Place) (text : Text) : Writes (writeText p text) [p] :=
  fun _ _ _ h => (writeText_eq_ok h).1

/-! ## Successes and failures alike -/

section Respects

variable {R : FileTree → FileTree → Prop} [IsPreorder FileTree R]

/-- Whether the action succeeds or fails, `R` relates the files before it to those after it. -/
def Respects (R : FileTree → FileTree → Prop) (a : Action α) : Prop :=
  ∀ w, R w.files (a.perform w).2.files

theorem respects_pure (x : α) : Respects R (pure x) := fun w => refl w.files

theorem respects_throw (e : Failure) : Respects R (throw e : Action α) := fun w => refl w.files

theorem Respects.bind {a : Action α} {f : α → Action β} (ha : Respects R a)
    (hf : ∀ x, Respects R (f x)) : Respects R (a >>= f) := by
  intro w
  have h := ha w
  rcases hr : a.perform w with ⟨r, w'⟩
  rw [hr] at h
  cases r with
  | error e =>
      rw [perform_bind_error hr]
      exact h
  | ok x =>
      rw [perform_bind_ok hr]
      exact IsTrans.trans _ _ _ h (hf x w')

theorem respects_forM {f : β → Action Unit} {xs : List β} (h : ∀ x ∈ xs, Respects R (f x)) :
    Respects R (xs.forM f) := by
  induction xs with
  | nil => exact respects_pure ()
  | cons x xs ih =>
      obtain ⟨hx, hxs⟩ := List.forall_mem_cons.1 h
      exact hx.bind fun _ => ih hxs

/-- A failure with another cause comes from the same workspace. -/
theorem perform_onFileFault_snd (e : FileFault → Failure) (a : Action α) (w : Workspace) :
    ((onFileFault e a).perform w).2 = (a.perform w).2 := by
  unfold onFileFault
  rw [perform_bind_ok (perform_attempt a w)]
  generalize (a.perform w).1 = r
  cases r with
  | ok x => rfl
  | error fault => cases fault <;> rfl

theorem perform_onFileFault_ok {a : Action α} {x : α} (e : FileFault → Failure)
    (h : a.perform w = (.ok x, w')) : (onFileFault e a).perform w = (.ok x, w') := by
  unfold onFileFault
  rw [perform_bind_ok (perform_attempt a w), h]
  rfl

omit [IsPreorder FileTree R] in
theorem Respects.onFileFault {a : Action α} {e : FileFault → Failure} (h : Respects R a) :
    Respects R (onFileFault e a) := by
  intro w
  rw [perform_onFileFault_snd]
  exact h w

/-- A change of the files fails and changes nothing, or it is made. -/
theorem changeFiles_cases (p : Place) (change : FileTree → Except FileFault FileTree)
    (w : Workspace) :
    (∃ e, (changeFiles p change).perform w = (.error e, w) ∧
      ((∃ fault, change w.files = .error fault) ∨ checkNames p ≠ .ok ())) ∨
    (∃ t, (changeFiles p change).perform w = (.ok (), { w with files := t }) ∧
      change w.files = .ok t) := by
  unfold changeFiles
  cases hnames : checkNames p with
  | error e => exact .inl ⟨e, rfl, .inr nofun⟩
  | ok u =>
      rw [perform_bind_ok (perform_ofExcept _ w), perform_bind_ok (perform_files w)]
      cases hc : change w.files with
      | error fault => exact .inl ⟨.file fault, rfl, .inl ⟨fault, rfl⟩⟩
      | ok t => exact .inr ⟨t, rfl, rfl⟩

theorem respects_changeFiles {change : FileTree → Except FileFault FileTree}
    (h : ∀ t t', change t = .ok t' → R t t') : Respects R (changeFiles p change) := by
  intro w
  obtain ⟨e, hw, -⟩ | ⟨t, hw, ht⟩ := changeFiles_cases p change w
  · rw [hw]
    exact refl w.files
  · rw [hw]
    exact h _ _ ht

theorem respects_writeText {text : Text}
    (h : ∀ t t' bytes, bytes = [] ∨ text.toUtf8? = some bytes → t.write p bytes = .ok t' → R t t') :
    Respects R (writeText p text) := by
  refine (respects_changeFiles fun t t' ht => h t t' [] (.inl rfl) ht).bind fun _ => ?_
  split
  · next bytes hb => exact respects_changeFiles fun t t' ht => h t t' bytes (.inr hb) ht
  · exact respects_throw _

end Respects

/-! ## What is written -/

variable {C : Bytes → Prop}

/-- Every file stays where it is, with the content it had or one that satisfies `C`. -/
abbrev Keeps (C : Bytes → Prop) (a : Action α) : Prop := Respects (FileTree.Stays C) a

theorem keeps_makeDirs (p : Place) : Keeps C (makeDirs p) :=
  respects_changeFiles fun _ _ h => (FileTree.extends_makeDirs h).stays

theorem keeps_writeText {text : Text} (hempty : C [])
    (htext : ∀ bytes, text.toUtf8? = some bytes → C bytes) : Keeps C (writeText p text) :=
  respects_writeText fun _ _ bytes hb h =>
    FileTree.stays_write h (hb.elim (fun he => he ▸ hempty) (htext bytes))

/-! ## Where it is written -/

theorem touches_makeDirs (p : Place) : Respects (FileTree.Touches fs) (makeDirs p) :=
  respects_changeFiles fun _ _ h => (FileTree.extends_makeDirs h).touches nofun

theorem touches_writeText (hp : p ∈ fs) (text : Text) :
    Respects (FileTree.Touches fs) (writeText p text) :=
  respects_writeText fun _ _ _ _ h =>
    (FileTree.extends_write h).1.touches fun _ hf => List.mem_singleton.1 hf ▸ hp

/-! ## What goes wrong -/

/-- Every failure of the action satisfies `P`. -/
def Faults (P : Failure → Prop) (a : Action α) : Prop := ∀ w, (a.perform w).1.Faults P

variable {P Q : Failure → Prop}

theorem faults_pure (x : α) : Faults P (pure x) := fun _ => Except.faults_ok x

theorem faults_throw {e : Failure} (h : P e) : Faults P (throw e : Action α) :=
  fun _ _ he => Except.error.inj he ▸ h

theorem Faults.mono {a : Action α} (h : Faults P a) (hPQ : ∀ e, P e → Q e) : Faults Q a :=
  fun w => (h w).mono hPQ

theorem Faults.bind {a : Action α} {f : α → Action β} (ha : Faults P a)
    (hf : ∀ x, Faults P (f x)) : Faults P (a >>= f) := by
  intro w
  rcases hr : a.perform w with ⟨r, w'⟩
  cases r with
  | error e =>
      rw [perform_bind_error hr]
      intro e' he
      obtain rfl := Except.error.inj he
      exact ha w e (by rw [hr])
  | ok x =>
      rw [perform_bind_ok hr]
      exact hf x w'

theorem faults_forM {f : β → Action Unit} {xs : List β} (h : ∀ x ∈ xs, Faults P (f x)) :
    Faults P (xs.forM f) := by
  induction xs with
  | nil => exact faults_pure ()
  | cons x xs ih =>
      obtain ⟨hx, hxs⟩ := List.forall_mem_cons.1 h
      exact hx.bind fun _ => ih hxs

/-- Faults of files become the failures that they are the causes of. -/
theorem Faults.onFileFault {a : Action α} {e : FileFault → Failure}
    (h : Faults (fun e => P e ∨ ∃ fault, e = .file fault) a) (he : ∀ fault, P (e fault)) :
    Faults P (onFileFault e a) := by
  intro w e' hfail
  unfold Action.onFileFault at hfail
  rw [perform_bind_ok (perform_attempt a w)] at hfail
  have hcause := h w
  generalize (a.perform w).1 = r at hfail hcause
  cases r with
  | ok x => cases hfail
  | error cause =>
      rcases hcause cause rfl with hP | ⟨fault, rfl⟩
      · cases cause with
        | file fault => exact Except.error.inj hfail ▸ he fault
        | _ => exact Except.error.inj hfail ▸ hP
      · exact Except.error.inj hfail ▸ he fault

/-- The failure is that a file cannot be written: the file system does not take it, or its text
cannot be printed or encoded. -/
def IsWriteFault : Failure → Prop
  | .store _ | .file _ | .data .unreadable | .data .notEncodable => True
  | _ => False

theorem faults_changeFiles (p : Place) (change : FileTree → Except FileFault FileTree) :
    Faults IsWriteFault (changeFiles p change) := by
  intro w e h
  unfold changeFiles at h
  cases hnames : checkNames p with
  | error fault =>
      rw [hnames] at h
      obtain rfl := Except.error.inj h
      unfold checkNames at hnames
      split_ifs at hnames <;> exact Except.error.inj hnames ▸ trivial
  | ok u =>
      rw [hnames, perform_bind_ok (perform_ofExcept _ w), perform_bind_ok (perform_files w)] at h
      cases hc : change w.files with
      | error fault =>
          rw [hc] at h
          exact Except.error.inj h ▸ trivial
      | ok t => rw [hc] at h; cases h

theorem faults_writeText (p : Place) (text : Text) : Faults IsWriteFault (writeText p text) := by
  refine (faults_changeFiles p _).bind fun _ => ?_
  split
  · exact faults_changeFiles p _
  · exact faults_throw trivial

end HelpCenter.Action

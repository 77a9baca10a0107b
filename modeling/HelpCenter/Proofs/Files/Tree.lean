import HelpCenter.Proofs.Files.Leads

/-!
# What changes to a file tree leave alone

`Holds t p q content` says that the path `p` leads to a file at `q`.  Making directories and
writing files keeps such a file where it is, and its content too unless it is written to: this is
`Extends`, which is stated in terms of where the written paths lead in the later tree.  Two other
relations say less, but can be followed through failures too: `Touches fs`, that only files that the
paths `fs` lead to get another content, and `Stays C`, that what is written satisfies `C`.  Removing
something leaves no file that was not there (`Shrinks`).
-/

namespace HelpCenter.FileTree

variable {t t' : FileTree} {p q r : Place} {e : Entry}

/-! ## Entries -/

theorem setIn_lookup_self (entries : List (Place × Entry)) :
    (setIn p e entries).lookup p = some e := by
  induction entries with
  | nil => simp [setIn]
  | cons entry rest ih =>
      obtain ⟨q, f⟩ := entry
      unfold setIn
      split
      · next h => simp [h]
      · next h => rw [List.lookup_cons, beq_false_of_ne (Ne.symm h), ih]

theorem setIn_lookup_of_ne (h : q ≠ p) (entries : List (Place × Entry)) :
    (setIn p e entries).lookup q = entries.lookup q := by
  induction entries with
  | nil => simp [setIn, h]
  | cons entry rest ih =>
      obtain ⟨p', f⟩ := entry
      unfold setIn
      split
      · next hp =>
        subst hp
        rw [List.lookup_cons, List.lookup_cons, beq_false_of_ne h]
      · rw [List.lookup_cons, List.lookup_cons, ih]

theorem entry?_set_self (hp : p ≠ []) : entry? (t.set p e) p = some e := by
  unfold entry? set
  rw [if_neg (by simpa using hp), setIn_lookup_self]

theorem entry?_set_of_ne (h : q ≠ p) : entry? (t.set p e) q = t.entry? q := by
  unfold entry? set
  rw [setIn_lookup_of_ne h]

/-! ## Walks -/

/-- There is at most a file at a place. -/
def IsFree (t : FileTree) (q : Place) : Prop := ∀ old, t.entry? q = some old → ∃ c, old = .file c

theorem isFree_of_none (h : t.entry? q = none) : t.IsFree q := by
  intro old hold
  rw [h] at hold
  cases hold

theorem IsFree.ne_nil (h : t.IsFree q) : q ≠ [] := by
  rintro rfl
  obtain ⟨c, hc⟩ := h .dir entry?_nil
  cases hc

/-- Walks go where they went after a file or a directory is put where there was at most a file. -/
theorem locate_set (hq : t.IsFree q) (he : ∀ target, e ≠ .link target) (h : t.locate p = .ok r) :
    (t.set q e).locate p = .ok r := by
  refine locate_eq_ok_iff.2 ((locate_eq_ok_iff.1 h).of_keeps (fun {p' f} hp hf => ?_) ?_)
  · rw [entry?_set_of_ne, hp]
    rintro rfl
    obtain ⟨c, hc⟩ := hq f hp
    exact hf c hc
  · intro hend target hnew
    by_cases hr : r = q
    · subst hr
      rw [entry?_set_self hq.ne_nil] at hnew
      exact he target (Option.some.inj hnew)
    · rw [entry?_set_of_ne hr] at hnew
      exact locate_ne_link h target hnew

/-! ## Files that stay -/

/-- The path `p` leads to a file at `q` with this content. -/
structure Holds (t : FileTree) (p q : Place) (content : Bytes) : Prop where
  locate : t.locate p = .ok q
  entry : t.entry? q = some (.file content)

theorem stat_eq_ok_iff : t.stat p = .ok e ↔ ∃ q, t.locate p = .ok q ∧ t.entry? q = some e := by
  unfold stat
  rw [Except.bind_eq_ok_iff]
  refine exists_congr fun q => and_congr_right fun _ => ?_
  cases t.entry? q with
  | none => exact iff_of_false nofun nofun
  | some e' => exact ⟨fun h => congrArg some (Except.ok.inj h), fun h => congrArg _ (Option.some.inj h)⟩

theorem isFile_iff : t.isFile p = true ↔ ∃ q content, t.Holds p q content := by
  have hstat : t.isFile p = true ↔ ∃ content, t.stat p = .ok (.file content) := by
    unfold isFile
    split
    · next content h => exact iff_of_true rfl ⟨content, h⟩
    · next hne => exact iff_of_false nofun fun ⟨content, h⟩ => hne content h
  rw [hstat, exists_comm]
  refine exists_congr fun content => stat_eq_ok_iff.trans (exists_congr fun q => ?_)
  exact ⟨fun ⟨hq, he⟩ => ⟨hq, he⟩, fun h => ⟨h.locate, h.entry⟩⟩

theorem isDir_iff : t.isDir p = true ↔ ∃ q, t.locate p = .ok q ∧ t.entry? q = some .dir := by
  rw [← stat_eq_ok_iff]
  unfold isDir
  split
  · next h => exact iff_of_true rfl h
  · next hne => exact iff_of_false nofun hne

theorem exists_iff : t.exists_ p = true ↔ ∃ q e, t.locate p = .ok q ∧ t.entry? q = some e := by
  rw [exists_comm]
  simp only [← stat_eq_ok_iff]
  unfold exists_
  cases t.stat p <;> simp [Except.toOption]

theorem read_eq_ok_iff {content : Bytes} :
    t.read p = .ok content ↔ ∃ q, t.Holds p q content := by
  unfold read
  rw [Except.bind_eq_ok_iff]
  constructor
  · rintro ⟨e, he, h⟩
    obtain ⟨q, hq, hentry⟩ := stat_eq_ok_iff.1 he
    cases e with
    | file c => exact ⟨q, hq, Except.ok.inj h ▸ hentry⟩
    | dir => cases h
    | link target => cases h
  · rintro ⟨q, hq⟩
    exact ⟨_, stat_eq_ok_iff.2 ⟨q, hq.locate, hq.entry⟩, rfl⟩

/-- What stays as it was, or becomes a directory where there was nothing, does so in two steps. -/
theorem same_or_dir_trans {old mid new : Option Entry}
    (h : mid = old ∨ (old = none ∧ mid = some .dir))
    (h' : new = mid ∨ (mid = none ∧ new = some .dir)) :
    new = old ∨ (old = none ∧ new = some .dir) := by
  rcases h' with rfl | ⟨rfl, rfl⟩
  · exact h
  · rcases h with rfl | ⟨-, hdir⟩
    · exact .inr ⟨rfl, rfl⟩
    · cases hdir

/-- The files of a tree stay in a later one, where the paths `written` lead to files; only these
may have another content.  There may be new directories, and the other entries stay. -/
structure Extends (t t' : FileTree) (written : List Place) : Prop where
  keeps : ∀ {p q c}, t.Holds p q c →
    ∃ c', t'.Holds p q c' ∧ ((∀ f ∈ written, t'.locate f ≠ .ok q) → c' = c)
  holds : ∀ f ∈ written, ∃ q c, t'.Holds f q c
  others : ∀ {q}, (∀ f ∈ written, t'.locate f ≠ .ok q) →
    t'.entry? q = t.entry? q ∨ (t.entry? q = none ∧ t'.entry? q = some .dir)
  fixed : ∀ {q e}, t.entry? q = some e → (∀ c, e ≠ .file c) → t'.entry? q = some e

theorem extends_refl (t : FileTree) : Extends t t [] where
  keeps h := ⟨_, h, fun _ => rfl⟩
  holds _ h := nomatch h
  others _ := .inl rfl
  fixed h _ := h

variable {t'' : FileTree} {fs gs : List Place} {content : Bytes}

/-- A written path leads to the same place ever after. -/
theorem Extends.locate_eq (h : Extends t' t'' gs) (hp : t'.Holds p q content) :
    t''.locate p = t'.locate p := by
  obtain ⟨c, hc, -⟩ := h.keeps hp
  rw [hc.locate, hp.locate]

theorem Extends.trans (h : Extends t t' fs) (h' : Extends t' t'' gs) :
    Extends t t'' (fs ++ gs) where
  keeps {p q c} hp := by
    obtain ⟨c₁, hc₁, h₁⟩ := h.keeps hp
    obtain ⟨c₂, hc₂, h₂⟩ := h'.keeps hc₁
    refine ⟨c₂, hc₂, fun hne => ?_⟩
    rw [List.forall_mem_append] at hne
    rw [h₂ hne.2]
    refine h₁ fun f hf => ?_
    obtain ⟨q', c', hc'⟩ := h.holds f hf
    rw [← h'.locate_eq hc']
    exact hne.1 f hf
  holds f hf := by
    rcases List.mem_append.1 hf with hf | hf
    · obtain ⟨q, c, hc⟩ := h.holds f hf
      obtain ⟨c', hc', -⟩ := h'.keeps hc
      exact ⟨q, c', hc'⟩
    · exact h'.holds f hf
  others {q} hne := by
    rw [List.forall_mem_append] at hne
    have hfirst : ∀ f ∈ fs, t'.locate f ≠ .ok q := fun f hf => by
      obtain ⟨q', c', hc'⟩ := h.holds f hf
      rw [← h'.locate_eq hc']
      exact hne.1 f hf
    exact same_or_dir_trans (h.others hfirst) (h'.others hne.2)
  fixed hq he := h'.fixed (h.fixed hq he) he

theorem Extends.congr (h : Extends t t' fs) (hfs : ∀ f, f ∈ fs ↔ f ∈ gs) : Extends t t' gs where
  keeps hp := by
    obtain ⟨c', hc', hsame⟩ := h.keeps hp
    exact ⟨c', hc', fun hne => hsame fun f hf => hne f ((hfs f).1 hf)⟩
  holds f hf := h.holds f ((hfs f).2 hf)
  others hne := h.others fun f hf => hne f ((hfs f).1 hf)
  fixed := h.fixed

/-- Every file stays where it is, with its content unless one of the paths `written` leads to it. -/
def Touches (written : List Place) (t t' : FileTree) : Prop :=
  ∀ p q c, t.Holds p q c →
    ∃ c', t'.Holds p q c' ∧ ((∀ f ∈ written, t'.locate f ≠ .ok q) → c' = c)

theorem Touches.trans (h : Touches fs t t') (h' : Touches fs t' t'') : Touches fs t t'' := by
  intro p q c hp
  obtain ⟨c₁, hc₁, h₁⟩ := h p q c hp
  obtain ⟨c₂, hc₂, h₂⟩ := h' p q c₁ hc₁
  refine ⟨c₂, hc₂, fun hne => ?_⟩
  rw [h₂ hne]
  refine h₁ fun f hf hfq => hne f hf ?_
  -- what leads to a file leads there ever after
  obtain ⟨c', hc', -⟩ := h' f q c₁ ⟨hfq, hc₁.entry⟩
  exact hc'.locate

theorem Touches.mono (h : Touches fs t t') (hfs : ∀ f ∈ fs, f ∈ gs) : Touches gs t t' := by
  intro p q c hp
  obtain ⟨c', hc', hsame⟩ := h p q c hp
  exact ⟨c', hc', fun hne => hsame fun f hf => hne f (hfs f hf)⟩

instance (fs : List Place) : IsPreorder FileTree (Touches fs) where
  refl _ _ _ c h := ⟨c, h, fun _ => rfl⟩
  trans _ _ _ := Touches.trans

theorem Extends.touches (h : Extends t t' fs) (hfs : ∀ f ∈ fs, f ∈ gs) : Touches gs t t' := by
  intro p q c hc
  obtain ⟨c', hc', hsame⟩ := h.keeps hc
  exact ⟨c', hc', fun hne => hsame fun f hf => hne f (hfs f hf)⟩

/-! ## Writing and making directories -/

theorem write_eq_ok (h : t.write p content = .ok t') :
    ∃ q, t.locate p = .ok q ∧ t.IsFree q ∧ t' = t.set q (.file content) := by
  obtain ⟨q, hq, h⟩ := Except.bind_eq_ok_iff.1 h
  cases hentry : t.entry? q with
  | none =>
      rw [hentry] at h
      exact ⟨q, hq, isFree_of_none hentry, (Except.ok.inj h).symm⟩
  | some entry =>
      rw [hentry] at h
      cases entry with
      | dir => cases h
      | link target => exact absurd hentry (locate_ne_link hq target)
      | file c =>
          refine ⟨q, hq, fun old hold => ⟨c, ?_⟩, (Except.ok.inj h).symm⟩
          exact Option.some.inj (hold.symm.trans hentry)

theorem extends_write (h : t.write p content = .ok t') :
    Extends t t' [p] ∧ ∃ q, t'.Holds p q content := by
  obtain ⟨q, hq, hfree, rfl⟩ := write_eq_ok h
  have hp : (t.set q (.file content)).Holds p q content :=
    ⟨locate_set hfree nofun hq, entry?_set_self hfree.ne_nil⟩
  refine ⟨⟨fun {p' q' c} hc => ?_, fun f hf => ?_, fun {q'} hne => ?_, fun {q' e} he hfile => ?_⟩,
    q, hp⟩
  · have hlocate := locate_set (e := .file content) hfree nofun hc.locate
    by_cases hqq : q' = q
    · subst hqq
      exact ⟨content, ⟨hlocate, hp.entry⟩,
        fun hne => absurd hp.locate (hne p (List.mem_singleton_self p))⟩
    · exact ⟨c, ⟨hlocate, (entry?_set_of_ne hqq).trans hc.entry⟩, fun _ => rfl⟩
  · rw [List.mem_singleton.1 hf]
    exact ⟨q, content, hp⟩
  · refine .inl (entry?_set_of_ne ?_)
    rintro rfl
    exact hne p (List.mem_singleton_self p) hp.locate
  · refine (entry?_set_of_ne ?_).trans he
    rintro rfl
    obtain ⟨c, hc⟩ := hfree e he
    exact hfile c hc

theorem extends_makeDir (h : t.makeDir p = .ok t') : Extends t t' [] := by
  obtain ⟨q, hq, h⟩ := Except.bind_eq_ok_iff.1 h
  cases hentry : t.entry? q with
  | some entry => rw [hentry] at h; cases h
  | none =>
      rw [hentry] at h
      obtain rfl : t.set q .dir = t' := Except.ok.inj h
      have hfree := isFree_of_none hentry
      have hne {q' : Place} {e : Entry} (he : t.entry? q' = some e) : q' ≠ q := by
        rintro rfl
        rw [he] at hentry
        cases hentry
      refine ⟨fun {p' q' c} hc => ?_, nofun, fun {q'} _ => ?_, fun {q' e} he _ => ?_⟩
      · exact ⟨c, ⟨locate_set hfree nofun hc.locate, (entry?_set_of_ne (hne hc.entry)).trans hc.entry⟩,
          fun _ => rfl⟩
      · by_cases hqq : q' = q
        · subst hqq
          exact .inr ⟨hentry, entry?_set_self hfree.ne_nil⟩
        · exact .inl (entry?_set_of_ne hqq)
      · exact (entry?_set_of_ne (hne he)).trans he

theorem extends_makeDirsTo {names : List Text} :
    ∀ {t : FileTree} {made : Place}, t.makeDirsTo made names = .ok t' → Extends t t' [] := by
  induction names with
  | nil =>
      intro t made h
      obtain rfl : t = t' := Except.ok.inj h
      exact extends_refl t
  | cons name rest ih =>
      intro t made h
      unfold makeDirsTo at h
      dsimp only at h
      split at h
      · next t₁ ht₁ => exact (extends_makeDir ht₁).trans (ih h)
      · split at h
        · exact ih h
        · split at h <;> cases h
      · cases h

theorem extends_makeDirs (h : t.makeDirs p = .ok t') : Extends t t' [] := extends_makeDirsTo h

/-- Every entry is as it was, except that there may be directories where there was nothing. -/
def AddsDirs (t t' : FileTree) : Prop :=
  ∀ p, t'.entry? p = t.entry? p ∨ (t.entry? p = none ∧ t'.entry? p = some .dir)

instance : IsPreorder FileTree AddsDirs where
  refl _ _ := .inl rfl
  trans _ _ _ h h' p := same_or_dir_trans (h p) (h' p)

theorem addsDirs_makeDirs (h : t.makeDirs p = .ok t') : AddsDirs t t' :=
  fun _ => (extends_makeDirs h).others nofun

/-! ## Contents that may change -/

/-- Every file stays where it is, with the content it had or one that satisfies `C`. -/
def Stays (C : Bytes → Prop) (t t' : FileTree) : Prop :=
  ∀ p q c, t.Holds p q c → ∃ c', t'.Holds p q c' ∧ (c' = c ∨ C c')

variable {C : Bytes → Prop}

theorem stays_refl (t : FileTree) : Stays C t t := fun _ _ c h => ⟨c, h, .inl rfl⟩

theorem Stays.trans (h : Stays C t t') (h' : Stays C t' t'') : Stays C t t'' := by
  intro p q c hc
  obtain ⟨c₁, hc₁, hsame⟩ := h p q c hc
  obtain ⟨c₂, hc₂, hsame'⟩ := h' p q c₁ hc₁
  refine ⟨c₂, hc₂, ?_⟩
  rcases hsame' with rfl | hC
  · exact hsame
  · exact .inr hC

instance : IsPreorder FileTree (Stays C) where
  refl := stays_refl
  trans _ _ _ := Stays.trans

theorem Extends.stays (h : Extends t t' []) : Stays C t t' := by
  intro p q c hc
  obtain ⟨c', hc', hsame⟩ := h.keeps hc
  exact ⟨c', hc', .inl (hsame nofun)⟩

theorem stays_write (h : t.write p content = .ok t') (hC : C content) : Stays C t t' := by
  intro p' q c hc
  obtain ⟨hext, q', hq'⟩ := extends_write h
  obtain ⟨c', hc', hsame⟩ := hext.keeps hc
  refine ⟨c', hc', ?_⟩
  by_cases hp : t'.locate p = .ok q
  · obtain rfl : q' = q := Except.ok.inj (hq'.locate.symm.trans hp)
    obtain rfl : content = c' := Entry.file.inj (Option.some.inj (hq'.entry.symm.trans hc'.entry))
    exact .inr hC
  · exact .inl (hsame fun f hf => by rwa [List.mem_singleton.1 hf])

/-! ## Removing files -/

theorem filter_lookup {entries : List (Place × Entry)}
    (h : (entries.filter fun x => x.1 ≠ q).lookup p = some e) : entries.lookup p = some e := by
  have hne : p ≠ q := by
    obtain ⟨l₁, l₂, hl, -⟩ := List.lookup_eq_some_iff.1 h
    have hmem : (p, e) ∈ entries.filter fun x => x.1 ≠ q :=
      hl ▸ List.mem_append_right _ (List.mem_cons_self ..)
    exact of_decide_eq_true (List.mem_filter.1 hmem).2
  induction entries with
  | nil => exact h
  | cons entry rest ih =>
      obtain ⟨k, f⟩ := entry
      rw [List.lookup_cons]
      by_cases hk : k = q
      · subst hk
        rw [beq_false_of_ne hne]
        exact ih (by simpa using h)
      · rw [List.filter_cons_of_pos (by simpa using hk), List.lookup_cons] at h
        split at h
        · exact h
        · exact ih h

theorem entry?_erase (h : entry? (t.erase q) p = some e) : t.entry? p = some e := by
  unfold entry? at *
  split at h
  · next hp => rwa [if_pos hp]
  · next hp => rw [if_neg hp]; exact filter_lookup h

/-- What is a file without the entry of `q` is that file with it too. -/
theorem Holds.of_erase {content : Bytes} (h : (t.erase q).Holds p r content) :
    t.Holds p r content where
  locate := by
    refine locate_eq_ok_iff.2 ((locate_eq_ok_iff.1 h.locate).of_keeps
      (fun hp _ => entry?_erase hp) fun _ target htarget => ?_)
    rw [entry?_erase h.entry] at htarget
    cases htarget
  entry := entry?_erase h.entry

theorem Holds.of_remove {content : Bytes} {f : Place} (h : t.remove p = .ok t')
    (hf : t'.Holds f r content) : t.Holds f r content := by
  obtain ⟨q, -, h⟩ := Except.bind_eq_ok_iff.1 h
  split at h
  · cases h
  · obtain rfl := Except.ok.inj h
    exact hf.of_erase
  · cases h

/-- Every file was there before, with this content. -/
def Shrinks (t t' : FileTree) : Prop := ∀ p q c, t'.Holds p q c → t.Holds p q c

instance : IsPreorder FileTree Shrinks where
  refl _ _ _ _ h := h
  trans _ _ _ h h' p q c hq := h p q c (h' p q c hq)

end HelpCenter.FileTree

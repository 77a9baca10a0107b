import HelpCenter.Proofs.Files.Tree

/-!
# Where paths lead

A walk along two paths, one after the other, comes by the place that the first leads to
(`Leads.of_append`), and where no link is on the way it goes on from there as the names say
(`Leads.eq_append_of_below`).  So what is removed below a directory without links is the file that
the path names (`drops_of_remove`).
-/

namespace HelpCenter.FileTree

variable {t : FileTree} {p q r at_ : Place} {name : Text} {names rest rel : List Text}
  {followLast : Bool} {links : ℕ}

/-! ## One path after another -/

/-- A walk along two paths comes by the place that the first leads to.  What holds at the top, above
and inside the directories where it holds, holds there. -/
theorem Leads.of_append_of {D : Place → Prop} (htop : D []) (hup : ∀ q, D q → D q.dropLast)
    (hinto : ∀ q name, D q → name ≠ lit ".." → ¬ isTooLong name = true →
      t.entry? (q ++ [name]) = some .dir → D (q ++ [name]))
    (h : t.Leads followLast links at_ names r) (hrel : rel ≠ []) :
    D at_ → ∀ {p : List Text}, names = p ++ rel → ∃ q links',
      t.Leads true links at_ p q ∧ D q ∧ links' ≤ links ∧ t.Leads followLast links' q rel r := by
  induction h with
  | stop links at_ =>
      intro _ p hp
      exact absurd (List.append_eq_nil_iff.1 hp.symm).2 hrel
  | up h ih =>
      intro hat p hp
      rcases List.cons_eq_append_iff.1 hp with ⟨rfl, rfl⟩ | ⟨p, rfl, rfl⟩
      · exact ⟨_, _, .stop .., hat, Nat.le_refl _, .up h⟩
      · obtain ⟨q, links', hq, hD, hle, hr⟩ := ih (hup _ hat) rfl
        exact ⟨q, links', .up hq, hD, hle, hr⟩
  | into hnotup hlong hentry h ih =>
      intro hat p hp
      rcases List.cons_eq_append_iff.1 hp with ⟨rfl, rfl⟩ | ⟨p, rfl, rfl⟩
      · exact ⟨_, _, .stop .., hat, Nat.le_refl _, .into hnotup hlong hentry h⟩
      · obtain ⟨q, links', hq, hD, hle, hr⟩ := ih (hinto _ _ hat hnotup hlong hentry) rfl
        exact ⟨q, links', .into hnotup hlong hentry hq, hD, hle, hr⟩
  | last links hnotup hlong hentry =>
      intro hat p hp
      rcases List.cons_eq_append_iff.1 hp with ⟨rfl, rfl⟩ | ⟨p, rfl, hnil⟩
      · exact ⟨_, _, .stop .., hat, Nat.le_refl _, .last links hnotup hlong hentry⟩
      · exact absurd (List.append_eq_nil_iff.1 hnil.symm).2 hrel
  | lastLink links hnotup hlong hlink hstay =>
      intro hat p hp
      rcases List.cons_eq_append_iff.1 hp with ⟨rfl, rfl⟩ | ⟨p, rfl, hnil⟩
      · exact ⟨_, _, .stop .., hat, Nat.le_refl _, .lastLink links hnotup hlong hlink hstay⟩
      · exact absurd (List.append_eq_nil_iff.1 hnil.symm).2 hrel
  | @follow links at_ r name target rest hnotup hlong hlink hfollow h ih =>
      intro hat p hp
      rcases List.cons_eq_append_iff.1 hp with ⟨rfl, rfl⟩ | ⟨p, rfl, rfl⟩
      · exact ⟨_, _, .stop .., hat, Nat.le_refl _, .follow hnotup hlong hlink hfollow h⟩
      · have hfrom : D (if (FilePath.ofText target).root.isEmpty then at_ else []) := by
          split
          · exact hat
          · exact htop
        obtain ⟨q, links', hq, hD, hle, hr⟩ := ih hfrom (List.append_assoc ..).symm
        exact ⟨q, links', .follow hnotup hlong hlink (fun _ => rfl) hq, hD, Nat.le_succ_of_le hle,
          hr⟩

theorem Leads.of_append (h : t.Leads followLast links at_ names r) (hrel : rel ≠ [])
    {p : List Text} (hp : names = p ++ rel) : ∃ q links',
      t.Leads true links at_ p q ∧ links' ≤ links ∧ t.Leads followLast links' q rel r := by
  obtain ⟨q, links', hq, -, hr⟩ := h.of_append_of (D := fun _ => True) trivial
    (fun _ _ => trivial) (fun _ _ _ _ _ _ => trivial) hrel trivial hp
  exact ⟨q, links', hq, hr⟩

/-- Nothing below a place is a link. -/
def NoLinksBelow (t : FileTree) (base : Place) : Prop :=
  ∀ rel ≠ [], ∀ target, t.entry? (base ++ rel) ≠ some (.link target)

theorem noLinksBelow_of_entries (h : ∀ e ∈ t.entries, ∀ target, e.2 ≠ .link target)
    (base : Place) : t.NoLinksBelow base := by
  intro rel hrel target htarget
  unfold entry? at htarget
  rw [if_neg (by simp [hrel])] at htarget
  obtain ⟨before, after, hentries, -⟩ := List.lookup_eq_some_iff.1 htarget
  exact h (base ++ rel, .link target) (by simp [hentries]) target rfl

/-- Where names lead from a place when double dots take names of it back; nowhere if they lead above
the directory that the place is seen from. -/
def below? (at_ : Place) : List Text → Option Place
  | [] => some at_
  | name :: rest =>
    if name = lit ".." then if at_.isEmpty then none else below? at_.dropLast rest
    else below? (at_ ++ [name]) rest

theorem below?_append (names rest : List Text) (at_ : Place) :
    below? at_ (names ++ rest) = (below? at_ names).bind fun q => below? q rest := by
  induction names generalizing at_ with
  | nil => rfl
  | cons name names ih =>
      rw [List.cons_append, below?, below?]
      split
      · split
        · rfl
        · exact ih _
      · exact ih _

theorem below?_of_notMem {names : List Text} (h : lit ".." ∉ names) (at_ : Place) :
    below? at_ names = some (at_ ++ names) := by
  induction names generalizing at_ with
  | nil => rw [below?, List.append_nil]
  | cons name names ih =>
      rw [List.mem_cons, not_or] at h
      rw [below?, if_neg (Ne.symm h.1), ih h.2, List.append_assoc]
      rfl

/-- Where there are no links a walk goes where the names say. -/
theorem Leads.eq_append_of_below {base : Place} (hlinks : t.NoLinksBelow base)
    (h : t.Leads followLast links at_ names r) :
    ∀ {p : Place}, at_ = base ++ p → below? p names = some q → r = base ++ q := by
  induction h with
  | stop links at_ =>
      intro p hat hq
      rw [hat, Option.some.inj hq]
  | up h ih =>
      intro p hat hq
      rw [below?, if_pos rfl] at hq
      split at hq
      · cases hq
      · next hp =>
        rw [List.isEmpty_iff] at hp
        exact ih (by rw [hat, List.dropLast_append_of_ne_nil hp]) hq
  | into hup hlong hdir h ih =>
      intro p hat hq
      rw [below?, if_neg hup] at hq
      exact ih (by rw [hat, List.append_assoc]) hq
  | last links hup hlong hentry =>
      intro p hat hq
      rw [below?, if_neg hup] at hq
      rw [hat, ← Option.some.inj hq, List.append_assoc]
  | lastLink links hup hlong hlink hstay =>
      intro p hat hq
      rw [below?, if_neg hup] at hq
      rw [hat, ← Option.some.inj hq, List.append_assoc]
  | follow hup hlong hlink hfollow h ih =>
      intro p hat hq
      rw [hat, List.append_assoc] at hlink
      exact absurd hlink (hlinks _ (by simp) _)

/-- A path below a directory without links leads to the place below it that it names. -/
theorem eq_append_of_walk_of_below {base : Place} (hbase : ∀ q, t.locate p = .ok q → q = base)
    (hlinks : t.NoLinksBelow base) (hq : below? [] rel = some q) (hne : q ≠ [])
    (h : t.walk followLast (t.walkFuel (p ++ rel)) maxLinks [] (p ++ rel) = .ok r) :
    r = base ++ q := by
  have hrel : rel ≠ [] := by
    rintro rfl
    exact hne (Option.some.inj hq).symm
  obtain ⟨b, links, hb, -, hr⟩ := (walk_eq_ok_iff.1 h).of_append hrel rfl
  obtain rfl := hbase b (locate_eq_ok_iff.2 hb)
  exact hr.eq_append_of_below hlinks (List.append_nil _).symm hq

theorem eq_append_of_walk {base : Place} (hbase : ∀ q, t.locate p = .ok q → q = base)
    (hlinks : t.NoLinksBelow base) (hrel : rel ≠ []) (hup : lit ".." ∉ rel)
    (h : t.walk followLast (t.walkFuel (p ++ rel)) maxLinks [] (p ++ rel) = .ok r) :
    r = base ++ rel :=
  eq_append_of_walk_of_below hbase hlinks (below?_of_notMem hup []) hrel h

/-! ## Later trees -/

/-- A walk goes where it went when there are more files and directories. -/
theorem Leads.of_extends {t' : FileTree} {fs : List Place} (h : Extends t t' fs)
    (hr : t.Leads followLast links at_ names r) : t'.Leads followLast links at_ names r := by
  refine hr.of_keeps h.fixed fun hend target htarget => ?_
  by_cases hwritten : ∃ f ∈ fs, t'.locate f = .ok r
  · obtain ⟨f, -, hfr⟩ := hwritten
    exact locate_ne_link hfr target htarget
  · rcases h.others fun f hf hfr => hwritten ⟨f, hf, hfr⟩ with hsame | ⟨-, hdir⟩
    · rw [htarget] at hsame
      rcases hend with hnone | ⟨c, hfile⟩
      · rw [hnone] at hsame; cases hsame
      · rw [hfile] at hsame; cases hsame
    · rw [htarget] at hdir
      cases hdir

theorem Extends.locate {t' : FileTree} {fs : List Place} (h : Extends t t' fs)
    (hp : t.locate p = .ok r) : t'.locate p = .ok r :=
  locate_eq_ok_iff.2 ((locate_eq_ok_iff.1 hp).of_extends h)

theorem Extends.noLinksBelow {t' : FileTree} {fs : List Place} {base : Place}
    (h : Extends t t' fs) (hlinks : t.NoLinksBelow base) : t'.NoLinksBelow base := by
  intro rel hrel target htarget
  by_cases hwritten : ∃ f ∈ fs, t'.locate f = .ok (base ++ rel)
  · obtain ⟨f, hf, hfq⟩ := hwritten
    exact locate_ne_link hfq target htarget
  · rcases h.others fun f hf hfq => hwritten ⟨f, hf, hfq⟩ with hsame | ⟨-, hdir⟩
    · exact hlinks rel hrel target (hsame.symm.trans htarget)
    · rw [htarget] at hdir
      cases hdir

/-! ## Removing files -/

theorem remove_eq_ok {t' : FileTree} (h : t.remove p = .ok t') :
    ∃ r e, t.walk false (t.walkFuel p) maxLinks [] p = .ok r ∧ t.entry? r = some e ∧ e ≠ .dir ∧
      t' = t.erase r := by
  obtain ⟨r, hr, h⟩ := Except.bind_eq_ok_iff.1 h
  cases hentry : t.entry? r with
  | none => rw [hentry] at h; cases h
  | some e =>
      rw [hentry] at h
      cases e with
      | dir => cases h
      | file c => exact ⟨r, _, hr, hentry, nofun, (Except.ok.inj h).symm⟩
      | link target => exact ⟨r, _, hr, hentry, nofun, (Except.ok.inj h).symm⟩

theorem entry?_erase_self (hp : p ≠ []) : entry? (t.erase p) p = none := by
  unfold entry? erase
  rw [if_neg (by simpa using hp), List.lookup_eq_none_iff]
  intro entry hentry
  have hne : entry.1 ≠ p := of_decide_eq_true (List.mem_filter.1 hentry).2
  exact bne_iff_ne.2 hne.symm

theorem entry?_erase_of_ne (h : q ≠ p) : entry? (t.erase p) q = t.entry? q := by
  unfold entry? erase
  split
  · rfl
  · induction t.entries with
    | nil => rfl
    | cons entry rest ih =>
        obtain ⟨k, e⟩ := entry
        by_cases hk : k = p
        · subst hk
          rw [List.filter_cons_of_neg (by simp), List.lookup_cons, beq_false_of_ne h, ih]
        · rw [List.filter_cons_of_pos (by simpa using hk), List.lookup_cons, List.lookup_cons, ih]

/-- A walk does not need a file, even if it ends there. -/
theorem Leads.erase {c : Bytes} (h : t.Leads followLast links at_ names r)
    (hp : t.entry? p = some (.file c)) : (t.erase p).Leads followLast links at_ names r := by
  refine h.of_keeps (fun {q e} hq he => ?_) fun hend target htarget => ?_
  · rw [entry?_erase_of_ne, hq]
    rintro rfl
    exact he c (Option.some.inj (hq.symm.trans hp))
  · have hlink := entry?_erase htarget
    rcases hend with hnone | ⟨d, hfile⟩
    · rw [hnone] at hlink; cases hlink
    · rw [hfile] at hlink; cases hlink

/-- The other files stay when one is removed. -/
theorem Holds.erase {c c' : Bytes} (h : t.Holds p q c) (hr : t.entry? r = some (.file c'))
    (hne : q ≠ r) : (t.erase r).Holds p q c where
  locate := locate_eq_ok_iff.2 ((locate_eq_ok_iff.1 h.locate).erase hr)
  entry := (entry?_erase_of_ne hne).trans h.entry

/-- What removing a path does that leads, if to a file, to the one at a place: the file is erased
if there is one. -/
inductive Drops (t : FileTree) (p q : Place) : FileTree → Prop
  | kept (h : ∀ c, ¬ t.Holds p q c) : Drops t p q t
  | erased {c : Bytes} (h : t.entry? q = some (.file c)) : Drops t p q (t.erase q)

section Drops

variable {t' : FileTree} {p' q' : Place} {c : Bytes}

theorem Drops.holds (h : t.Drops p q t') (hr : t.Holds p' q' c) (hne : q' ≠ q) :
    t'.Holds p' q' c := by
  cases h with
  | kept => exact hr
  | erased hq => exact hr.erase hq hne

theorem Drops.locate (h : t.Drops p q t') (hr : t.locate p' = .ok q') : t'.locate p' = .ok q' := by
  cases h with
  | kept => exact hr
  | erased hq => exact locate_eq_ok_iff.2 ((locate_eq_ok_iff.1 hr).erase hq)

theorem Drops.entry {e : Entry} (h : t.Drops p q t') (he : t'.entry? r = some e) :
    t.entry? r = some e := by
  cases h with
  | kept => exact he
  | erased => exact entry?_erase he

theorem Drops.entry_eq_none (h : t.Drops p q t') (hq : t.Holds p q c) : t'.entry? q = none := by
  cases h with
  | kept hnot => exact absurd hq (hnot c)
  | erased hfile =>
      refine entry?_erase_self ?_
      rintro rfl
      cases hfile

theorem Drops.noLinksBelow {base : Place} (h : t.Drops p q t') (hlinks : t.NoLinksBelow base) :
    t'.NoLinksBelow base :=
  fun rel hrel target htarget => hlinks rel hrel target (h.entry htarget)

/-- Removing a path below a directory without links. -/
theorem drops_of_remove {base : Place} (hbase : ∀ q, t.locate p = .ok q → q = base)
    (hlinks : t.NoLinksBelow base) (hq : below? [] rel = some q) (hne : q ≠ [])
    (h : t.remove (p ++ rel) = .ok t' ∨ t.remove (p ++ rel) = .error .missing ∧ t' = t) :
    t.Drops (p ++ rel) (base ++ q) t' := by
  rcases h with h | ⟨hmissing, rfl⟩
  · obtain ⟨r, e, hr, he, hdir, rfl⟩ := remove_eq_ok h
    obtain rfl := eq_append_of_walk_of_below hbase hlinks hq hne hr
    cases e with
    | dir => exact absurd rfl hdir
    | file c => exact .erased he
    | link target => exact absurd he (hlinks q hne target)
  · refine .kept fun c hc => ?_
    obtain ⟨r, hr⟩ := (locate_eq_ok_iff.1 hc.locate).exists_stay
    have hwalk := walk_eq_ok_iff.2 hr
    obtain rfl := eq_append_of_walk_of_below hbase hlinks hq hne hwalk
    unfold remove at hmissing
    rw [hwalk] at hmissing
    simp only [bind, Except.bind, hc.entry] at hmissing
    cases hmissing

end Drops

/-! ## One place -/

/-- Nothing changes but what is at the place `q` and that directories may be made where there was
nothing; the other files stay where paths lead to. -/
structure ChangesOnly (q : Place) (t t' : FileTree) : Prop where
  entries : ∀ r ≠ q, t'.entry? r = t.entry? r ∨ (t.entry? r = none ∧ t'.entry? r = some .dir)
  holds : ∀ {p r c}, r ≠ q → t.Holds p r c → t'.Holds p r c

theorem changesOnly_refl (q : Place) (t : FileTree) : ChangesOnly q t t :=
  ⟨fun _ _ => .inl rfl, fun _ h => h⟩

theorem ChangesOnly.trans {t' t'' : FileTree} (h : ChangesOnly q t t')
    (h' : ChangesOnly q t' t'') : ChangesOnly q t t'' :=
  ⟨fun r hr => same_or_dir_trans (h.entries r hr) (h'.entries r hr),
    fun hr hc => h'.holds hr (h.holds hr hc)⟩

theorem Extends.changesOnly {t' : FileTree} {fs : List Place} (h : Extends t t' fs)
    (hfs : ∀ f ∈ fs, ∀ r, t'.locate f = .ok r → r = q) : ChangesOnly q t t' := by
  have hother {r : Place} (hr : r ≠ q) : ∀ f ∈ fs, t'.locate f ≠ .ok r :=
    fun f hf hfr => hr (hfs f hf r hfr)
  refine ⟨fun r hr => h.others (hother hr), fun hr hc => ?_⟩
  obtain ⟨c', hc', hsame⟩ := h.keeps hc
  rwa [← hsame (hother hr)]

theorem Drops.changesOnly {t' : FileTree} (h : t.Drops p q t') : ChangesOnly q t t' where
  entries r hr := by
    cases h with
    | kept => exact .inl rfl
    | erased => exact .inl (entry?_erase_of_ne hr)
  holds hr hc := h.holds hc hr

end HelpCenter.FileTree

import HelpCenter.Proofs.Files.Walk
import Mathlib.Data.List.Induction
import Mathlib.Data.List.Nodup

/-!
# Proper trees

A proper tree is one that a file system can hold: each place is listed once, under names that files
can have, and stands in a directory.  Its directories list just what stands in them
(`mem_children_iff`), and a path through directories leads straight on (`leads_append`).  So files,
and links that lead to no directory, are on the way to nothing else: without them every path leads to
the directory that it led to (`isDir_without`).
-/

namespace HelpCenter.FileTree

/-- A name that a file can have. -/
structure IsName (name : Text) : Prop where
  ne_nil : name ≠ []
  ne_here : name ≠ lit "."
  ne_up : name ≠ lit ".."
  slash : ('/' : CodePoint) ∉ name
  length : isTooLong name = false

instance (name : Text) : Decidable (IsName name) :=
  decidable_of_iff
    (name ≠ [] ∧ name ≠ lit "." ∧ name ≠ lit ".." ∧ ('/' : CodePoint) ∉ name ∧
      isTooLong name = false)
    ⟨fun ⟨h, h', h'', hslash, hlength⟩ => ⟨h, h', h'', hslash, hlength⟩,
      fun ⟨h, h', h'', hslash, hlength⟩ => ⟨h, h', h'', hslash, hlength⟩⟩

/-- A tree that a file system can hold. -/
structure IsProper (t : FileTree) : Prop where
  once : (t.entries.map Prod.fst).Nodup
  names : ∀ place ∈ t.entries.map Prod.fst, ∀ name ∈ place, IsName name
  parents : ∀ place ∈ t.entries.map Prod.fst, t.entry? place.dropLast = some .dir

instance (t : FileTree) : Decidable t.IsProper :=
  decidable_of_iff
    ((t.entries.map Prod.fst).Nodup ∧
      (∀ place ∈ t.entries.map Prod.fst, ∀ name ∈ place, IsName name) ∧
      ∀ place ∈ t.entries.map Prod.fst, t.entry? place.dropLast = some .dir)
    ⟨fun ⟨h, h', h''⟩ => ⟨h, h', h''⟩, fun ⟨h, h', h''⟩ => ⟨h, h', h''⟩⟩

variable {t : FileTree} {p : Place} {e : Entry} {name : Text}

theorem mem_places_of_entry (h : t.entry? p = some e) (hp : p ≠ []) : (p, e) ∈ t.entries := by
  unfold entry? at h
  rw [if_neg (by simpa using hp)] at h
  obtain ⟨before, after, hentries, -⟩ := List.lookup_eq_some_iff.1 h
  simp [hentries]

theorem entry?_of_mem {entries : List (Place × Entry)} (hnodup : (entries.map Prod.fst).Nodup)
    (h : (p, e) ∈ entries) : entries.lookup p = some e := by
  induction entries with
  | nil => cases h
  | cons head rest ih =>
      obtain ⟨q, f⟩ := head
      rw [List.map_cons, List.nodup_cons] at hnodup
      rw [List.lookup_cons]
      rcases List.mem_cons.1 h with heq | hrest
      · obtain ⟨rfl, rfl⟩ := Prod.mk.inj heq
        simp
      · have hne : p ≠ q := by
          rintro rfl
          exact hnodup.1 (List.mem_map.2 ⟨(p, e), hrest, rfl⟩)
        rw [beq_false_of_ne hne]
        exact ih hnodup.2 hrest

theorem IsProper.entry?_eq_some_iff (h : t.IsProper) (hp : p ≠ []) :
    t.entry? p = some e ↔ (p, e) ∈ t.entries := by
  refine ⟨fun he => mem_places_of_entry he hp, fun he => ?_⟩
  unfold entry?
  rw [if_neg (by simpa using hp)]
  exact entry?_of_mem h.once he

/-- What a place adds to the listing of a directory. -/
def listed (p : Place) (f : Place × Entry) : Option (Text × Entry) :=
  f.1.getLast?.bind fun name => if f.1.dropLast = p then some (name, f.2) else none

theorem children_eq (t : FileTree) (p : Place) : t.children p = t.entries.filterMap (listed p) := by
  unfold children listed
  congr 1
  funext ⟨q, f⟩
  dsimp only
  cases q.getLast? <;> rfl

theorem listed_eq_some_iff {f : Place × Entry} :
    listed p f = some (name, e) ↔ f = (p ++ [name], e) := by
  obtain ⟨q, f⟩ := f
  simp only [listed, Option.bind_eq_some_iff, Option.ite_none_right_eq_some, Option.some.injEq,
    Prod.mk.injEq]
  constructor
  · rintro ⟨last, hlast, rfl, rfl, rfl⟩
    exact ⟨(List.dropLast_append_getLast? last hlast).symm, rfl⟩
  · rintro ⟨rfl, rfl⟩
    exact ⟨name, List.getLast?_concat, List.dropLast_concat, rfl, rfl⟩

/-- A directory lists what stands in it. -/
theorem IsProper.mem_children_iff (h : t.IsProper) :
    (name, e) ∈ t.children p ↔ t.entry? (p ++ [name]) = some e := by
  simp only [h.entry?_eq_some_iff (List.concat_ne_nil _ _), children_eq, List.mem_filterMap,
    listed_eq_some_iff, exists_eq_right]

theorem IsProper.nodup_children (h : t.IsProper) (p : Place) : (t.children p).Nodup := by
  rw [children_eq]
  refine List.Nodup.filterMap (fun f f' ⟨name, e⟩ hf hf' => ?_) (List.Nodup.of_map Prod.fst h.once)
  exact (listed_eq_some_iff.1 hf).trans (listed_eq_some_iff.1 hf').symm

theorem IsProper.isName (h : t.IsProper) (he : t.entry? p = some e) (hname : name ∈ p) :
    IsName name := by
  have hp : p ≠ [] := List.ne_nil_of_mem hname
  exact h.names p (List.mem_map_of_mem (f := Prod.fst) (mem_places_of_entry he hp)) name hname

/-- What stands somewhere stands in a directory. -/
theorem IsProper.entry?_dropLast (h : t.IsProper) (he : t.entry? p = some e) :
    t.entry? p.dropLast = some .dir := by
  by_cases hp : p = []
  · subst hp
    rfl
  · exact h.parents p (List.mem_map_of_mem (f := Prod.fst) (mem_places_of_entry he hp))

/-- What is around a directory is one. -/
theorem IsProper.entry?_of_append (h : t.IsProper) {rel : List Text}
    (hdir : t.entry? (p ++ rel) = some .dir) : t.entry? p = some .dir := by
  induction rel using List.reverseRecOn with
  | nil => simpa using hdir
  | append_singleton rel name ih =>
      have hparent := h.entry?_dropLast hdir
      rw [← List.append_assoc, List.dropLast_concat] at hparent
      exact ih hparent

/-! ## Straight ways -/

variable {at_ q r : Place} {names rest : List Text} {followLast : Bool} {links : ℕ}

/-- A walk along directories goes straight on to what follows. -/
theorem IsProper.leads_append (h : t.IsProper) (hdir : t.entry? (at_ ++ names) = some .dir)
    (hr : t.Leads followLast links (at_ ++ names) rest r) :
    t.Leads followLast links at_ (names ++ rest) r := by
  induction names generalizing at_ with
  | nil => simpa using hr
  | cons name names ih =>
      have hname : IsName name := h.isName hdir (by simp)
      have hhere : t.entry? (at_ ++ [name]) = some .dir := by
        have hbelow : t.entry? ((at_ ++ [name]) ++ names) = some .dir := by simpa using hdir
        exact h.entry?_of_append hbelow
      refine .into hname.ne_up (by simp [hname.length]) hhere (ih ?_ ?_)
      · simpa using hdir
      · simpa using hr

/-- A path to a file through directories leads there. -/
theorem IsProper.holds (h : t.IsProper) {content : Bytes} (hp : t.entry? p = some (.file content)) :
    t.Holds p p content := by
  refine ⟨locate_eq_ok_iff.2 ?_, hp⟩
  rcases List.eq_nil_or_concat p with rfl | ⟨dir, name, rfl⟩
  · cases hp
  · rw [List.concat_eq_append] at hp ⊢
    have hname : IsName name := h.isName hp (by simp)
    have hdir : t.entry? ([] ++ dir) = some .dir := by simpa using h.entry?_dropLast hp
    exact h.leads_append hdir (.last _ hname.ne_up (by simp [hname.length]) (.inr ⟨content, hp⟩))

/-- What a walk to a directory goes through leads to one. -/
theorem IsProper.isDir_of_leads (h : t.IsProper) (hat : t.entry? at_ = some .dir)
    (hlinks : links ≤ maxLinks) (hr : t.Leads true links at_ (name :: rest) r)
    (hdir : t.entry? r = some .dir) : t.isDir (at_ ++ [name]) = true := by
  obtain ⟨q, hq, hqdir⟩ : ∃ q, t.Leads true links at_ [name] q ∧ t.entry? q = some .dir := by
    by_cases hrest : rest = []
    · subst hrest
      exact ⟨r, hr, hdir⟩
    · obtain ⟨q, _, hq, hqdir, -⟩ := hr.of_append_of (D := fun q => t.entry? q = some .dir) rfl
        (fun _ => h.entry?_dropLast) (fun _ _ _ _ _ => id) hrest hat (p := [name]) rfl
      exact ⟨q, hq, hqdir⟩
  refine isDir_iff.2 ⟨q, locate_eq_ok_iff.2 ?_, hqdir⟩
  exact h.leads_append hat (hq.mono hlinks)

/-! ## Without some of the files -/

/-- Whether a file stands at a place, or a link that leads to no directory. -/
def isLeaf (t : FileTree) (p : Place) : Bool :=
  match t.entry? p with
  | some (.file _) => true
  | some (.link _) => !t.isDir p
  | _ => false

/-- The tree without what stands at some places. -/
def without (t : FileTree) (gone : List Place) : FileTree :=
  ⟨t.entries.filter fun (p, _) => p ∉ gone⟩

variable {gone : List Place}

theorem isLeaf_of_file {content : Bytes} (h : t.entry? p = some (.file content)) :
    t.isLeaf p = true := by
  rw [isLeaf, h]

theorem isLeaf_of_link {target : Text} (h : t.entry? p = some (.link target)) :
    t.isLeaf p = !t.isDir p := by
  rw [isLeaf, h]

theorem exists_entry_of_isLeaf (h : t.isLeaf p = true) : ∃ e, t.entry? p = some e ∧ e ≠ .dir := by
  unfold isLeaf at h
  split at h
  · next c he => exact ⟨_, he, nofun⟩
  · next target he => exact ⟨_, he, nofun⟩
  · cases h

theorem lookup_without (entries : List (Place × Entry)) (p : Place) :
    (entries.filter fun (q, _) => decide (q ∉ gone)).lookup p =
      if p ∈ gone then none else entries.lookup p := by
  induction entries with
  | nil => simp
  | cons entry rest ih =>
      obtain ⟨q, e⟩ := entry
      by_cases hq : q ∈ gone
      · rw [List.filter_cons_of_neg (by simpa using hq), ih]
        split
        · rfl
        · next hp =>
          have hne : p ≠ q := by
            rintro rfl
            exact hp hq
          rw [List.lookup_cons, beq_false_of_ne hne]
      · rw [List.filter_cons_of_pos (by simpa using hq), List.lookup_cons, List.lookup_cons, ih]
        by_cases hpq : p = q
        · subst hpq
          simp [hq]
        · simp [beq_false_of_ne hpq]

theorem entry?_without (hp : p ≠ []) :
    entry? (t.without gone) p = if p ∈ gone then none else t.entry? p := by
  have hempty : ¬ p.isEmpty = true := by simpa using hp
  unfold entry?
  rw [if_neg hempty, if_neg hempty]
  exact lookup_without t.entries p

theorem entry?_of_without (h : entry? (t.without gone) p = some e) : t.entry? p = some e := by
  by_cases hp : p = []
  · subst hp
    exact h
  · rw [entry?_without hp] at h
    split at h
    · cases h
    · exact h

theorem entry?_without_of_notMem (h : p ∉ gone) : entry? (t.without gone) p = t.entry? p := by
  by_cases hp : p = []
  · subst hp
    rfl
  · rw [entry?_without hp, if_neg h]

/-- A walk that ends somewhere ends there too when there is more. -/
theorem Leads.of_without (h : (t.without gone).Leads followLast links at_ names r)
    (hr : entry? (t.without gone) r = some e) : t.Leads followLast links at_ names r := by
  induction h with
  | stop => exact .stop ..
  | up _ ih => exact .up (ih hr)
  | into hup hlong hdir _ ih => exact .into hup hlong (entry?_of_without hdir) (ih hr)
  | last _ hup hlong hentry =>
      rcases hentry with hnone | ⟨c, hfile⟩
      · rw [hnone] at hr
        cases hr
      · exact .last _ hup hlong (.inr ⟨c, entry?_of_without hfile⟩)
  | lastLink _ hup hlong hlink hstay => exact .lastLink _ hup hlong (entry?_of_without hlink) hstay
  | follow hup hlong hlink hfollow _ ih =>
      exact .follow hup hlong (entry?_of_without hlink) hfollow (ih hr)

theorem Holds.of_without {content : Bytes} (h : (t.without gone).Holds p q content) :
    t.Holds p q content where
  locate := locate_eq_ok_iff.2 ((locate_eq_ok_iff.1 h.locate).of_without h.entry)
  entry := entry?_of_without h.entry

section Leaves

variable (h : t.IsProper) (hgone : ∀ p ∈ gone, t.isLeaf p = true)

include hgone

theorem notMem_of_dir (hdir : t.entry? p = some .dir) : p ∉ gone := by
  intro hp
  obtain ⟨e, he, hne⟩ := exists_entry_of_isLeaf (hgone p hp)
  rw [hdir] at he
  exact hne (Option.some.inj he).symm

theorem entry?_without_of_dir (hdir : t.entry? p = some .dir) :
    entry? (t.without gone) p = some .dir := by
  rw [entry?_without_of_notMem (notMem_of_dir hgone hdir), hdir]

include h

/-- A walk to a directory needs no leaf. -/
theorem IsProper.leads_without (hr : t.Leads true links at_ names r)
    (hdir : t.entry? r = some .dir) : t.entry? at_ = some .dir → links ≤ maxLinks →
      (t.without gone).Leads true links at_ names r := by
  induction hr with
  | stop => exact fun _ _ => .stop ..
  | up _ ih => exact fun hat hlinks => .up (ih hdir (h.entry?_dropLast hat) hlinks)
  | into hup hlong hhere _ ih =>
      intro _ hlinks
      exact .into hup hlong (entry?_without_of_dir hgone hhere) (ih hdir hhere hlinks)
  | last _ hup hlong hentry =>
      rcases hentry with hnone | ⟨c, hfile⟩
      · rw [hnone] at hdir
        cases hdir
      · rw [hfile] at hdir
        cases hdir
  | lastLink _ _ _ _ hstay => cases hstay
  | @follow links at_ r name target rest hup hlong hlink hfollow hrest ih =>
      intro hat hlinks
      have hkept : at_ ++ [name] ∉ gone := by
        intro hmem
        have hleaf := hgone _ hmem
        rw [isLeaf_of_link hlink, h.isDir_of_leads hat hlinks
          (.follow hup hlong hlink hfollow hrest) hdir] at hleaf
        cases hleaf
      refine .follow hup hlong (by rwa [entry?_without_of_notMem hkept]) hfollow (ih hdir ?_ ?_)
      · split
        · exact hat
        · rfl
      · omega

/-- Leaves are on the way to no directory. -/
theorem IsProper.isDir_without (p : Place) : (t.without gone).isDir p = t.isDir p := by
  rw [Bool.eq_iff_iff, isDir_iff, isDir_iff]
  refine exists_congr fun q => ?_
  rw [locate_eq_ok_iff, locate_eq_ok_iff]
  constructor
  · rintro ⟨hq, hdir⟩
    exact ⟨hq.of_without hdir, entry?_of_without hdir⟩
  · rintro ⟨hq, hdir⟩
    exact ⟨h.leads_without hgone hq hdir rfl (Nat.le_refl _), entry?_without_of_dir hgone hdir⟩

/-- The leaves that are left. -/
theorem IsProper.isLeaf_without (p : Place) :
    (t.without gone).isLeaf p = true ↔ t.isLeaf p = true ∧ p ∉ gone := by
  by_cases hp : p ∈ gone
  · refine iff_of_false (fun hleaf => ?_) fun hleaf => hleaf.2 hp
    obtain ⟨e, he, -⟩ := exists_entry_of_isLeaf hleaf
    obtain ⟨e', he', hne⟩ := exists_entry_of_isLeaf (hgone p hp)
    have hnil : p ≠ [] := by
      rintro rfl
      exact hne (Option.some.inj he').symm
    rw [entry?_without hnil, if_pos hp] at he
    cases he
  · rw [isLeaf, isLeaf, entry?_without_of_notMem hp, h.isDir_without hgone]
    simp [hp]

theorem IsProper.without : (t.without gone).IsProper where
  once := (List.filter_sublist.map Prod.fst).nodup h.once
  names place hplace := h.names place ((List.filter_sublist.map Prod.fst).subset hplace)
  parents place hplace := entry?_without_of_dir hgone
    (h.parents place ((List.filter_sublist.map Prod.fst).subset hplace))

end Leaves

end HelpCenter.FileTree

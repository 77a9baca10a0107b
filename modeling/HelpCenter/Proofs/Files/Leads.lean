import HelpCenter.Files.Tree
import HelpCenter.Proofs.Except
import Mathlib.Data.List.Basic
import Mathlib.Order.Defs.Unbundled

/-!
# Walks

`Leads` says without fuel where a walk along names comes to, with one rule for each kind of step.
The fuel of the walks that operations take is enough for it (`walk_eq_ok_iff`, `locate_eq_ok_iff`),
so that facts about walks are proved by induction on `Leads`.
-/

namespace HelpCenter.FileTree

/-- A walk from a directory along names ends at the last place; the last link on the way is only
followed if `followLast`, and at most `links` are followed. -/
inductive Leads (t : FileTree) (followLast : Bool) : ℕ → Place → List Text → Place → Prop
  | stop (links : ℕ) (at_ : Place) : Leads t followLast links at_ [] at_
  | up {links : ℕ} {at_ r : Place} {rest : List Text}
    (h : Leads t followLast links at_.dropLast rest r) :
    Leads t followLast links at_ (lit ".." :: rest) r
  | into {links : ℕ} {at_ r : Place} {name : Text} {rest : List Text} (hup : name ≠ lit "..")
    (hlong : ¬ isTooLong name = true) (hdir : t.entry? (at_ ++ [name]) = some .dir)
    (h : Leads t followLast links (at_ ++ [name]) rest r) :
    Leads t followLast links at_ (name :: rest) r
  | last (links : ℕ) {at_ : Place} {name : Text} (hup : name ≠ lit "..")
    (hlong : ¬ isTooLong name = true)
    (hentry : t.entry? (at_ ++ [name]) = none ∨ ∃ c, t.entry? (at_ ++ [name]) = some (.file c)) :
    Leads t followLast links at_ [name] (at_ ++ [name])
  | lastLink (links : ℕ) {at_ : Place} {name target : Text} (hup : name ≠ lit "..")
    (hlong : ¬ isTooLong name = true) (hlink : t.entry? (at_ ++ [name]) = some (.link target))
    (hstay : followLast = false) :
    Leads t followLast links at_ [name] (at_ ++ [name])
  | follow {links : ℕ} {at_ r : Place} {name target : Text} {rest : List Text}
    (hup : name ≠ lit "..") (hlong : ¬ isTooLong name = true)
    (hlink : t.entry? (at_ ++ [name]) = some (.link target))
    (hfollow : rest = [] → followLast = true)
    (h : Leads t followLast links (if (FilePath.ofText target).root.isEmpty then at_ else [])
      ((FilePath.ofText target).names ++ rest) r) :
    Leads t followLast (links + 1) at_ (name :: rest) r

variable {t : FileTree} {p r at_ : Place} {names : List Text} {followLast : Bool} {fuel links : ℕ}

theorem entry?_nil : t.entry? [] = some .dir := rfl

/-! ## Fuel -/

theorem leads_of_walk :
    ∀ {links : ℕ} {at_ : Place} {names : List Text},
      t.walk followLast fuel links at_ names = .ok r → t.Leads followLast links at_ names r := by
  induction fuel with
  | zero => intro links at_ names h; cases h
  | succ fuel ih =>
      intro links at_ names h
      cases names with
      | nil =>
          obtain rfl : at_ = r := Except.ok.inj h
          exact .stop ..
      | cons name rest =>
          unfold walk at h
          by_cases hup : name = lit ".."
          · rw [if_pos hup] at h
            subst hup
            exact .up (ih h)
          rw [if_neg hup] at h
          by_cases hlong : isTooLong name = true
          · rw [if_pos hlong] at h
            cases h
          rw [if_neg hlong] at h
          dsimp only at h
          cases hentry : t.entry? (at_ ++ [name]) with
          | none =>
              rw [hentry] at h
              dsimp only at h
              split at h <;> cases h
              rw [List.isEmpty_iff.1 ‹rest.isEmpty = true›]
              exact .last _ hup hlong (.inl hentry)
          | some entry =>
              rw [hentry] at h
              cases entry with
              | dir => exact .into hup hlong hentry (ih h)
              | file c =>
                  dsimp only at h
                  split at h <;> cases h
                  rw [List.isEmpty_iff.1 ‹rest.isEmpty = true›]
                  exact .last _ hup hlong (.inr ⟨c, hentry⟩)
              | link target =>
                  dsimp only at h
                  split at h
                  · next hlast =>
                    obtain rfl := Except.ok.inj h
                    obtain ⟨hrest, hfollow⟩ := Bool.and_eq_true_iff.1 hlast
                    rw [List.isEmpty_iff.1 hrest]
                    exact .lastLink _ hup hlong hentry (by simpa using hfollow)
                  · next hlast =>
                    cases links with
                    | zero => cases h
                    | succ links =>
                        refine .follow hup hlong hentry (fun hrest => ?_) (ih h)
                        subst hrest
                        simpa using hlast

/-- The length of what a link says. -/
def linkLength (entry : Place × Entry) : ℕ :=
  match entry.2 with
  | .link target => target.length
  | _ => 0

/-- The length of the longest link. -/
def longestLink (t : FileTree) : ℕ := (t.entries.map linkLength).foldl Nat.max 0

theorem walkFuel_eq (names : List Text) :
    t.walkFuel names = names.length + (maxLinks + 1) * (t.longestLink + 2) := rfl

theorem le_foldl_max {ns : List ℕ} {n : ℕ} (h : n ∈ ns) : n ≤ ns.foldl max 0 := by
  rw [List.foldl_max, Nat.zero_max]
  exact List.le_max?_getD_of_mem h

theorem length_le_longestLink {target : Text} (h : t.entry? p = some (.link target)) :
    target.length ≤ t.longestLink := by
  unfold entry? at h
  split at h
  · cases h
  obtain ⟨before, after, hentries, -⟩ := List.lookup_eq_some_iff.1 h
  have hmem : (p, Entry.link target) ∈ t.entries := by simp [hentries]
  exact le_foldl_max (List.mem_map_of_mem (f := linkLength) hmem)

theorem length_splitOn_le (sep : CodePoint) (text : Text) :
    (Text.splitOn sep text).length ≤ text.length + 1 := by
  induction text with
  | nil => simp [Text.splitOn]
  | cons c text ih =>
      unfold Text.splitOn
      split
      · simpa using ih
      · split
        · next hsplit => rw [hsplit] at ih; simp at ih ⊢
        · next hsplit => rw [hsplit] at ih; simp at ih ⊢; omega

theorem length_names_ofText_le (target : Text) :
    (FilePath.ofText target).names.length ≤ target.length + 1 :=
  Nat.le_trans (List.length_filter_le _ _) (length_splitOn_le '/' target)

/-- A walk has enough fuel if there is some for each name and for each link that may be followed. -/
theorem Leads.walk_eq (h : t.Leads followLast links at_ names r) :
    ∀ {fuel : ℕ}, names.length + links * (t.longestLink + 2) < fuel →
      t.walk followLast fuel links at_ names = .ok r := by
  induction h with
  | stop links at_ =>
      intro fuel hfuel
      obtain ⟨fuel, rfl⟩ := Nat.exists_eq_add_one.2 (Nat.zero_lt_of_lt hfuel)
      rfl
  | up _ ih =>
      intro fuel hfuel
      obtain ⟨fuel, rfl⟩ := Nat.exists_eq_add_one.2 (Nat.zero_lt_of_lt hfuel)
      rw [List.length_cons] at hfuel
      unfold walk
      rw [if_pos rfl]
      exact ih (by omega)
  | into hup hlong hdir _ ih =>
      intro fuel hfuel
      obtain ⟨fuel, rfl⟩ := Nat.exists_eq_add_one.2 (Nat.zero_lt_of_lt hfuel)
      rw [List.length_cons] at hfuel
      unfold walk
      rw [if_neg hup, if_neg hlong]
      dsimp only
      rw [hdir]
      exact ih (by omega)
  | last links hup hlong hentry =>
      intro fuel hfuel
      obtain ⟨fuel, rfl⟩ := Nat.exists_eq_add_one.2 (Nat.zero_lt_of_lt hfuel)
      unfold walk
      rw [if_neg hup, if_neg hlong]
      dsimp only
      rcases hentry with hentry | ⟨c, hentry⟩ <;> rw [hentry] <;> rfl
  | lastLink links hup hlong hlink hfollow =>
      intro fuel hfuel
      obtain ⟨fuel, rfl⟩ := Nat.exists_eq_add_one.2 (Nat.zero_lt_of_lt hfuel)
      unfold walk
      rw [if_neg hup, if_neg hlong]
      dsimp only
      rw [hlink, hfollow]
      rfl
  | @follow links at_ r name target rest hup hlong hlink hfollow _ ih =>
      intro fuel hfuel
      obtain ⟨fuel, rfl⟩ := Nat.exists_eq_add_one.2 (Nat.zero_lt_of_lt hfuel)
      have hlength := length_names_ofText_le target
      have hlongest := length_le_longestLink hlink
      rw [List.length_cons, Nat.add_one_mul] at hfuel
      unfold walk
      rw [if_neg hup, if_neg hlong]
      dsimp only
      rw [hlink]
      have hgoes : ¬ (rest.isEmpty && !followLast) = true := by
        rw [Bool.and_eq_true_iff, List.isEmpty_iff]
        rintro ⟨hrest, hnot⟩
        rw [hfollow hrest] at hnot
        cases hnot
      dsimp only
      rw [if_neg hgoes]
      -- the link pays for its names with the fuel of one link
      exact ih (by rw [List.length_append]; omega)

/-- The fuel of the walk that an operation takes is enough. -/
theorem walk_eq_ok_iff : t.walk followLast (t.walkFuel p) maxLinks [] p = .ok r ↔
    t.Leads followLast maxLinks [] p r := by
  refine ⟨leads_of_walk, fun h => h.walk_eq ?_⟩
  rw [walkFuel_eq, Nat.add_one_mul]
  omega

theorem locate_eq_ok_iff : t.locate p = .ok r ↔ t.Leads true maxLinks [] p r := walk_eq_ok_iff

/-! ## Links -/

/-- A walk may follow more links than it needs. -/
theorem Leads.mono (h : t.Leads followLast links at_ names r) :
    ∀ {links' : ℕ}, links ≤ links' → t.Leads followLast links' at_ names r := by
  induction h with
  | stop => exact fun _ => .stop ..
  | up _ ih => exact fun hle => .up (ih hle)
  | into hup hlong hdir _ ih => exact fun hle => .into hup hlong hdir (ih hle)
  | last _ hup hlong hentry => exact fun _ => .last _ hup hlong hentry
  | lastLink _ hup hlong hlink hstay => exact fun _ => .lastLink _ hup hlong hlink hstay
  | follow hup hlong hlink hfollow _ ih =>
      intro links' hle
      obtain ⟨links', rfl⟩ := Nat.exists_eq_add_one.2 (Nat.zero_lt_of_lt hle)
      exact .follow hup hlong hlink hfollow (ih (Nat.le_of_succ_le_succ hle))

/-- If a walk that follows the last link leads somewhere, so does the one that stays at it. -/
theorem Leads.exists_stay (h : t.Leads true links at_ names r) :
    ∃ r', t.Leads false links at_ names r' := by
  induction h with
  | stop links at_ => exact ⟨_, .stop ..⟩
  | up _ ih =>
      obtain ⟨r, hr⟩ := ih
      exact ⟨r, .up hr⟩
  | into hup hlong hdir _ ih =>
      obtain ⟨r, hr⟩ := ih
      exact ⟨r, .into hup hlong hdir hr⟩
  | last links hup hlong hentry => exact ⟨_, .last links hup hlong hentry⟩
  | lastLink _ _ _ _ hstay => cases hstay
  | @follow _ _ _ _ _ rest hup hlong hlink _ _ ih =>
      by_cases hrest : rest = []
      · subst hrest
        exact ⟨_, .lastLink _ hup hlong hlink rfl⟩
      · obtain ⟨r, hr⟩ := ih
        exact ⟨r, .follow hup hlong hlink (fun h => absurd h hrest) hr⟩

/-! ## Other trees -/

/-- A walk goes where it went in a tree that has the same directories and links, unless there is a
new link at its end. -/
theorem Leads.of_keeps {t' : FileTree} (h : t.Leads followLast links at_ names r)
    (hkeeps : ∀ {p e}, t.entry? p = some e → (∀ c, e ≠ .file c) → t'.entry? p = some e)
    (hend : (t.entry? r = none ∨ ∃ c, t.entry? r = some (.file c)) →
      ∀ target, t'.entry? r ≠ some (.link target)) : t'.Leads followLast links at_ names r := by
  induction h with
  | stop => exact .stop ..
  | up _ ih => exact .up (ih hend)
  | into hup hlong hdir _ ih => exact .into hup hlong (hkeeps hdir nofun) (ih hend)
  | @last links at_ name hup hlong hentry =>
      cases hnew : t'.entry? (at_ ++ [name]) with
      | none => exact .last links hup hlong (.inl hnew)
      | some entry =>
          cases entry with
          | file c => exact .last links hup hlong (.inr ⟨c, hnew⟩)
          | dir => exact .into hup hlong hnew (.stop ..)
          | link target => exact absurd hnew (hend hentry target)
  | lastLink links hup hlong hlink hstay => exact .lastLink links hup hlong (hkeeps hlink nofun) hstay
  | follow hup hlong hlink hfollow _ ih =>
      exact .follow hup hlong (hkeeps hlink nofun) hfollow (ih hend)

/-! ## Ends -/

/-- A walk that follows the last link too does not end at a link. -/
theorem Leads.ne_link (h : t.Leads true links at_ names r) :
    (∀ p, p <+: at_ → t.entry? p = some .dir) → ∀ target, t.entry? r ≠ some (.link target) := by
  induction h with
  | stop links at_ =>
      intro hdirs target
      rw [hdirs at_ (List.prefix_refl _)]
      nofun
  | up _ ih => exact fun hdirs => ih fun p hp => hdirs p (hp.trans (List.dropLast_prefix _))
  | into _ _ hdir _ ih =>
      refine fun hdirs => ih fun p hp => ?_
      rcases List.prefix_concat_iff.1 hp with rfl | hp
      · exact hdir
      · exact hdirs p hp
  | last _ _ _ hentry =>
      intro _ target
      rcases hentry with hentry | ⟨c, hentry⟩ <;> rw [hentry] <;> nofun
  | lastLink _ _ _ _ hstay => cases hstay
  | follow _ _ _ _ _ ih =>
      refine fun hdirs => ih fun p hp => ?_
      split at hp
      · exact hdirs p hp
      · rw [List.prefix_nil.1 hp, entry?_nil]

theorem locate_ne_link (h : t.locate p = .ok r) (target : Text) :
    t.entry? r ≠ some (.link target) :=
  (locate_eq_ok_iff.1 h).ne_link (fun p hp => by rw [List.prefix_nil.1 hp, entry?_nil]) target

end HelpCenter.FileTree

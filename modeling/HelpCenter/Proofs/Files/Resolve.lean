import HelpCenter.Proofs.Files.Walk

/-!
# Resolved places

The directories that walks come by can be reached straight from the top (`IsStraight`), and a path
that leads somewhere resolves to the place it leads to (`resolve_eq`).  So the files of a directory are
the same whether they are named below the directory's own place or below a path to it
(`locate_resolve_append`).
-/

namespace HelpCenter.FileTree

variable {t : FileTree} {at_ p q r : Place} {name : Text} {names rel : List Text}
  {followLast : Bool} {links : ℕ}

/-- The names of a place lead to it through directories only. -/
inductive IsStraight (t : FileTree) : Place → Prop
  | top : IsStraight t []
  | into {q : Place} {name : Text} (h : IsStraight t q) (hup : name ≠ lit "..")
    (hlong : ¬ isTooLong name = true) (hdir : t.entry? (q ++ [name]) = some .dir) :
    IsStraight t (q ++ [name])

theorem IsStraight.entry (h : t.IsStraight q) : t.entry? q = some .dir := by
  cases h with
  | top => rfl
  | into _ _ _ hdir => exact hdir

theorem IsStraight.dropLast (h : t.IsStraight q) : t.IsStraight q.dropLast := by
  cases h with
  | top => exact .top
  | into h => rwa [List.dropLast_concat]

/-- A walk from a straight place is one along its names. -/
theorem IsStraight.leads (h : t.IsStraight q) : ∀ {rel : List Text},
    t.Leads followLast links q rel r → t.Leads followLast links [] (q ++ rel) r := by
  induction h with
  | top => exact id
  | into _ hup hlong hdir ih =>
      intro rel hr
      rw [List.append_assoc]
      exact ih (.into hup hlong hdir hr)

/-- A walk leads to what a walk leads to. -/
theorem Leads.again (h : t.Leads true links at_ names r) (hat : t.IsStraight at_) :
    t.Leads true maxLinks [] r r := by
  induction h with
  | stop links at_ => simpa using hat.leads (.stop maxLinks at_)
  | up _ ih => exact ih hat.dropLast
  | into hup hlong hdir _ ih => exact ih (hat.into hup hlong hdir)
  | last _ hup hlong hentry => exact hat.leads (.last _ hup hlong hentry)
  | lastLink _ _ _ _ hstay => cases hstay
  | follow _ _ _ _ _ ih =>
      refine ih ?_
      split
      · exact hat
      · exact .top

/-- The directory around what a path leads to is straight. -/
theorem Leads.exists_straight (h : t.Leads followLast links [] (p ++ rel) r) (hrel : rel ≠ []) :
    ∃ q links', t.Leads true links [] p q ∧ t.IsStraight q ∧ links' ≤ links ∧
      t.Leads followLast links' q rel r :=
  h.of_append_of (D := t.IsStraight) .top (fun _ => .dropLast) (fun _ _ => .into)
    hrel .top rfl

theorem resolveFrom_eq : ∀ {names : List Text} {links : ℕ} {at_ : Place},
    t.Leads true links at_ names r → links ≤ maxLinks → t.resolveFrom at_ names = r
  | [], links, at_, h, _ => by
    cases h
    rfl
  | name :: rest, links, at_, h, hlinks => by
    by_cases hup : name = lit ".."
    · rw [resolveFrom, if_pos hup]
      cases h with
      | up h => exact resolveFrom_eq h hlinks
      | into hnot => exact absurd hup hnot
      | last _ hnot => exact absurd hup hnot
      | lastLink _ hnot => exact absurd hup hnot
      | follow hnot => exact absurd hup hnot
    · obtain ⟨q, links', hq, hle, hr⟩ : ∃ q links',
          t.Leads true links at_ [name] q ∧ links' ≤ links ∧ t.Leads true links' q rest r := by
        by_cases hrest : rest = []
        · subst hrest
          exact ⟨r, links, h, Nat.le_refl _, .stop ..⟩
        · exact h.of_append (p := [name]) hrest rfl
      have hwalk : t.walk true (t.walkFuel [name]) maxLinks at_ [name] = .ok q := by
        refine (hq.mono hlinks).walk_eq ?_
        rw [walkFuel_eq, Nat.add_one_mul]
        omega
      rw [resolveFrom, if_neg hup, hwalk]
      exact resolveFrom_eq hr (Nat.le_trans hle hlinks)

/-- A path that leads somewhere resolves to the place there. -/
theorem resolve_eq (h : t.locate p = .ok r) : t.resolve p = r :=
  resolveFrom_eq (locate_eq_ok_iff.1 h) (Nat.le_refl _)

theorem locate_self (h : t.locate p = .ok r) : t.locate r = .ok r :=
  locate_eq_ok_iff.2 ((locate_eq_ok_iff.1 h).again .top)

/-- What a name below a path leads to, it leads to below the resolved path, which is a directory. -/
theorem locate_resolve_append (h : t.locate (p ++ [name]) = .ok r) :
    t.locate p = .ok (t.resolve p) ∧ t.entry? (t.resolve p) = some .dir ∧
      t.locate (t.resolve p ++ [name]) = .ok r := by
  obtain ⟨q, links, hq, hstraight, hle, hr⟩ :=
    (locate_eq_ok_iff.1 h).exists_straight (List.cons_ne_nil name [])
  have hp : t.locate p = .ok q := locate_eq_ok_iff.2 hq
  rw [resolve_eq hp]
  exact ⟨hp, hstraight.entry, locate_eq_ok_iff.2 (hstraight.leads (hr.mono hle))⟩

end HelpCenter.FileTree

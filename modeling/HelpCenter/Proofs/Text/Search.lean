import HelpCenter.Text.Search
import Mathlib.Data.List.Lex
import Mathlib.Data.List.Nodup

/-!
# Splitting, joining and ordering

What is split at a separator and joined again is what it was (`splitOn_joinWith`), so a path is
known by its text.  A part without the separator stands in one of the texts that are joined
(`exists_infix_of_joinWith`).  Texts are ordered as the lists of their code points (`lt_iff`).
-/

namespace HelpCenter.Text

variable {s t u w : Text} {c : CodePoint}

/-! ## Pieces -/

theorem splitOn_of_notMem {sep : CodePoint} (h : sep ∉ t) : splitOn sep t = [t] := by
  induction t with
  | nil => rfl
  | cons c t ih =>
      rw [List.mem_cons, not_or] at h
      rw [splitOn, if_neg (Ne.symm h.1), ih h.2]

/-- What stands in a piece stands in the text. -/
theorem mem_of_mem_splitOn {sep c : CodePoint} {piece : Text} (h : piece ∈ splitOn sep t)
    (hc : c ∈ piece) : c ∈ t := by
  induction t generalizing piece with
  | nil =>
      rw [splitOn, List.mem_singleton] at h
      rwa [h] at hc
  | cons d t ih =>
      rw [splitOn] at h
      split at h
      · rcases List.mem_cons.1 h with rfl | h
        · cases hc
        · exact List.mem_cons_of_mem _ (ih h hc)
      · split at h
        · rw [List.mem_singleton.1 h] at hc
          exact List.mem_cons.2 (.inl (List.mem_singleton.1 hc))
        · next first rest hsplit =>
          rcases List.mem_cons.1 h with rfl | h
          · rcases List.mem_cons.1 hc with rfl | hc
            · exact List.mem_cons_self
            · exact List.mem_cons_of_mem _ (ih (hsplit ▸ List.mem_cons_self) hc)
          · exact List.mem_cons_of_mem _ (ih (hsplit ▸ List.mem_cons_of_mem _ h) hc)

theorem cutAtFirst_cons (sep c : CodePoint) (t : Text) :
    cutAtFirst sep (c :: t) =
      if c = sep then ([], t) else (c :: (cutAtFirst sep t).1, (cutAtFirst sep t).2) := by
  unfold cutAtFirst
  by_cases h : c = sep <;> simp [h]

/-- What is cut at a separator is the text with the separator between, or has none. -/
theorem cutAtFirst_eq (sep : CodePoint) (t : Text) :
    sep ∉ (cutAtFirst sep t).1 ∧ (t = (cutAtFirst sep t).1 ++ sep :: (cutAtFirst sep t).2 ∨
      t = (cutAtFirst sep t).1 ∧ (cutAtFirst sep t).2 = []) := by
  induction t with
  | nil => exact ⟨List.not_mem_nil, .inr ⟨rfl, rfl⟩⟩
  | cons c t ih =>
      rw [cutAtFirst_cons]
      split
      · next h =>
        subst h
        exact ⟨List.not_mem_nil, .inl rfl⟩
      · next h =>
        obtain ⟨hdot, htext⟩ := ih
        refine ⟨by simp [Ne.symm h, hdot], htext.imp (congrArg (c :: ·)) ?_⟩
        exact fun ⟨ht, hnil⟩ => ⟨congrArg (c :: ·) ht, hnil⟩

theorem afterPrefix?_append (lead rest : Text) : afterPrefix? lead (lead ++ rest) = some rest := by
  induction lead with
  | nil => rfl
  | cons c lead ih => rw [List.cons_append, afterPrefix?, if_pos rfl, ih]

theorem eq_append_of_afterPrefix? {lead rest : Text} (h : afterPrefix? lead t = some rest) :
    t = lead ++ rest := by
  induction lead generalizing t with
  | nil => exact Option.some.inj h
  | cons c lead ih =>
      cases t with
      | nil => cases h
      | cons d t =>
          rw [afterPrefix?] at h
          split at h
          · next hcd => rw [ih h, ← hcd, List.cons_append]
          · cases h

theorem startsWith_iff {lead : Text} : startsWith t lead = true ↔ lead <+: t := by
  constructor
  · intro h
    obtain ⟨rest, hrest⟩ := Option.isSome_iff_exists.1 h
    exact ⟨rest, (eq_append_of_afterPrefix? hrest).symm⟩
  · rintro ⟨rest, rfl⟩
    exact Option.isSome_iff_exists.2 ⟨rest, afterPrefix?_append lead rest⟩

theorem endsWith_iff {tail : Text} : endsWith t tail = true ↔ tail <:+ t := by
  rw [endsWith, startsWith_iff, List.reverse_prefix]

theorem endsWith_append (t tail : Text) : endsWith (t ++ tail) tail = true :=
  endsWith_iff.2 (List.suffix_append t tail)

theorem splitOn_append {sep : CodePoint} (h : sep ∉ t) (u : Text) :
    splitOn sep (t ++ sep :: u) = t :: splitOn sep u := by
  induction t with
  | nil => simp [splitOn]
  | cons c t ih =>
      rw [List.mem_cons, not_or] at h
      rw [List.cons_append, splitOn, if_neg (Ne.symm h.1), ih h.2]

/-- What follows the last separator belongs to the last piece. -/
theorem splitOn_append_of_notMem {sep : CodePoint} {u : Text} (h : sep ∉ u) (t : Text) :
    ∃ pieces last, splitOn sep (t ++ u) = pieces ++ [last ++ u] := by
  induction t with
  | nil => exact ⟨[], [], splitOn_of_notMem h⟩
  | cons c t ih =>
      obtain ⟨pieces, last, hsplit⟩ := ih
      rw [List.cons_append, splitOn, hsplit]
      by_cases hc : c = sep
      · exact ⟨[] :: pieces, last, if_pos hc⟩
      · rw [if_neg hc]
        cases pieces with
        | nil => exact ⟨[], c :: last, rfl⟩
        | cons piece pieces => exact ⟨(c :: piece) :: pieces, last, rfl⟩

theorem joinWith_cons {sep : Text} {pieces : List Text} (h : pieces ≠ []) (t : Text) :
    joinWith sep (t :: pieces) = t ++ sep ++ joinWith sep pieces := by
  cases pieces with
  | nil => exact absurd rfl h
  | cons u rest => rfl

/-- Texts without a separator are the pieces of what is joined with it. -/
theorem splitOn_joinWith {sep : CodePoint} {pieces : List Text} (hne : pieces ≠ [])
    (h : ∀ piece ∈ pieces, sep ∉ piece) : splitOn sep (joinWith [sep] pieces) = pieces := by
  induction pieces with
  | nil => exact absurd rfl hne
  | cons piece rest ih =>
      rw [List.forall_mem_cons] at h
      cases rest with
      | nil => exact splitOn_of_notMem h.1
      | cons next rest =>
          rw [joinWith_cons (List.cons_ne_nil _ _), List.append_assoc, List.singleton_append,
            splitOn_append h.1, ih (by simp) h.2]

theorem joinWith_append {sep : Text} {pieces more : List Text} (hne : pieces ≠ [])
    (hmore : more ≠ []) :
    joinWith sep (pieces ++ more) = joinWith sep pieces ++ sep ++ joinWith sep more := by
  induction pieces with
  | nil => exact absurd rfl hne
  | cons piece rest ih =>
      cases rest with
      | nil => exact joinWith_cons hmore piece
      | cons next rest =>
          rw [List.cons_append, joinWith_cons (by simp), ih (List.cons_ne_nil _ _),
            joinWith_cons (List.cons_ne_nil _ _)]
          simp only [List.append_assoc]

theorem splitOn_ne_nil (sep : CodePoint) (t : Text) : splitOn sep t ≠ [] := by
  cases t with
  | nil => exact List.cons_ne_nil _ _
  | cons c t =>
      rw [splitOn]
      split
      · exact List.cons_ne_nil _ _
      · split <;> exact List.cons_ne_nil _ _

/-- The pieces of a text make it again. -/
theorem joinWith_splitOn (sep : CodePoint) (t : Text) : joinWith [sep] (splitOn sep t) = t := by
  induction t with
  | nil => rfl
  | cons c t ih =>
      rw [splitOn]
      split
      · next h =>
        rw [joinWith_cons (splitOn_ne_nil sep t), ih, h]
        rfl
      · split
        · next h => exact absurd h (splitOn_ne_nil sep t)
        · next piece rest h =>
          rw [h] at ih
          rw [← ih]
          cases rest with
          | nil => rfl
          | cons next rest => rfl

/-! ## Parts -/

theorem prefix_of_prefix_append_cons (hc : c ∉ w) (h : w <+: s ++ c :: t) : w <+: s := by
  rcases List.prefix_or_prefix_of_prefix h (List.prefix_append s _) with hw | ⟨r, rfl⟩
  · exact hw
  · cases r with
    | nil => simp
    | cons d r =>
        obtain ⟨rest, hrest⟩ := h
        rw [List.append_assoc, List.append_cancel_left_eq, List.cons_append, List.cons.injEq]
          at hrest
        exact absurd (by simp [hrest.1]) hc

/-- A part without the separator stands on one side of it. -/
theorem infix_or_infix_of_append_cons (hc : c ∉ w) (h : w <:+: s ++ c :: t) :
    w <:+: s ∨ w <:+: t := by
  induction s with
  | nil =>
      rcases List.infix_cons_iff.1 h with h | h
      · exact .inl (prefix_of_prefix_append_cons hc h).isInfix
      · exact .inr h
  | cons d s ih =>
      rcases List.infix_cons_iff.1 h with h | h
      · exact .inl (prefix_of_prefix_append_cons (s := d :: s) hc h).isInfix
      · exact (ih h).imp_left List.infix_cons

/-- A part begins behind what its first character does not stand in. -/
theorem infix_of_append_left (hc : c ∉ s) (h : c :: w <:+: s ++ t) : c :: w <:+: t := by
  induction s with
  | nil => exact h
  | cons d s ih =>
      rw [List.mem_cons, not_or] at hc
      rcases List.infix_cons_iff.1 h with h | h
      · exact absurd (List.cons_prefix_cons.1 h).1 hc.1
      · exact ih hc.2 h

/-- A part ends before what its last character does not stand in. -/
theorem infix_of_append_right (hc : c ∉ t) (h : w ++ [c] <:+: s ++ t) : w ++ [c] <:+: s := by
  rw [← List.reverse_infix] at h ⊢
  rw [List.reverse_append, List.reverse_append] at h
  rw [List.reverse_append]
  exact infix_of_append_left (by simpa using hc) h

/-- A part without the separator stands in one of the texts. -/
theorem exists_infix_of_joinWith {pieces : List Text} (hc : c ∉ w) (hne : w ≠ [])
    (h : w <:+: joinWith [c] pieces) : ∃ piece ∈ pieces, w <:+: piece := by
  induction pieces with
  | nil => exact absurd (List.infix_nil.1 h) hne
  | cons piece rest ih =>
      cases rest with
      | nil => exact ⟨piece, List.mem_cons_self .., h⟩
      | cons next rest =>
          rw [joinWith_cons (List.cons_ne_nil _ _), List.append_assoc, List.singleton_append] at h
          rcases infix_or_infix_of_append_cons hc h with h | h
          · exact ⟨piece, List.mem_cons_self .., h⟩
          · obtain ⟨found, hfound, h⟩ := ih h
            exact ⟨found, List.mem_cons_of_mem _ hfound, h⟩

/-! ## Order -/

theorem lt_iff : lt s t = true ↔ s.map CodePoint.toNat < t.map CodePoint.toNat := by
  induction s generalizing t with
  | nil => cases t <;> simp [lt]
  | cons a s ih =>
      cases t with
      | nil => simp [lt]
      | cons b t =>
          rw [lt, Bool.or_eq_true_iff, Bool.and_eq_true_iff, decide_eq_true_iff, beq_iff_eq, ih,
            List.map_cons, List.map_cons, List.cons_lt_cons_iff]

theorem map_toNat_injective : Function.Injective (List.map CodePoint.toNat) := by
  apply List.map_injective_iff.2
  rintro ⟨a, ha⟩ ⟨b, hb⟩ rfl
  rfl

theorem le_iff : le s t = true ↔ s.map CodePoint.toNat ≤ t.map CodePoint.toNat := by
  rw [le, Bool.not_eq_true', ← Bool.not_eq_true, lt_iff, not_lt]

theorem le_trans (h : le s t = true) (h' : le t u = true) : le s u = true :=
  le_iff.2 ((le_iff.1 h).trans (le_iff.1 h'))

theorem le_total (s t : Text) : (le s t || le t s) = true := by
  rw [Bool.or_eq_true_iff, le_iff, le_iff]
  exact Std.le_total ..

theorem lt_of_le_of_ne (h : le s t = true) (hne : s ≠ t) : lt s t = true :=
  lt_iff.2 ((le_iff.1 h).lt_of_ne (map_toNat_injective.ne hne))

theorem ne_of_lt (h : lt s t = true) : s ≠ t := by
  rintro rfl
  exact lt_irrefl _ (lt_iff.1 h)

theorem nodup_of_pairwise_lt {texts : List Text} (h : texts.Pairwise fun s t => lt s t = true) :
    texts.Nodup := h.imp ne_of_lt

/-- Texts in order are known by which they are. -/
theorem eq_of_pairwise_lt {texts texts' : List Text} (h : texts.Pairwise fun s t => lt s t = true)
    (h' : texts'.Pairwise fun s t => lt s t = true) (hmem : ∀ t, t ∈ texts ↔ t ∈ texts') :
    texts = texts' := by
  have hperm : texts.Perm texts' :=
    (List.perm_ext_iff_of_nodup (nodup_of_pairwise_lt h) (nodup_of_pairwise_lt h')).2 hmem
  refine hperm.eq_of_pairwise (fun s t _ _ hst hts => ?_) h h'
  exact absurd (lt_iff.1 hts) (lt_asymm (lt_iff.1 hst))

/-- Sorting texts that are all different puts them in order. -/
theorem pairwise_lt_mergeSort {texts : List Text} (h : texts.Nodup) :
    (texts.mergeSort le).Pairwise fun s t => lt s t = true := by
  have hle : (texts.mergeSort le).Pairwise fun s t => le s t = true :=
    List.pairwise_mergeSort (fun s t u => le_trans (s := s) (t := t) (u := u)) le_total texts
  have hne : (texts.mergeSort le).Nodup := (List.mergeSort_perm texts le).nodup_iff.2 h
  exact (hle.and hne).imp fun ⟨hle, hne⟩ => lt_of_le_of_ne hle hne

end HelpCenter.Text

import HelpCenter.Proofs.Text.Trim
import HelpCenter.Text.Case

/-!
# Capitalized texts

Case mappings lead to no blanks and no surrogates (`CaseTable.apply_eq_or`), so what is capitalized
has only those of the text itself and is as trimmed as that was (`Recased.trim`).
-/

namespace HelpCenter

/-! ## Tables -/

/-- Neither a blank nor a surrogate. -/
def CodePoint.IsSolid (c : CodePoint) : Prop := c.isBlank = false ∧ c.isSurrogate = false

instance (c : CodePoint) : Decidable c.IsSolid := inferInstanceAs (Decidable (_ ∧ _))

/-- The blanks and the surrogates. -/
def airyTable : RangeTable := blankTable ++ [(0xD800, 0xDFFF)]

theorem RangeTable.exists_of_contains {table : RangeTable} {n : ℕ} (h : table.contains n = true) :
    ∃ r ∈ table, r.1 ≤ n ∧ n ≤ r.2 := by
  induction table with
  | nil => cases h
  | cons r table ih =>
      obtain ⟨lo, hi⟩ := r
      rw [contains] at h
      split at h
      · cases h
      · split at h
        · exact ⟨(lo, hi), List.mem_cons_self .., by omega, by omega⟩
        · obtain ⟨r, hr, hin⟩ := ih h
          exact ⟨r, List.mem_cons_of_mem _ hr, hin⟩

namespace CodePoint

variable {c d : CodePoint}

theorem isSolid_of_notMem (h : ∀ r ∈ airyTable, ¬ (r.1 ≤ c.toNat ∧ c.toNat ≤ r.2)) :
    c.IsSolid := by
  constructor
  · refine Bool.eq_false_iff.2 fun hblank => ?_
    obtain ⟨r, hr, hin⟩ := RangeTable.exists_of_contains hblank
    exact h r (List.mem_append_left _ hr) hin
  · refine Bool.eq_false_iff.2 fun hsurrogate => ?_
    simp only [isSurrogate, Bool.and_eq_true, decide_eq_true_eq] at hsurrogate
    exact h _ (List.mem_append_right _ (List.mem_singleton_self _)) hsurrogate

theorem isSolid_ofNat {n : ℕ} (h : ∀ r ∈ airyTable, ¬ (r.1 ≤ n ∧ n ≤ r.2)) :
    (ofNat n).IsSolid := by
  by_cases hn : n < 0x110000
  · refine isSolid_of_notMem ?_
    rw [show (ofNat n).toNat = n by simp [ofNat, ofNat?, hn]]
    exact h
  · rw [show ofNat n = replacement by simp [ofNat, ofNat?, hn]]
    decide

end CodePoint

namespace CaseTable

variable {table : CaseTable} {n : ℕ}

/-- No entry leads to a blank or a surrogate. -/
def IsSolid (table : CaseTable) : Prop :=
  ∀ e ∈ table, 0 ≤ (e.1 : ℤ) + e.2.2.2 ∧
    ∀ r ∈ airyTable, (e.2.1 : ℤ) + e.2.2.2 < r.1 ∨ (r.2 : ℤ) < e.1 + e.2.2.2

instance (table : CaseTable) : Decidable table.IsSolid :=
  inferInstanceAs (Decidable (∀ e ∈ table, _ ∧ ∀ r ∈ airyTable, _))

/-- A number stays, or goes where no blank and no surrogate is. -/
theorem apply_eq_or (h : table.IsSolid) (n : ℕ) :
    table.apply n = n ∨ ∀ r ∈ airyTable, ¬ (r.1 ≤ table.apply n ∧ table.apply n ≤ r.2) := by
  induction table with
  | nil => exact .inl rfl
  | cons e table ih =>
      obtain ⟨lo, hi, step, d⟩ := e
      obtain ⟨he, htable⟩ := List.forall_mem_cons.1 h
      rw [apply]
      split
      · exact .inl rfl
      · split
        · next hlo hin =>
          simp only [Bool.and_eq_true, decide_eq_true_eq] at hin
          refine .inr fun r hr => ?_
          have := he.1
          have := he.2 r hr
          dsimp only at *
          omega
        · exact ih htable

theorem isSolid_lowerTable : lowerTable.IsSolid := by decide +kernel

theorem isSolid_upperTable : upperTable.IsSolid := by decide +kernel

end CaseTable

/-! ## Characters -/

namespace CodePoint

variable {c d : CodePoint}

theorem ofNat_apply_eq_or {table : CaseTable} (h : table.IsSolid) (c : CodePoint) :
    ofNat (table.apply c.toNat) = c ∨ (ofNat (table.apply c.toNat)).IsSolid := by
  rcases CaseTable.apply_eq_or h c.toNat with heq | hout
  · exact .inl (by rw [heq, ofNat_toNat])
  · exact .inr (isSolid_ofNat hout)

/-- Where a character goes when its case changes: it stays, or no blank or surrogate comes of it. -/
def Becomes (c : CodePoint) (piece : Text) : Prop :=
  piece ≠ [] ∧ ∀ d ∈ piece, d = c ∨ d.IsSolid

theorem becomes_singleton (h : d = c ∨ d.IsSolid) : c.Becomes [d] :=
  ⟨List.cons_ne_nil _ _, List.forall_mem_singleton.2 h⟩

theorem becomes_lower (c : CodePoint) : c.Becomes [c.lower] :=
  becomes_singleton (ofNat_apply_eq_or CaseTable.isSolid_lowerTable c)

theorem becomes_of_lookup {sequences : List (ℕ × List ℕ)} {ns : List ℕ}
    (h : ∀ e ∈ sequences, e.2 ≠ [] ∧ ∀ n ∈ e.2, (ofNat n).IsSolid)
    (hlookup : sequences.lookup c.toNat = some ns) : c.Becomes (ns.map ofNat) := by
  obtain ⟨before, after, hsequences, -⟩ := List.lookup_eq_some_iff.1 hlookup
  obtain ⟨hne, hsolid⟩ := h (c.toNat, ns) (by simp [hsequences])
  exact ⟨by simpa using hne, List.forall_mem_map.2 fun n hn => .inr (hsolid n hn)⟩

theorem becomes_upper (c : CodePoint) : c.Becomes c.upper := by
  unfold upper
  split
  · next hlookup => exact becomes_of_lookup (by decide +kernel) hlookup
  · exact becomes_singleton (ofNat_apply_eq_or CaseTable.isSolid_upperTable c)

theorem becomes_title (c : CodePoint) : c.Becomes c.title := by
  unfold title
  split
  · next hlookup => exact becomes_of_lookup (by decide +kernel) hlookup
  · exact becomes_upper c

end CodePoint

/-! ## Texts -/

namespace Text

variable {t u : Text} {c d : CodePoint}

/-- The characters of a text become those of another one. -/
inductive Recased : Text → Text → Prop
  | nil : Recased [] []
  | cons {c : CodePoint} {piece t u : Text} (hc : c.Becomes piece) (ht : Recased t u) :
      Recased (c :: t) (piece ++ u)

theorem recased_toLowerAfter (before t : Text) : Recased t (toLowerAfter before t) := by
  induction t generalizing before with
  | nil => exact .nil
  | cons c t ih =>
      refine .cons ?_ (ih (c :: before))
      split
      · refine CodePoint.becomes_singleton (.inr ?_)
        split <;> decide
      · split
        · exact ⟨List.cons_ne_nil _ _, fun d hd => .inr (by revert d; decide)⟩
        · exact CodePoint.becomes_lower c

theorem recased_capitalize (t : Text) : Recased t (capitalize t) := by
  cases t with
  | nil => exact .nil
  | cons c t => exact .cons (CodePoint.becomes_title c) (recased_toLowerAfter [c] t)

namespace Recased

theorem mem (h : Recased t u) (hd : d ∈ u) : d ∈ t ∨ d.IsSolid := by
  induction h with
  | nil => cases hd
  | cons hc ht ih =>
      rcases List.mem_append.1 hd with hd | hd
      · exact (hc.2 d hd).imp_left fun h => List.mem_cons.2 (.inl h)
      · exact (ih hd).imp_left (List.mem_cons_of_mem _)

theorem head? (h : Recased t u) (hc : t.head? = some c) :
    ∃ d, u.head? = some d ∧ (d = c ∨ d.IsSolid) := by
  cases h with
  | nil => cases hc
  | @cons c piece t u hpiece ht =>
      obtain rfl := Option.some.inj hc
      obtain ⟨d, rest, rfl⟩ := List.exists_cons_of_ne_nil hpiece.1
      exact ⟨d, rfl, hpiece.2 d (List.mem_cons_self ..)⟩

theorem getLast? (h : Recased t u) (hc : t.getLast? = some c) :
    ∃ d, u.getLast? = some d ∧ (d = c ∨ d.IsSolid) := by
  induction h with
  | nil => cases hc
  | @cons b piece t u hpiece ht ih =>
      cases t with
      | nil =>
          cases ht
          obtain rfl := Option.some.inj hc
          rw [List.append_nil]
          have hlast := List.getLast?_eq_some_getLast hpiece.1
          exact ⟨_, hlast, hpiece.2 _ (List.getLast_mem _)⟩
      | cons e t =>
          rw [List.getLast?_cons_cons] at hc
          obtain ⟨d, hd, hdc⟩ := ih hc
          refine ⟨d, ?_, hdc⟩
          rw [List.getLast?_append_of_ne_nil _ (by rintro rfl; cases hd), hd]

theorem isEncodable (h : Recased t u) (ht : t.isEncodable = true) : u.isEncodable = true := by
  refine List.all_eq_true.2 fun d hd => ?_
  rcases h.mem hd with hd | hd
  · exact List.all_eq_true.1 ht d hd
  · rw [hd.2]
    rfl

theorem notMem (h : Recased t u) (hc : c.isBlank = true) (ht : c ∉ t) : c ∉ u := by
  intro hu
  rcases h.mem hu with hu | hu
  · exact ht hu
  · exact absurd (hc.symm.trans hu.1) nofun

/-- A trimmed text stays trimmed, and one that says something goes on saying something. -/
theorem trim (h : Recased t u) (ht : Text.trim t = t) (hblank : t.isBlank = false) :
    Text.trim u = u ∧ u.isBlank = false := by
  have hne : t ≠ [] := by
    rintro rfl
    cases hblank
  have hsolid {b d : CodePoint} (hb : b.isBlank = false) (hd : d = b ∨ d.IsSolid) :
      d.isBlank = false := by
    rcases hd with rfl | hd
    · exact hb
    · exact hd.1
  obtain ⟨d, hhead, hd⟩ := h.head? (List.head?_eq_some_head hne)
  obtain ⟨e, hlast, he⟩ := h.getLast? (List.getLast?_eq_some_getLast hne)
  have hfirst : (t.head hne).isBlank = false :=
    isBlank_of_head?_trim ((congrArg _ ht).trans (List.head?_eq_some_head hne))
  have hend : (t.getLast hne).isBlank = false :=
    isBlank_of_getLast?_trim ((congrArg _ ht).trans (List.getLast?_eq_some_getLast hne))
  have hd := hsolid hfirst hd
  refine ⟨trim_eq_self hd (hsolid hend he) hhead hlast, Bool.eq_false_iff.2 fun hu => ?_⟩
  exact absurd ((isBlank_iff.1 hu d (List.mem_of_head? hhead)).symm.trans hd) nofun

end Recased

end Text

end HelpCenter

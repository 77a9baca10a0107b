import HelpCenter.Proofs.Json.Strings
import HelpCenter.Text.Utf16
import Mathlib.Data.List.Chain

/-!
# Surrogate pairs

Joining the pairs of a text leaves its units as they are (`units_joinPairs`) and leaves no pair
behind (`isChain_joinPairs`), so what has no pair stays the same (`joinPairs_eq_self_iff`).
-/

namespace HelpCenter

namespace CodePoint

variable {c d : CodePoint}

theorem ofChar_toChar (h : c.isSurrogate = false) : ofChar c.toChar = c := by
  have hvalid : c.toNat.isValidChar := by
    have hlt := c.isLt
    simp only [isSurrogate, Bool.and_eq_false_iff, decide_eq_false_iff_not] at h
    simp only [Nat.isValidChar]
    omega
  refine ext ?_
  show c.toChar.toNat = c.toNat
  rw [toChar, h, if_neg (by decide), Char.ofNat, dif_pos hvalid]
  rfl

theorem isHigh_iff : c.isHigh = true ↔ 0xD800 ≤ c.toNat ∧ c.toNat ≤ 0xDBFF := by
  simp [isHigh]

theorem isLow_iff : c.isLow = true ↔ 0xDC00 ≤ c.toNat ∧ c.toNat ≤ 0xDFFF := by
  simp [isLow]

theorem toNat_ofPair (hc : c.isHigh = true) (hd : d.isLow = true) :
    (ofPair c d).toNat = 0x10000 + (c.toNat - 0xD800) * 0x400 + (d.toNat - 0xDC00) := by
  rw [isHigh_iff] at hc
  rw [isLow_iff] at hd
  exact toNat_ofNat (by omega)

theorem units_of_lt (h : c.toNat < 0x10000) : c.units = [c.toNat] := if_pos h

theorem units_ne_nil (c : CodePoint) : c.units ≠ [] := by
  unfold units
  split <;> exact List.cons_ne_nil _ _

theorem units_ofPair (hc : c.isHigh = true) (hd : d.isLow = true) :
    (ofPair c d).units = [c.toNat, d.toNat] := by
  have hpair := toNat_ofPair hc hd
  rw [isHigh_iff] at hc
  rw [isLow_iff] at hd
  rw [units, if_neg (by omega), hpair, List.cons.injEq, List.cons.injEq]
  exact ⟨by omega, by omega, rfl⟩

end CodePoint

namespace Text

@[simp]
theorem units_cons (c : CodePoint) (t : Text) : units (c :: t) = c.units ++ units t := rfl

theorem units_append (s t : Text) : units (s ++ t) = units s ++ units t := List.flatMap_append

theorem units_joinPairs (t : Text) : (joinPairs t).units = t.units := by
  induction t using joinPairs.induct with
  | case1 => rfl
  | case2 c => rfl
  | case3 c d rest h ih =>
      rw [joinPairs, if_pos h]
      obtain ⟨hc, hd⟩ := Bool.and_eq_true_iff.1 h
      have hlow := (CodePoint.isLow_iff.1 hd).2
      have hhigh := (CodePoint.isHigh_iff.1 hc).2
      rw [units_cons, ih, CodePoint.units_ofPair hc hd, units_cons, units_cons,
        CodePoint.units_of_lt (by omega), CodePoint.units_of_lt (by omega)]
      rfl
  | case4 c d rest h ih => rw [joinPairs, if_neg h, units_cons, ih, ← units_cons]

/-- The characters are not the halves of a pair. -/
def NoPair (c d : CodePoint) : Prop := ¬ (c.isHigh && d.isLow) = true

/-- A joined text begins as before or with a character beyond the surrogates. -/
theorem head?_joinPairs {c d : CodePoint} {rest : Text}
    (h : (joinPairs (c :: rest)).head? = some d) : d = c ∨ 0x10000 ≤ d.toNat := by
  cases rest with
  | nil => exact .inl (Option.some.inj h).symm
  | cons e rest =>
      rw [joinPairs] at h
      split at h
      · next hpair =>
          obtain ⟨hc, he⟩ := Bool.and_eq_true_iff.1 hpair
          obtain rfl := Option.some.inj h
          refine .inr ?_
          rw [CodePoint.toNat_ofPair hc he]
          omega
      · exact .inl (Option.some.inj h).symm

theorem isChain_joinPairs (t : Text) : (joinPairs t).IsChain NoPair := by
  induction t using joinPairs.induct with
  | case1 => exact .nil
  | case2 c => exact .singleton c
  | case3 c d rest h ih =>
      rw [joinPairs, if_pos h]
      obtain ⟨hc, hd⟩ := Bool.and_eq_true_iff.1 h
      refine List.isChain_cons.2 ⟨fun e _ hpair => ?_, ih⟩
      -- the joined character is no half of a pair itself
      have hhigh := CodePoint.isHigh_iff.1 (Bool.and_eq_true_iff.1 hpair).1
      rw [CodePoint.toNat_ofPair hc hd] at hhigh
      omega
  | case4 c d rest h ih =>
      rw [joinPairs, if_neg h]
      refine List.isChain_cons.2 ⟨fun e he hpair => ?_, ih⟩
      obtain ⟨hc, hlow⟩ := Bool.and_eq_true_iff.1 hpair
      rcases head?_joinPairs he with rfl | hlarge
      · exact h (Bool.and_eq_true_iff.2 ⟨hc, hlow⟩)
      · have := CodePoint.isLow_iff.1 hlow
        omega

theorem joinPairs_eq_self_iff {t : Text} : joinPairs t = t ↔ t.IsChain NoPair := by
  refine ⟨fun h => h ▸ isChain_joinPairs t, fun h => ?_⟩
  induction t using joinPairs.induct with
  | case1 => rfl
  | case2 c => rfl
  | case3 c d rest hpair ih => exact absurd hpair (List.isChain_cons_cons.1 h).1
  | case4 c d rest hpair ih => rw [joinPairs, if_neg hpair, ih (List.isChain_cons_cons.1 h).2]

end Text

end HelpCenter

import HelpCenter.Number.Binary64
import Mathlib.Algebra.Order.Ring.Nat
import Mathlib.Tactic.Linarith
import Mathlib.Tactic.Ring

/-!
# Rounding to doubles

A quotient that lies closer to a finite double than half of the distance to its neighbours is
rounded to it (`ofUnits_eq_finite`).  The neighbour below a power of two is only half as far, which
is why the bound from below has a second part.
-/

namespace HelpCenter

theorem roundHalfEven_eq {num den m : ℕ} (hi : 2 * num < (2 * m + 1) * den)
    (lo : 2 * m * den < 2 * num + den) : roundHalfEven num den = m := by
  have hd : 0 < den := Nat.pos_of_ne_zero fun h => by simp [h] at hi
  have hnum := Nat.div_add_mod num den
  have hr := Nat.mod_lt num hd
  unfold roundHalfEven
  generalize num / den = q at *
  generalize num % den = r at *
  have hqm : q ≤ m := by
    by_contra h
    have : den * (m + 1) ≤ den * q := Nat.mul_le_mul_left den (by omega)
    nlinarith
  have hmq : m ≤ q + 1 := by
    by_contra h
    have : den * (q + 2) ≤ den * m := Nat.mul_le_mul_left den (by omega)
    nlinarith
  rcases Nat.lt_or_eq_of_le hqm with h | rfl
  · obtain rfl : m = q + 1 := by omega
    have : den < 2 * r := by nlinarith
    simp only [if_neg (by omega : ¬ 2 * r < den), if_pos this]
  · have : 2 * r < den := by nlinarith
    simp only [if_pos this]

namespace Binary64

theorem ofParts_eq_finite (neg : Bool) {m e : ℕ} (h : Canonical m e) :
    ofParts neg m e = .finite neg m e h := dif_pos h

theorem ofUnits_zero (neg : Bool) (den : Nat) : ofUnits neg 0 den = zero neg := by
  unfold ofUnits
  simp [roundHalfEven, ofParts, Canonical, zero]

theorem ofInt_zero : ofInt 0 = zero false := by
  unfold ofInt ofRatio
  rw [Int.natAbs_zero, Nat.zero_mul]
  exact ofUnits_zero _ _

/-- Rounding to a mantissa of a known exponent. -/
theorem ofUnits_of_exponent {neg : Bool} {num den k m : ℕ}
    (hk : Nat.log2 (num / den) + 1 - 53 = k) (hi : 2 * num < (2 * m + 1) * (den * 2 ^ k))
    (lo : 2 * m * (den * 2 ^ k) < 2 * num + den * 2 ^ k) :
    ofUnits neg num den =
      if m = 2 ^ 53 then ofParts neg (2 ^ 52) (k + 1) else ofParts neg m k := by
  unfold ofUnits
  rw [hk]
  exact congrArg (fun m => if m = 2 ^ 53 then ofParts neg (2 ^ 52) (k + 1) else ofParts neg m k)
    (roundHalfEven_eq hi lo)

/-- The exponent of a quotient that is written with 53 bits. -/
theorem exponent_eq {num den k : ℕ} (hd : 0 < den) (lo : den * 2 ^ k * 2 ^ 52 ≤ num)
    (hi : num < den * 2 ^ k * 2 ^ 53) : Nat.log2 (num / den) + 1 - 53 = k := by
  have lo' : 2 ^ (k + 52) ≤ num / den := by
    rw [Nat.le_div_iff_mul_le hd, pow_add]
    calc 2 ^ k * 2 ^ 52 * den = den * 2 ^ k * 2 ^ 52 := by ring
      _ ≤ num := lo
  have hi' : num / den < 2 ^ (k + 52 + 1) := by
    rw [Nat.div_lt_iff_lt_mul hd, pow_succ, pow_add]
    calc num < den * 2 ^ k * 2 ^ 53 := hi
      _ = 2 ^ k * 2 ^ 52 * 2 * den := by ring
  rw [(Nat.log2_eq_iff (Nat.ne_of_gt (Nat.lt_of_lt_of_le (Nat.two_pow_pos _) lo'))).2 ⟨lo', hi'⟩]
  omega

/-- A small quotient has the least exponent. -/
theorem exponent_eq_zero {num den : ℕ} (hd : 0 < den) (hi : num < den * 2 ^ 53) :
    Nat.log2 (num / den) + 1 - 53 = 0 := by
  have h : num / den < 2 ^ 53 := by
    rw [Nat.div_lt_iff_lt_mul hd]
    exact hi.trans_eq (Nat.mul_comm ..)
  rcases Nat.eq_zero_or_pos (num / den) with h' | h'
  · rw [h', Nat.log2_zero]
  · have := (Nat.log2_lt (Nat.ne_of_gt h')).2 h
    omega

/-- A quotient just below a power of two has the next lower exponent and is rounded up. -/
theorem ofUnits_below_power {neg : Bool} {num den k : ℕ} (hd : 0 < den)
    (lo : 4 * 2 ^ 52 * (2 * (den * 2 ^ k)) < 4 * num + 2 * (den * 2 ^ k))
    (hi : num < 2 * (den * 2 ^ k) * 2 ^ 52) :
    ofUnits neg num den = ofParts neg (2 ^ 52) (k + 1) := by
  have hpos : 0 < den * 2 ^ k := Nat.mul_pos hd (Nat.two_pow_pos k)
  generalize hu : den * 2 ^ k = u at lo hi hpos
  have low : u * 2 ^ 52 ≤ num := by omega
  have high : num < u * 2 ^ 53 := by linarith
  have hk : Nat.log2 (num / den) + 1 - 53 = k := exponent_eq hd (hu ▸ low) (hu ▸ high)
  have hi' : 2 * num < (2 * 2 ^ 53 + 1) * u := by omega
  have lo' : 2 * 2 ^ 53 * u < 2 * num + u := by omega
  rw [ofUnits_of_exponent hk (hu ▸ hi') (hu ▸ lo'), if_pos rfl]

/-- A quotient near a finite double is rounded to it. -/
theorem ofUnits_eq_finite {neg : Bool} {num den m e : ℕ} (h : Canonical m e)
    (hi : 2 * num < (2 * m + 1) * (den * 2 ^ e))
    (lo : 2 * m * (den * 2 ^ e) < 2 * num + den * 2 ^ e)
    (least : m = 2 ^ 52 → 4 * m * (den * 2 ^ e) < 4 * num + den * 2 ^ e) :
    ofUnits neg num den = .finite neg m e h := by
  have ⟨hm, _, he⟩ := h
  have hd : 0 < den := Nat.pos_of_ne_zero fun h => by simp [h] at hi
  rw [← ofParts_eq_finite neg h]
  have hm53 : m ≠ 2 ^ 53 := Nat.ne_of_lt hm
  rcases Nat.eq_zero_or_pos e with rfl | hpos
  · have : num < den * 2 ^ 53 := by
      have : (2 * m + 1) * (den * 2 ^ 0) ≤ 2 ^ 54 * (den * 2 ^ 0) :=
        Nat.mul_le_mul_right _ (by omega)
      omega
    rw [ofUnits_of_exponent (exponent_eq_zero hd this) hi lo, if_neg hm53]
  · have hm52 : 2 ^ 52 ≤ m := he.resolve_left (Nat.ne_of_gt hpos)
    have hnum : num < den * 2 ^ e * 2 ^ 53 := by
      have : (2 * m + 1) * (den * 2 ^ e) ≤ 2 ^ 54 * (den * 2 ^ e) :=
        Nat.mul_le_mul_right _ (by omega)
      omega
    rcases Nat.lt_or_ge num (den * 2 ^ e * 2 ^ 52) with hlt | hge
    · obtain ⟨k, rfl⟩ : ∃ k, e = k + 1 := ⟨e - 1, by omega⟩
      obtain rfl : m = 2 ^ 52 := by
        by_contra hne
        have : (2 ^ 52 + 1) * (den * 2 ^ (k + 1)) ≤ m * (den * 2 ^ (k + 1)) :=
          Nat.mul_le_mul_right _ (by omega)
        nlinarith
      have least := least rfl
      have hD : den * 2 ^ (k + 1) = 2 * (den * 2 ^ k) := by rw [pow_succ]; ring
      rw [hD] at least hlt
      exact ofUnits_below_power hd least hlt
    · rw [ofUnits_of_exponent (exponent_eq hd hge hnum) hi lo, if_neg hm53]

/-- Only the value of the quotient matters. -/
theorem ofUnits_mul_right (neg : Bool) (num den : ℕ) {k : ℕ} (hk : 0 < k) :
    ofUnits neg (num * k) (den * k) = ofUnits neg num den := by
  have hdiv : num * k / (den * k) = num / den := Nat.mul_div_mul_right _ _ hk
  have hround (d : ℕ) : roundHalfEven (num * k) (d * k) = roundHalfEven num d := by
    unfold roundHalfEven
    rw [Nat.mul_div_mul_right _ _ hk, Nat.mul_mod_mul_right]
    simp only [← Nat.mul_assoc, Nat.mul_lt_mul_right hk]
  unfold ofUnits
  rw [hdiv]
  generalize Nat.log2 (num / den) + 1 - 53 = e
  simp only [Nat.mul_right_comm den k, hround]

end Binary64

end HelpCenter

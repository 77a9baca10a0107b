import HelpCenter.Number.Decimal
import HelpCenter.Proofs.Number.Digits
import HelpCenter.Proofs.Number.Rounding
import Mathlib.Algebra.Order.Field.Rat
import Mathlib.Algebra.Order.Field.Power
import Mathlib.Tactic.FieldSimp
import Mathlib.Tactic.Positivity

/-!
# The shortest decimal of a double

Seventeen digits suffice for every double (`ofDecimal_near`), so the search for the shortest decimal
always ends with one that reads back (`ofDecimal_shortest`).
-/

namespace HelpCenter

namespace Binary64

/-! ## Decimal places -/

theorem ten_zpow_pos (k : ℤ) : (0 : ℚ) < 10 ^ k := zpow_pos (by norm_num) k

theorem ten_zpow_lt {j k : ℤ} (h : (10 : ℚ) ^ j < 10 ^ k) : j < k :=
  (zpow_lt_zpow_iff_right₀ (by norm_num)).1 h

/-- The digits of a whole quotient bound what is divided. -/
theorem exists_digitCount_div {n d : ℕ} (hd : 0 < d) (h : d ≤ n) :
    ∃ k, digitCount (n / d) = k + 1 ∧ 10 ^ k * d ≤ n ∧ n < 10 ^ (k + 1) * d := by
  have hq : 0 < n / d := Nat.div_pos h hd
  obtain ⟨k, hk⟩ := Nat.exists_eq_add_one.2 (digitCount_pos hq)
  have lo : 10 ^ (digitCount (n / d) - 1) * d ≤ n :=
    (Nat.mul_le_mul_right d (ten_pow_digitCount_le hq)).trans (Nat.div_mul_le_self n d)
  have hi : n < 10 ^ digitCount (n / d) * d :=
    (Nat.div_lt_iff_lt_mul hd).1 (lt_ten_pow_digitCount _)
  rw [hk] at lo hi
  exact ⟨k, hk, lo, hi⟩

/-- The first digit of a quotient stands at its leading place. -/
theorem leadingPlace_spec {num den : ℕ} (hn : 0 < num) (hd : 0 < den) :
    (10 : ℚ) ^ leadingPlace num den ≤ num / den ∧
      (num / den : ℚ) < 10 ^ (leadingPlace num den + 1) := by
  have hn' : (0 : ℚ) < num := by exact_mod_cast hn
  have hd' : (0 : ℚ) < den := by exact_mod_cast hd
  unfold leadingPlace
  split
  · next h =>
    obtain ⟨k, hk, lo, hi⟩ := exists_digitCount_div hd h
    have e : ((k + 1 : ℕ) : ℤ) - 1 = k := by push_cast; ring
    have e' : (k : ℤ) + 1 = (k + 1 : ℕ) := by push_cast; rfl
    rw [hk, le_div_iff₀ hd', div_lt_iff₀ hd', e, e', zpow_natCast, zpow_natCast]
    exact ⟨by exact_mod_cast lo, by exact_mod_cast hi⟩
  · next h =>
    -- the digits of the inverse give the place, but for the powers of ten, which stand one higher
    obtain ⟨k, hk, lo, hi⟩ := exists_digitCount_div hn (Nat.le_of_not_le h)
    have lo' : (10 : ℚ) ^ k * num ≤ den := by exact_mod_cast lo
    have hi' : (den : ℚ) < 10 ^ (k + 1) * num := by exact_mod_cast hi
    rw [hk]
    dsimp only
    have hk' : (-(-((k + 1 : ℕ) : ℤ)) - 1).toNat = k := by omega
    rw [hk', Nat.pow_eq, le_div_iff₀ hd', div_lt_iff₀ hd']
    split
    · next hlt =>
      have hlt' : (num : ℚ) * 10 ^ k < den := by exact_mod_cast hlt
      have e : -((k + 1 : ℕ) : ℤ) + 1 = -(k : ℤ) := by push_cast; ring
      rw [e, zpow_neg, zpow_neg, zpow_natCast, zpow_natCast]
      constructor
      · rw [inv_mul_le_iff₀ (by positivity)]
        exact hi'.le
      · rw [lt_inv_mul_iff₀ (by positivity)]
        linarith
    · next hge =>
      have heq : (num : ℚ) * 10 ^ k = den := by
        have : num * 10 ^ k = den := by rw [Nat.mul_comm] at lo; omega
        exact_mod_cast this
      have e : -((k + 1 : ℕ) : ℤ) + 1 = -(k : ℤ) := by push_cast; ring
      rw [e, ← heq, zpow_add₀ (by norm_num), zpow_neg, zpow_natCast, zpow_one]
      constructor
      · exact le_of_eq (by field_simp)
      · calc (num : ℚ) < num * 10 := by linarith
          _ = (10 ^ k)⁻¹ * 10 * (num * 10 ^ k) := by field_simp

/-- The fraction that counts in units of a power of ten. -/
theorem inDecimalUnits_spec (num : ℕ) {den : ℕ} (hd : 0 < den) (E : ℤ) :
    0 < (inDecimalUnits num den E).2 ∧
      ((inDecimalUnits num den E).1 / (inDecimalUnits num den E).2 : ℚ) * 10 ^ E = num / den := by
  have hd' : (den : ℚ) ≠ 0 := by exact_mod_cast hd.ne'
  unfold inDecimalUnits
  split
  · next h =>
    obtain ⟨k, rfl⟩ := Int.eq_ofNat_of_zero_le h
    refine ⟨Nat.mul_pos hd (Nat.pow_pos (by norm_num)), ?_⟩
    simp only [Nat.pow_eq, Int.toNat_natCast, zpow_natCast]
    push_cast
    field_simp
  · next h =>
    obtain ⟨k, hk⟩ := Int.eq_ofNat_of_zero_le (by omega : 0 ≤ -E)
    obtain rfl : E = -(k : ℤ) := by omega
    refine ⟨hd, ?_⟩
    simp only [Nat.pow_eq, neg_neg, Int.toNat_natCast, zpow_neg, zpow_natCast]
    push_cast
    field_simp

/-! ## Rounding back -/

/-- A quotient that agrees with a double in sixteen places is rounded to it. -/
theorem ofUnits_near {neg : Bool} {num den m e : ℕ} (h : Canonical m e) (hd : 0 < den)
    (hi : ((num : ℚ) / den - m * 2 ^ e) * (2 * 10 ^ 16) ≤ m * 2 ^ e)
    (lo : ((m : ℚ) * 2 ^ e - num / den) * (2 * 10 ^ 16) ≤ m * 2 ^ e) :
    ofUnits neg num den = .finite neg m e h := by
  have hd' : (0 : ℚ) < den := by exact_mod_cast hd
  have hu : (0 : ℚ) < 2 ^ e := by positivity
  have hm : (m : ℚ) < 2 ^ 53 := by exact_mod_cast h.1
  have hmu : (m : ℚ) * 2 ^ e < 2 ^ 53 * 2 ^ e := mul_lt_mul_of_pos_right hm hu
  have hnum : (num : ℚ) = num / den * den := (div_mul_cancel₀ _ hd'.ne').symm
  generalize (num : ℚ) / den = w at hi lo hnum
  refine ofUnits_eq_finite h ?_ ?_ fun hm52 => ?_
  · have : 2 * (w * den) < (2 * m + 1) * (den * 2 ^ e) := by
      have : w < m * 2 ^ e + 2 ^ e / 2 := by linarith
      nlinarith
    rw [← hnum] at this
    exact_mod_cast this
  · have : 2 * m * (den * 2 ^ e) < 2 * (w * den) + den * 2 ^ e := by
      have : (m : ℚ) * 2 ^ e < w + 2 ^ e / 2 := by linarith
      nlinarith
    rw [← hnum] at this
    exact_mod_cast this
  · have : 4 * m * (den * 2 ^ e) < 4 * (w * den) + den * 2 ^ e := by
      have hm' : (m : ℚ) = 2 ^ 52 := by exact_mod_cast hm52
      have : (m : ℚ) * 2 ^ e < w + 2 ^ e / 4 := by
        rw [hm'] at lo ⊢
        linarith
      nlinarith
    rw [← hnum] at this
    exact_mod_cast this

/-- A decimal of a size that doubles have is rounded as the quotient that it denotes. -/
theorem ofDecimal_eq_ofRatio (neg : Bool) {n : ℕ} {E : ℤ} (hn : 0 < n)
    (lo : -330 ≤ digitCount n + E) (hi : digitCount n + E ≤ 310) :
    ∃ num den : ℕ, 0 < den ∧ (num / den : ℚ) = n * 10 ^ E ∧
      ofDecimal neg n E = ofRatio neg num den := by
  unfold ofDecimal
  have h₁ : ¬ (n = 0 ∨ (digitCount n : ℤ) + E < -330) := by omega
  have h₂ : ¬ 310 < (digitCount n : ℤ) + E := by omega
  simp only [Bool.or_eq_true, decide_eq_true_eq, if_neg h₁, if_neg h₂]
  split
  · next h =>
    obtain ⟨k, rfl⟩ := Int.eq_ofNat_of_zero_le h
    refine ⟨_, 1, Nat.one_pos, ?_, rfl⟩
    simp only [Nat.pow_eq, Int.toNat_natCast, zpow_natCast]
    push_cast
    ring
  · next h =>
    obtain ⟨k, hk⟩ := Int.eq_ofNat_of_zero_le (by omega : 0 ≤ -E)
    obtain rfl : E = -(k : ℤ) := by omega
    refine ⟨n, _, Nat.pow_pos (by norm_num), ?_, rfl⟩
    simp only [neg_neg, Int.toNat_natCast, zpow_neg, zpow_natCast]
    push_cast
    field_simp

theorem cast_of_eq_two_pow {n k : ℕ} (h : n = Nat.pow 2 k) : (n : ℚ) = 2 ^ k := by simp [h]

theorem cast_one : ((one : ℕ) : ℚ) = 2 ^ 1074 := cast_of_eq_two_pow rfl

theorem one_pos : 0 < one := Nat.pos_of_ne_zero fun h => by
  have := cast_one
  rw [h] at this
  exact absurd this.symm (pow_ne_zero _ (by norm_num))

theorem two_pow_1074_lt : (2 : ℚ) ^ 1074 < 10 ^ 324 := by
  have h : 2 ^ 1074 < 10 ^ 324 := by decide +kernel
  exact_mod_cast h

theorem two_pow_1024_lt : (2 : ℚ) ^ 1024 < 10 ^ 309 := by
  have h : 2 ^ 1024 < 10 ^ 309 := by decide +kernel
  exact_mod_cast h

/-- The magnitude of a finite double. -/
def magnitude (m e : ℕ) : ℚ := m * 2 ^ e / 2 ^ 1074

variable {m e : ℕ}

theorem magnitude_lt (h : Canonical m e) : magnitude m e < 10 ^ (309 : ℤ) := by
  have hm : (m : ℚ) < 2 ^ 53 := by exact_mod_cast h.1
  have he : (2 : ℚ) ^ e ≤ 2 ^ 2045 := pow_le_pow_right₀ (by norm_num) h.2.1
  have hlt : (m : ℚ) * 2 ^ e < 2 ^ 53 * 2 ^ 2045 :=
    mul_lt_mul hm he (by positivity) (by positivity)
  have hp : (2 : ℚ) ^ 53 * 2 ^ 2045 = 2 ^ 1024 * 2 ^ 1074 := by rw [← pow_add, ← pow_add]
  rw [magnitude, div_lt_iff₀ (by positivity)]
  calc (m : ℚ) * 2 ^ e < 2 ^ 1024 * 2 ^ 1074 := hlt.trans_eq hp
    _ ≤ 10 ^ (309 : ℤ) * 2 ^ 1074 :=
      mul_le_mul_of_nonneg_right two_pow_1024_lt.le (by positivity)

theorem lt_magnitude (hm : 0 < m) : 10 ^ (-324 : ℤ) < magnitude m e := by
  have hm' : (1 : ℚ) ≤ m := by exact_mod_cast hm
  have he : (1 : ℚ) ≤ 2 ^ e := one_le_pow₀ (by norm_num)
  rw [magnitude, lt_div_iff₀ (by positivity), zpow_neg]
  calc (10 ^ (324 : ℤ))⁻¹ * (2 : ℚ) ^ 1074 < (10 ^ (324 : ℤ))⁻¹ * 10 ^ 324 :=
      mul_lt_mul_of_pos_left two_pow_1074_lt (by positivity)
    _ = 1 := inv_mul_cancel₀ (by positivity)
    _ ≤ m * 2 ^ e := one_le_mul_of_one_le_of_one_le hm' he

/-- A decimal with seventeen digits that is nearest to a double is rounded to it. -/
theorem ofDecimal_near {neg : Bool} {n : ℕ} {E : ℤ} (h : Canonical m e) (hm : 0 < m)
    (below : 10 ^ E * 10 ^ 16 ≤ magnitude m e) (above : magnitude m e < 10 ^ E * 10 ^ 17)
    (hi : n * 10 ^ E - magnitude m e ≤ 10 ^ E / 2)
    (lo : magnitude m e - n * 10 ^ E ≤ 10 ^ E / 2) :
    ofDecimal neg n E = .finite neg m e h := by
  have hE := ten_zpow_pos E
  have n_lt : n < 10 ^ 17 + 1 := by
    have : (n : ℚ) < 10 ^ 17 + 1 := by nlinarith
    exact_mod_cast this
  have lt_n : 10 ^ 16 < n + 1 := by
    have : (10 : ℚ) ^ 16 < n + 1 := by nlinarith
    exact_mod_cast this
  have hn : 0 < n := by omega
  have digits_ge : 17 ≤ digitCount n := by
    by_contra hlt
    have := (lt_ten_pow_digitCount n).trans_le
      (Nat.pow_le_pow_right (by norm_num) (by omega : digitCount n ≤ 16))
    omega
  have digits_le : digitCount n ≤ 18 := by
    by_contra hgt
    have := (Nat.pow_le_pow_right (by norm_num) (by omega : 18 ≤ digitCount n - 1)).trans
      (ten_pow_digitCount_le hn)
    omega
  have E_lt : E + 16 < 309 := by
    refine ten_zpow_lt ?_
    rw [zpow_add₀ (by norm_num)]
    exact below.trans_lt (magnitude_lt h)
  have lt_E : -324 < E + 17 := by
    refine ten_zpow_lt ((lt_magnitude (e := e) hm).trans ?_)
    rw [zpow_add₀ (by norm_num)]
    exact above
  obtain ⟨num, den, hd, hq, hr⟩ := ofDecimal_eq_ofRatio neg hn (E := E) (by omega) (by omega)
  have hw : ((num * one : ℕ) : ℚ) / den = n * 10 ^ E * 2 ^ 1074 := by
    rw [Nat.cast_mul, cast_one, mul_div_right_comm, hq]
  have hv : (m : ℚ) * 2 ^ e = magnitude m e * 2 ^ 1074 :=
    (div_mul_cancel₀ _ (by positivity)).symm
  have hu : (0 : ℚ) < 2 ^ 1074 := by positivity
  rw [hr]
  refine ofUnits_near h hd ?_ ?_
  · rw [hw, hv, ← sub_mul, mul_right_comm]
    exact mul_le_mul_of_nonneg_right (by linarith) hu.le
  · rw [hw, hv, ← sub_mul, mul_right_comm]
    exact mul_le_mul_of_nonneg_right (by linarith) hu.le

/-! ## The search -/

/-- The quotient rounded to an integer, either way in the middle. -/
def IsNearer (a b n : ℕ) : Prop :=
  (n = a / b ∧ 2 * (a % b) ≤ b) ∨ (n = a / b + 1 ∧ b ≤ 2 * (a % b))

theorem IsNearer.spec {a b n : ℕ} (hb : 0 < b) (h : IsNearer a b n) :
    (n : ℚ) - a / b ≤ 1 / 2 ∧ (a / b : ℚ) - n ≤ 1 / 2 := by
  have hb' : (0 : ℚ) < b := by exact_mod_cast hb
  have ha : (a : ℚ) / b = (a / b : ℕ) + (a % b : ℕ) / b := by
    rw [eq_comm, ← eq_sub_iff_add_eq', div_eq_iff hb'.ne', sub_mul, div_mul_cancel₀ _ hb'.ne',
      eq_sub_iff_add_eq']
    exact_mod_cast Nat.div_add_mod' a b
  rw [ha]
  rcases h with ⟨rfl, hr⟩ | ⟨rfl, hr⟩
  · have hr' : (2 : ℚ) * (a % b : ℕ) ≤ b := by exact_mod_cast hr
    have half : ((a % b : ℕ) : ℚ) / b ≤ 1 / 2 := by
      rw [div_le_div_iff₀ hb' (by norm_num)]
      linarith
    have pos : (0 : ℚ) ≤ (a % b : ℕ) / b := by positivity
    constructor <;> linarith
  · have hr' : (b : ℚ) ≤ 2 * (a % b : ℕ) := by exact_mod_cast hr
    have half : 1 / 2 ≤ ((a % b : ℕ) : ℚ) / b := by
      rw [div_le_div_iff₀ (by norm_num) hb']
      linarith
    have lt : ((a % b : ℕ) : ℚ) / b ≤ 1 := by
      rw [div_le_one hb']
      exact_mod_cast (Nat.mod_lt a hb).le
    push_cast
    constructor <;> linarith

/-- The search succeeds where the nearer decimals read back. -/
theorem exists_withDigits {x : Binary64} {num den digits a b : ℕ} {E : ℤ}
    (hE : leadingPlace num den - digits + 1 = E) (hab : inDecimalUnits num den E = (a, b))
    (hits : ∀ n, IsNearer a b n → ofDecimal x.isNeg n E = x) :
    ∃ d, withDigits? x num den digits = some d := by
  unfold withDigits?
  simp only [hE, hab]
  split
  · next h =>
    have near : IsNearer a b (a / b) := by
      simp only [Bool.or_eq_true, Bool.and_eq_true, decide_eq_true_eq, beq_iff_eq] at h
      exact .inl ⟨rfl, by omega⟩
    exact ⟨⟨a / b, E⟩, by simp [hits _ near]⟩
  · next h =>
    have near : IsNearer a b (a / b + 1) := by
      simp only [Bool.or_eq_true, Bool.and_eq_true, decide_eq_true_eq, beq_iff_eq] at h
      exact .inr ⟨rfl, by omega⟩
    exact ⟨⟨a / b + 1, E⟩, by simp [hits _ near]⟩

/-- With seventeen digits the search succeeds. -/
theorem exists_withDigits_seventeen (neg : Bool) (h : Canonical m e) (hm : 0 < m) :
    ∃ d, withDigits? (.finite neg m e h) (m * 2 ^ e) one 17 = some d := by
  have hnum : 0 < m * 2 ^ e := Nat.mul_pos hm (Nat.two_pow_pos e)
  have hmag : ((m * 2 ^ e : ℕ) : ℚ) / (one : ℕ) = magnitude m e := by
    rw [cast_one, Nat.cast_mul, Nat.cast_pow, Nat.cast_ofNat]
    rfl
  obtain ⟨place_le, lt_place⟩ := leadingPlace_spec hnum one_pos
  rw [hmag] at place_le lt_place
  generalize hE : leadingPlace (m * 2 ^ e) one - (17 : ℕ) + 1 = E
  have hplace : leadingPlace (m * 2 ^ e) one = E + 16 := by
    rw [← hE]
    push_cast
    ring
  have below : (10 : ℚ) ^ E * 10 ^ 16 ≤ magnitude m e := by
    rw [hplace, zpow_add₀ (by norm_num)] at place_le
    exact place_le
  have above : magnitude m e < 10 ^ E * 10 ^ 17 := by
    rw [hplace, add_assoc, zpow_add₀ (by norm_num)] at lt_place
    exact lt_place
  obtain ⟨hb, hab⟩ := inDecimalUnits_spec (m * 2 ^ e) one_pos E
  rw [hmag] at hab
  refine exists_withDigits hE rfl fun n near => ?_
  obtain ⟨hi, lo⟩ := near.spec hb
  have hE := (ten_zpow_pos E).le
  refine ofDecimal_near h hm below above ?_ ?_
  · rw [← hab, ← sub_mul]
    exact (mul_le_mul_of_nonneg_right hi hE).trans_eq (by ring)
  · rw [← hab, ← sub_mul]
    exact (mul_le_mul_of_nonneg_right lo hE).trans_eq (by ring)

theorem withDigits_reads {x : Binary64} {num den digits : ℕ} {d : Decimal}
    (h : withDigits? x num den digits = some d) : ofDecimal x.isNeg d.digits d.exponent = x := by
  unfold withDigits? at h
  obtain ⟨n, hn, rfl⟩ := Option.map_eq_some_iff.1 h
  have hit := List.find?_some hn
  exact eq_of_beq hit

/-- If the search succeeds with the most digits that are tried, what it ends with reads back. -/
theorem shortestFrom_reads {x : Binary64} {num den : ℕ} (fuel : ℕ) :
    ∀ digits, (∃ d, withDigits? x num den (digits + fuel) = some d) →
      ofDecimal x.isNeg (shortestFrom x num den digits fuel).digits
        (shortestFrom x num den digits fuel).exponent = x := by
  induction fuel with
  | zero =>
      rintro digits ⟨d, hd⟩
      rw [shortestFrom, ← Nat.add_zero digits, hd]
      exact withDigits_reads hd
  | succ fuel ih =>
      rintro digits ⟨d, hd⟩
      rw [shortestFrom]
      cases hw : withDigits? x num den digits with
      | some d' => exact withDigits_reads hw
      | none => exact ih (digits + 1) ⟨d, by rw [← hd]; congr 1; omega⟩

/-- The shortest decimal reads back. -/
theorem ofDecimal_shortest (neg : Bool) (h : Canonical m e) (hm : 0 < m) :
    ofDecimal neg (shortest (.finite neg m e h)).digits (shortest (.finite neg m e h)).exponent =
      .finite neg m e h := by
  have hunits : (Binary64.finite neg m e h).units.natAbs = m * 2 ^ e := by
    cases neg <;> simp [units, Int.natAbs_mul, Int.natAbs_pow]
  unfold shortest
  rw [hunits]
  exact shortestFrom_reads 16 1 (exists_withDigits_seventeen neg h hm)

theorem shortest_digits_pos (neg : Bool) (h : Canonical m e) (hm : 0 < m) :
    0 < (shortest (.finite neg m e h)).digits := by
  refine Nat.pos_of_ne_zero fun hd => ?_
  have := ofDecimal_shortest neg h hm
  rw [hd, ofDecimal] at this
  simp only [decide_true, Bool.true_or, if_true, zero, finite.injEq] at this
  omega

end Binary64

end HelpCenter

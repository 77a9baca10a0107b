import HelpCenter.Number.Reading
import Mathlib.Algebra.Order.Ring.Nat
import Mathlib.Tactic.Ring
import Mathlib.Tactic.Linarith

/-!
# Decimal digits of natural numbers

The digits of a number read back as it (`digitsValue_ofNat`), and there are `digitCount` of them.
Everything is proved along `ofNat_of_ge`, which splits off the last digit.
-/

namespace HelpCenter

/-! ## Counting digits -/

theorem digitCount_zero : digitCount 0 = 0 := by
  rw [digitCount]
  rfl

theorem digitCount_of_pos {n : ℕ} (h : 0 < n) : digitCount n = digitCount (n / 10) + 1 := by
  rw [digitCount, dif_neg h.ne']

theorem digitCount_of_lt {n : ℕ} (h : 0 < n) (h' : n < 10) : digitCount n = 1 := by
  rw [digitCount_of_pos h, Nat.div_eq_of_lt h', digitCount_zero]

theorem digitCount_pos {n : ℕ} (h : 0 < n) : 0 < digitCount n := by
  rw [digitCount_of_pos h]
  exact Nat.succ_pos _

theorem digitCount_mul_ten {n : ℕ} (h : 0 < n) : digitCount (n * 10) = digitCount n + 1 := by
  rw [digitCount_of_pos (by omega), Nat.mul_div_cancel _ (by norm_num)]

theorem lt_ten_pow_digitCount (n : ℕ) : n < 10 ^ digitCount n := by
  induction n using Nat.strongRecOn with
  | ind n ih =>
      rcases Nat.eq_zero_or_pos n with rfl | h
      · simp
      · have := ih (n / 10) (by omega)
        rw [digitCount_of_pos h, pow_succ]
        omega

theorem ten_pow_digitCount_le {n : ℕ} (h : 0 < n) : 10 ^ (digitCount n - 1) ≤ n := by
  induction n using Nat.strongRecOn with
  | ind n ih =>
      rw [digitCount_of_pos h, Nat.add_sub_cancel]
      rcases Nat.eq_zero_or_pos (n / 10) with h' | h'
      · rw [h', digitCount_zero]
        exact h
      · have := ih (n / 10) (by omega) h'
        obtain ⟨k, hk⟩ := Nat.exists_eq_add_of_lt (digitCount_pos h')
        rw [hk] at this ⊢
        simp only [Nat.zero_add, Nat.add_sub_cancel] at this ⊢
        rw [pow_succ]
        omega

namespace CodePoint

/-- A digit of decimal notation. -/
def digit (n : ℕ) : CodePoint := ofChar (Nat.digitChar n)

theorem digit_toNat {n : ℕ} (h : n < 10) : (digit n).toNat = n + 48 := by
  rw [Nat.add_comm]
  exact Nat.toNat_digitChar_of_lt_ten h

theorem isDigit_digit {n : ℕ} (h : n < 10) : (digit n).isDigit = true := by
  unfold isDigit between
  rw [digit_toNat h]
  change (decide (48 ≤ n + 48) && decide (n + 48 ≤ 57)) = true
  simp
  omega

theorem digit_ne_zero {n : ℕ} (h : n < 10) (h' : 0 < n) : digit n ≠ '0' := by
  intro he
  have := congrArg CodePoint.toNat he
  rw [digit_toNat h] at this
  change n + 48 = 48 at this
  omega

end CodePoint

namespace Text

theorem ofNat_of_lt {n : ℕ} (h : n < 10) : ofNat n = [CodePoint.digit n] := by
  unfold ofNat ofString
  rw [Nat.toList_repr, Nat.toDigits_of_lt_base h]
  rfl

theorem ofNat_of_ge {n : ℕ} (h : 10 ≤ n) :
    ofNat n = ofNat (n / 10) ++ [CodePoint.digit (n % 10)] := by
  unfold ofNat ofString
  rw [Nat.toList_repr, Nat.toDigits_of_base_le (by norm_num) h, Nat.toList_repr, List.map_append]
  rfl

/-- Induction along the digits, the last one first. -/
theorem digits_induction {P : ℕ → Prop} (small : ∀ n < 10, P n)
    (large : ∀ n, 10 ≤ n → P (n / 10) → P n) (n : ℕ) : P n := by
  induction n using Nat.strongRecOn with
  | ind n ih =>
      rcases Nat.lt_or_ge n 10 with h | h
      · exact small n h
      · exact large n h (ih (n / 10) (by omega))

theorem isDigit_of_mem_ofNat {n : ℕ} {c : CodePoint} (hc : c ∈ ofNat n) : c.isDigit = true := by
  induction n using digits_induction with
  | small n h =>
      rw [ofNat_of_lt h, List.mem_singleton] at hc
      rw [hc, CodePoint.isDigit_digit h]
  | large n h ih =>
      rw [ofNat_of_ge h, List.mem_append, List.mem_singleton] at hc
      rcases hc with hc | rfl
      · exact ih hc
      · exact CodePoint.isDigit_digit (Nat.mod_lt _ (by norm_num))

theorem length_ofNat {n : ℕ} (h : 0 < n) : (ofNat n).length = digitCount n := by
  induction n using digits_induction with
  | small n hn => rw [ofNat_of_lt hn, digitCount_of_lt h hn, List.length_singleton]
  | large n hn ih =>
      rw [ofNat_of_ge hn, digitCount_of_pos h, List.length_append, ih (by omega),
        List.length_singleton]

theorem ofNat_ne_nil (n : ℕ) : ofNat n ≠ [] := by
  rcases Nat.lt_or_ge n 10 with h | h
  · simp [ofNat_of_lt h]
  · simp [ofNat_of_ge h]

/-- The first digit of a positive number is not zero. -/
theorem exists_ofNat_eq_cons {n : ℕ} (h : 0 < n) :
    ∃ c t, ofNat n = c :: t ∧ c.isDigit = true ∧ c ≠ '0' := by
  induction n using digits_induction with
  | small n hn =>
      exact ⟨_, [], ofNat_of_lt hn, CodePoint.isDigit_digit hn, CodePoint.digit_ne_zero hn h⟩
  | large n hn ih =>
      obtain ⟨c, t, ht, hc⟩ := ih (by omega)
      exact ⟨c, t ++ [CodePoint.digit (n % 10)], by rw [ofNat_of_ge hn, ht]; rfl, hc⟩

/-! ## Reading digits -/

theorem digitsValue_append (s t : Text) :
    digitsValue (s ++ t) = digitsValue s * 10 ^ t.length + digitsValue t := by
  have from_ (n : ℕ) : ∀ t : Text, t.foldl (fun n c => n * 10 + (c.toNat - 48)) n =
      n * 10 ^ t.length + digitsValue t := by
    intro t
    unfold digitsValue
    induction t generalizing n with
    | nil => simp
    | cons c t ih =>
        rw [List.foldl_cons, List.foldl_cons, ih, ih (0 * 10 + (c.toNat - 48)), List.length_cons]
        ring
  unfold digitsValue
  rw [List.foldl_append, from_]
  rfl

theorem digitsValue_ofNat (n : ℕ) : digitsValue (ofNat n) = n := by
  induction n using digits_induction with
  | small n h => simp [ofNat_of_lt h, digitsValue, CodePoint.digit_toNat h]
  | large n h ih =>
      rw [ofNat_of_ge h, digitsValue_append, ih]
      simp [digitsValue, CodePoint.digit_toNat (Nat.mod_lt n (by norm_num : 0 < 10))]
      omega

theorem digitsValue_zeros (k : ℕ) :
    digitsValue (List.replicate k ('0' : CodePoint)) = 0 := by
  induction k with
  | zero => rfl
  | succ k ih =>
      rw [List.replicate_succ', digitsValue_append, ih]
      rfl

theorem takeWhile_digits {s t : Text} (hs : ∀ c ∈ s, c.isDigit = true)
    (ht : ∀ c r, t = c :: r → c.isDigit = false) :
    (s ++ t).takeWhile CodePoint.isDigit = s ∧ (s ++ t).dropWhile CodePoint.isDigit = t := by
  rw [List.takeWhile_append_of_pos hs, List.dropWhile_append_of_pos hs]
  cases t with
  | nil => simp
  | cons c r => simp [ht c r rfl]

end Text

end HelpCenter

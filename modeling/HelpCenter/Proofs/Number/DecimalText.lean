import HelpCenter.Json.Reader
import HelpCenter.Proofs.Number.Shortest

/-!
# Doubles as text

The text of a finite double is a number of JSON with a fraction or an exponent, and reading it
gives the double back (`readsAs_magnitudeText`).  Trailing zeros can be dropped or added because
`ofDecimal` depends on the value of the decimal only (`ofDecimal_mul_ten`).
-/

namespace HelpCenter

namespace Binary64

theorem ofRatio_mul_right (neg : Bool) (num den : ℕ) {k : ℕ} (hk : 0 < k) :
    ofRatio neg (num * k) (den * k) = ofRatio neg num den := by
  unfold ofRatio
  rw [Nat.mul_right_comm, ofUnits_mul_right neg _ _ hk]

theorem ofDecimal_mul_ten (neg : Bool) {n : ℕ} (hn : 0 < n) (E : ℤ) :
    ofDecimal neg (n * 10) E = ofDecimal neg n (E + 1) := by
  have hcount : (digitCount (n * 10) : ℤ) + E = digitCount n + (E + 1) := by
    rw [digitCount_mul_ten hn]
    push_cast
    ring
  have hratio : (if 0 ≤ E then ofRatio neg (n * 10 * Nat.pow 10 E.toNat) 1
        else ofRatio neg (n * 10) (Nat.pow 10 (-E).toNat)) =
      if 0 ≤ E + 1 then ofRatio neg (n * Nat.pow 10 (E + 1).toNat) 1
        else ofRatio neg n (Nat.pow 10 (-(E + 1)).toNat) := by
    rcases Int.lt_trichotomy E (-1) with h | rfl | h
    · obtain ⟨k, rfl⟩ : ∃ k : ℕ, E = -(k + 1 : ℕ) - 1 := ⟨(-E - 2).toNat, by omega⟩
      have h₁ : (-(-((k + 1 : ℕ) : ℤ) - 1)).toNat = k + 1 + 1 := by omega
      have h₂ : (-(-((k + 1 : ℕ) : ℤ) - 1 + 1)).toNat = k + 1 := by omega
      rw [if_neg (by omega), if_neg (by omega), h₁, h₂]
      exact ofRatio_mul_right neg n (Nat.pow 10 (k + 1)) (by norm_num)
    · have h₁ : (-(-1 : ℤ)).toNat = 1 := rfl
      have h₂ : ((-1 : ℤ) + 1).toNat = 0 := rfl
      rw [if_neg (by omega), if_pos (by omega), h₁, h₂, Nat.pow_eq, Nat.pow_eq, pow_one, pow_zero,
        Nat.mul_one, ← ofRatio_mul_right neg n 1 (by norm_num : 0 < 10), Nat.one_mul]
    · obtain ⟨k, rfl⟩ := Int.eq_ofNat_of_zero_le (by omega : 0 ≤ E)
      have h₁ : ((k : ℤ) + 1).toNat = k + 1 := by omega
      rw [if_pos (by omega), if_pos (by omega), h₁, Int.toNat_natCast, Nat.pow_eq, Nat.pow_eq,
        pow_succ, Nat.mul_assoc, Nat.mul_comm 10]
  unfold ofDecimal
  simp only [hcount, hratio, (by omega : n * 10 = 0 ↔ n = 0)]

theorem ofDecimal_mul_pow (neg : Bool) {n : ℕ} (hn : 0 < n) (k : ℕ) (E : ℤ) :
    ofDecimal neg (n * 10 ^ k) E = ofDecimal neg n (E + k) := by
  induction k generalizing E with
  | zero => simp
  | succ k ih =>
      rw [pow_succ, ← Nat.mul_assoc, ofDecimal_mul_ten neg (Nat.mul_pos hn (by positivity)), ih]
      congr 1
      push_cast
      ring

theorem ofDecimal_zero (neg : Bool) (E : ℤ) : ofDecimal neg 0 E = zero neg := rfl

end Binary64

namespace Decimal

theorem strip_spec (fuel : ℕ) {d : Decimal} (hd : 0 < d.digits) :
    0 < (strip fuel d).digits ∧ ∀ neg, Binary64.ofDecimal neg (strip fuel d).digits
      (strip fuel d).exponent = Binary64.ofDecimal neg d.digits d.exponent := by
  induction fuel generalizing d with
  | zero => exact ⟨hd, fun _ => rfl⟩
  | succ fuel ih =>
      unfold strip
      split
      · next h =>
        obtain ⟨n, hn⟩ : ∃ n, d.digits = n * 10 := ⟨d.digits / 10, by omega⟩
        have hpos : 0 < d.digits / 10 := by omega
        obtain ⟨hs, hv⟩ := ih (d := ⟨d.digits / 10, d.exponent + 1⟩) hpos
        refine ⟨hs, fun neg => ?_⟩
        rw [hv, ← Binary64.ofDecimal_mul_ten neg hpos, Nat.div_mul_cancel (by omega)]
      · exact ⟨hd, fun _ => rfl⟩

theorem normalize_digits_pos {d : Decimal} (hd : 0 < d.digits) : 0 < d.normalize.digits :=
  (strip_spec _ hd).1

theorem ofDecimal_normalize {d : Decimal} (hd : 0 < d.digits) (neg : Bool) :
    Binary64.ofDecimal neg d.normalize.digits d.normalize.exponent =
      Binary64.ofDecimal neg d.digits d.exponent :=
  (strip_spec _ hd).2 neg

end Decimal

namespace Json

/-! ## Parts of a number -/

/-- The text does not go on with one of the characters of a number. -/
def EndsNumber (t : Text) : Prop :=
  ∀ c r, t = c :: r → c.isDigit = false ∧ c ≠ '.' ∧ c ≠ 'e' ∧ c ≠ 'E'

/-- Digits as a number of JSON has them before the point: no leading zero. -/
structure IsWhole (t : Text) : Prop where
  ne_nil : t ≠ []
  digits : ∀ c ∈ t, c.isDigit = true
  head : t = ['0'] ∨ ∀ c r, t = c :: r → c ≠ '0'

variable {t s rest : Text}

theorem readFraction_none (h : ∀ c r, t = c :: r → c ≠ '.') : readFraction t = (none, t) := by
  match t with
  | [] => rfl
  | [c] => rfl
  | c :: d :: r => simp [readFraction, h c (d :: r) rfl]

theorem readFraction_some (ht : t ≠ []) (hd : ∀ c ∈ t, c.isDigit = true)
    (hs : ∀ c r, s = c :: r → c.isDigit = false) :
    readFraction ('.' :: (t ++ s)) = (some t, s) := by
  obtain ⟨d, r, rfl⟩ := List.exists_cons_of_ne_nil ht
  obtain ⟨hw, hr⟩ := Text.takeWhile_digits hd hs
  have hd₀ := hd d (List.mem_cons_self ..)
  rw [List.cons_append] at hw hr ⊢
  rw [List.dropWhile_cons_of_pos hd₀] at hr
  simp [readFraction, hd₀, hw, hr]

theorem readPower_none (h : ∀ c r, t = c :: r → c ≠ 'e' ∧ c ≠ 'E') :
    readPower t = (none, t) := by
  cases t with
  | nil => rfl
  | cons c r => simp [readPower, h c r rfl]

theorem readPower_some {sign : CodePoint} (hsign : sign = '-' ∨ sign = '+') (ht : t ≠ [])
    (hd : ∀ c ∈ t, c.isDigit = true) (hs : ∀ c r, s = c :: r → c.isDigit = false) :
    readPower ('e' :: sign :: (t ++ s)) =
      (some (if sign = '-' then -(Text.digitsValue t : ℤ) else Text.digitsValue t), s) := by
  obtain ⟨hw, hr⟩ := Text.takeWhile_digits hd hs
  have hany : (t ++ s).any CodePoint.isDigit = true := by
    obtain ⟨d, r, rfl⟩ := List.exists_cons_of_ne_nil ht
    simp [hd d (List.mem_cons_self ..)]
  have hplus : CodePoint.ofChar '+' ≠ CodePoint.ofChar '-' := by decide
  rcases hsign with rfl | rfl <;>
    simp [readPower, Text.splitSign, hplus, -List.any_append, -List.any_eq_true, hw, hr, hany, ht]

/-! ## Whole numbers -/

/-- After its sign, the text is read as a number up to where that ends. -/
structure ReadsAs (t : Text) (v : Bool → Json) : Prop where
  head : ∃ c r, t = c :: r ∧ c.isDigit = true
  reads : ∀ neg rest, EndsNumber rest → readNumber neg (t ++ rest) = .ok (v neg, rest)

theorem IsWhole.exists_cons (h : IsWhole t) : ∃ c r, t = c :: r ∧ c.isDigit = true := by
  obtain ⟨c, r, rfl⟩ := List.exists_cons_of_ne_nil h.ne_nil
  exact ⟨c, r, rfl, h.digits c (List.mem_cons_self ..)⟩

theorem readNumber_whole (h : IsWhole t) (hs : ∀ c r, s = c :: r → c.isDigit = false)
    (neg : Bool) :
    readNumber neg (t ++ s) =
      (let (fraction, rest) := readFraction s
      let (power, rest) := readPower rest
      if fraction.isNone && power.isNone then
        if Text.maxIntegerDigits < t.length then .error .hugeInteger
        else .ok (.int (if neg then -(Text.digitsValue t : ℤ) else Text.digitsValue t), rest)
      else .ok (.float (Binary64.ofDecimal neg (Text.digitsValue (t ++ fraction.getD []))
        (power.getD 0 - (fraction.getD []).length)), rest)) := by
  have hwhole : wholeDigits (t ++ s) = t := by
    obtain ⟨c, r, ht, -⟩ := h.exists_cons
    rcases h.head with rfl | hne
    · rfl
    · have htake := (Text.takeWhile_digits h.digits hs).1
      rw [ht, List.cons_append] at htake ⊢
      rw [wholeDigits, if_neg (hne c r ht), htake]
  unfold readNumber
  simp only [hwhole, List.drop_left, List.isEmpty_iff, if_neg h.ne_nil]

theorem isWhole_ofNat (n : ℕ) : IsWhole (Text.ofNat n) where
  ne_nil := Text.ofNat_ne_nil n
  digits _ := Text.isDigit_of_mem_ofNat
  head := by
    rcases Nat.eq_zero_or_pos n with rfl | hn
    · exact .inl rfl
    · obtain ⟨c, t, ht, -, hc⟩ := Text.exists_ofNat_eq_cons hn
      refine .inr fun d r hd => ?_
      rw [ht] at hd
      obtain ⟨rfl, -⟩ := List.cons.inj hd
      exact hc

theorem EndsNumber.notDigit (h : EndsNumber rest) : ∀ c r, rest = c :: r → c.isDigit = false :=
  fun c r hr => (h c r hr).1

theorem EndsNumber.fraction (h : EndsNumber rest) : readFraction rest = (none, rest) :=
  readFraction_none fun c r hr => (h c r hr).2.1

theorem EndsNumber.power (h : EndsNumber rest) : readPower rest = (none, rest) :=
  readPower_none fun c r hr => (h c r hr).2.2

theorem readsAs_ofNat {n : ℕ} (hn : (Text.ofNat n).length ≤ Text.maxIntegerDigits) :
    ReadsAs (Text.ofNat n) fun neg => .int (if neg then -(n : ℤ) else n) where
  head := (isWhole_ofNat n).exists_cons
  reads neg rest h := by
    rw [readNumber_whole (isWhole_ofNat n) h.notDigit, h.fraction]
    dsimp only
    rw [h.power, Text.digitsValue_ofNat]
    simp [Nat.not_lt.2 hn]

/-! ## Fractions and exponents -/

variable {whole fraction power : Text}

theorem readsAs_fraction (whole fraction : Text) (hw : IsWhole whole) (hf : fraction ≠ [])
    (hd : ∀ c ∈ fraction, c.isDigit = true) :
    ReadsAs (whole ++ ('.' : CodePoint) :: fraction) fun neg => .float
      (Binary64.ofDecimal neg (Text.digitsValue (whole ++ fraction)) (-fraction.length)) where
  head := by
    obtain ⟨c, r, rfl, hc⟩ := hw.exists_cons
    exact ⟨c, r ++ ('.' : CodePoint) :: fraction, rfl, hc⟩
  reads neg rest h := by
    have hpoint : ∀ c r, ('.' : CodePoint) :: (fraction ++ rest) = c :: r →
        c.isDigit = false := by
      rintro c r ⟨⟩
      rfl
    rw [List.append_assoc, List.cons_append, readNumber_whole hw hpoint,
      readFraction_some hf hd h.notDigit]
    dsimp only
    rw [h.power]
    simp

/-- The point and the digits behind it, nothing where there are none. -/
def pointText (fraction : Text) : Text := if fraction.isEmpty then [] else '.' :: fraction

theorem readsAs_power (hw : IsWhole whole) (hd : ∀ c ∈ fraction, c.isDigit = true)
    {sign : CodePoint} (hs : sign = '-' ∨ sign = '+') (hp : power ≠ [])
    (hpd : ∀ c ∈ power, c.isDigit = true) :
    ReadsAs (whole ++ pointText fraction ++ ('e' : CodePoint) :: sign :: power) fun neg =>
      .float (Binary64.ofDecimal neg (Text.digitsValue (whole ++ fraction))
        ((if sign = '-' then -(Text.digitsValue power : ℤ) else Text.digitsValue power) -
          fraction.length)) where
  head := by
    obtain ⟨c, r, rfl, hc⟩ := hw.exists_cons
    exact ⟨c, r ++ pointText fraction ++ ('e' : CodePoint) :: sign :: power, rfl, hc⟩
  reads neg rest h := by
    have he : ∀ c r, (('e' : CodePoint) :: sign :: (power ++ rest)) = c :: r →
        c.isDigit = false ∧ c ≠ '.' := by
      rintro c r ⟨⟩
      exact ⟨rfl, by decide⟩
    unfold pointText
    split
    · next hf =>
      obtain rfl : fraction = [] := List.isEmpty_iff.1 hf
      rw [List.append_nil, List.append_assoc, List.cons_append, List.cons_append,
        readNumber_whole hw fun c r hc => (he c r hc).1,
        readFraction_none fun c r hc => (he c r hc).2]
      dsimp only
      rw [readPower_some hs hp hpd h.notDigit]
      simp
    · next hf =>
      have hpoint : ∀ c r, ('.' : CodePoint) ::
          (fraction ++ ('e' : CodePoint) :: sign :: (power ++ rest)) = c :: r →
          c.isDigit = false := by
        rintro c r ⟨⟩
        rfl
      rw [List.append_assoc, List.append_assoc, List.cons_append, List.cons_append,
        List.cons_append, readNumber_whole hw hpoint,
        readFraction_some (fun h => hf (by simp [h])) hd fun c r hc => (he c r hc).1]
      dsimp only
      rw [readPower_some hs hp hpd h.notDigit]
      simp

/-! ## Layouts -/

theorem isDigit_zeros {k : ℕ} : ∀ c ∈ List.replicate k ('0' : CodePoint), c.isDigit = true := by
  intro c hc
  rw [List.eq_of_mem_replicate hc]
  rfl

/-- What starts like a positive number and has only digits is a whole number. -/
theorem isWhole_of_head {n : ℕ} (hn : 0 < n) {t : Text} (hd : ∀ c ∈ t, c.isDigit = true)
    (hh : t.head? = (Text.ofNat n).head?) : IsWhole t := by
  obtain ⟨c, r, hc, -, hne⟩ := Text.exists_ofNat_eq_cons hn
  rw [hc, List.head?_cons] at hh
  obtain ⟨r', rfl⟩ := List.head?_eq_some_iff.1 hh
  refine ⟨List.cons_ne_nil _ _, hd, .inr fun d r hd => ?_⟩
  obtain ⟨rfl, -⟩ := List.cons.inj hd
  exact hne

variable {n : ℕ} {E : ℤ}

/-- Zeros behind the point and then the digits. -/
theorem readsAs_small (hn : 0 < n) (hE : digitCount n + E ≤ 0) :
    ReadsAs (lit "0." ++ List.replicate (-(digitCount n - 1 + E) - 1).toNat ('0' : CodePoint) ++
      Text.ofNat n) fun neg => .float (Binary64.ofDecimal neg n E) := by
  have h := readsAs_fraction ['0']
    (List.replicate (-(digitCount n - 1 + E) - 1).toNat ('0' : CodePoint) ++ Text.ofNat n)
    (isWhole_ofNat 0) (by simp [Text.ofNat_ne_nil]) fun c hc => by
      rcases List.mem_append.1 hc with hc | hc
      · exact isDigit_zeros c hc
      · exact Text.isDigit_of_mem_ofNat hc
  have hvalue : Text.digitsValue ([('0' : CodePoint)] ++
      (List.replicate (-(digitCount n - 1 + E) - 1).toNat ('0' : CodePoint) ++
        Text.ofNat n)) = n := by
    rw [← List.append_assoc, Text.digitsValue_append, Text.digitsValue_append,
      Text.digitsValue_zeros, Text.digitsValue_ofNat]
    simp [Text.digitsValue, CodePoint.ofChar]
  have hlength : -((List.replicate (-(digitCount n - 1 + E) - 1).toNat ('0' : CodePoint) ++
      Text.ofNat n).length : ℤ) = E := by
    rw [List.length_append, List.length_replicate, Text.length_ofNat hn]
    omega
  rw [hvalue, hlength] at h
  rw [List.append_assoc]
  exact h

/-- The digits and zeros up to the point, then one zero. -/
theorem readsAs_integral (hn : 0 < n) (k : ℕ) :
    ReadsAs (Text.ofNat n ++ List.replicate k ('0' : CodePoint) ++ lit ".0") fun neg =>
      .float (Binary64.ofDecimal neg n k) := by
  have hw : IsWhole (Text.ofNat n ++ List.replicate k ('0' : CodePoint)) := by
    refine isWhole_of_head hn (fun c hc => ?_) ?_
    · rcases List.mem_append.1 hc with hc | hc
      · exact Text.isDigit_of_mem_ofNat hc
      · exact isDigit_zeros c hc
    · rw [List.head?_append_of_ne_nil _ (Text.ofNat_ne_nil n)]
  have h := readsAs_fraction _ ['0'] hw (by simp) (by simp; rfl)
  have hvalue (neg : Bool) : Binary64.ofDecimal neg (Text.digitsValue (Text.ofNat n ++
      List.replicate k ('0' : CodePoint) ++ [('0' : CodePoint)]))
        (-([('0' : CodePoint)] : Text).length) =
      Binary64.ofDecimal neg n k := by
    rw [Text.digitsValue_append, Text.digitsValue_append, Text.digitsValue_ofNat,
      Text.digitsValue_zeros, List.length_replicate]
    have := Binary64.ofDecimal_mul_pow neg hn (k + 1) (-1)
    rw [pow_succ, ← Nat.mul_assoc] at this
    simpa [Text.digitsValue, CodePoint.ofChar] using this
  simp only [hvalue] at h
  exact h

/-- Some digits, the point and the other digits. -/
theorem readsAs_split (hn : 0 < n) {k : ℕ} (hk : 0 < k) (hlt : k < digitCount n) :
    ReadsAs ((Text.ofNat n).take k ++ ('.' : CodePoint) :: (Text.ofNat n).drop k) fun neg =>
      .float (Binary64.ofDecimal neg n (k - digitCount n)) := by
  have hlength := Text.length_ofNat hn
  have hw : IsWhole ((Text.ofNat n).take k) := by
    refine isWhole_of_head hn (fun c hc => Text.isDigit_of_mem_ofNat (List.mem_of_mem_take hc)) ?_
    rw [List.head?_take, if_neg (by omega)]
  have hf : (Text.ofNat n).drop k ≠ [] := by
    rw [Ne, List.drop_eq_nil_iff]
    omega
  have h := readsAs_fraction _ _ hw hf fun c hc => Text.isDigit_of_mem_ofNat (List.mem_of_mem_drop hc)
  rw [List.take_append_drop, Text.digitsValue_ofNat, List.length_drop, hlength] at h
  have hexp : -((digitCount n - k : ℕ) : ℤ) = k - digitCount n := by omega
  rw [hexp] at h
  exact h

/-- One digit, the point and the other digits, and the place as an exponent. -/
theorem readsAs_scientific (hn : 0 < n) (place : ℤ) :
    ReadsAs ((Text.ofNat n).take 1 ++ pointText ((Text.ofNat n).drop 1) ++
        (if place < 0 then lit "e-" else lit "e+") ++ Text.ofNatPadded 2 place.natAbs) fun neg =>
      .float (Binary64.ofDecimal neg n (place - (digitCount n - 1))) := by
  have hlength := Text.length_ofNat hn
  have hcount := digitCount_pos hn
  have hw : IsWhole ((Text.ofNat n).take 1) := by
    refine isWhole_of_head hn (fun c hc => Text.isDigit_of_mem_ofNat (List.mem_of_mem_take hc)) ?_
    rw [List.head?_take, if_neg (by omega)]
  have hd : ∀ c ∈ (Text.ofNat n).drop 1, c.isDigit = true := fun c hc =>
    Text.isDigit_of_mem_ofNat (List.mem_of_mem_drop hc)
  have hp : Text.ofNatPadded 2 place.natAbs ≠ [] := by
    simp [Text.ofNatPadded, Text.ofNat_ne_nil]
  have hpd : ∀ c ∈ Text.ofNatPadded 2 place.natAbs, c.isDigit = true := fun c hc => by
    rcases List.mem_append.1 hc with hc | hc
    · exact isDigit_zeros c hc
    · exact Text.isDigit_of_mem_ofNat hc
  have hvalue : Text.digitsValue (Text.ofNatPadded 2 place.natAbs) = place.natAbs := by
    unfold Text.ofNatPadded
    rw [Text.digitsValue_append, Text.digitsValue_zeros, Text.digitsValue_ofNat, Nat.zero_mul,
      Nat.zero_add]
  have hdrop : (((Text.ofNat n).drop 1).length : ℤ) = digitCount n - 1 := by
    rw [List.length_drop, hlength]
    omega
  rcases Int.lt_or_le place 0 with hneg | hpos
  · have h := readsAs_power hw hd (.inl rfl) hp hpd
    rw [List.take_append_drop, Text.digitsValue_ofNat, if_pos rfl, hvalue, hdrop] at h
    have hplace : -(place.natAbs : ℤ) = place := by omega
    rw [hplace] at h
    rw [if_pos hneg, List.append_assoc]
    exact h
  · have hplus : CodePoint.ofChar '+' ≠ CodePoint.ofChar '-' := by decide
    have h := readsAs_power hw hd (.inr rfl) hp hpd
    rw [List.take_append_drop, Text.digitsValue_ofNat, if_neg hplus, hvalue, hdrop] at h
    have hplace : (place.natAbs : ℤ) = place := by omega
    rw [hplace] at h
    rw [if_neg (not_lt.2 hpos), List.append_assoc]
    exact h

/-- A positive decimal laid out exactly reads back. -/
theorem readsAs_render {d : Decimal} (hd : 0 < d.digits) :
    ReadsAs (NumberLayout.exact.render d) fun neg =>
      .float (Binary64.ofDecimal neg d.digits d.exponent) := by
  simp only [← Decimal.ofDecimal_normalize hd]
  have hn := Decimal.normalize_digits_pos hd
  unfold NumberLayout.render
  generalize d.normalize = d at hn ⊢
  obtain ⟨n, E⟩ := d
  dsimp only at hn
  have hcount := digitCount_pos hn
  have hlength := Text.length_ofNat hn
  simp only [Decimal.place, NumberLayout.exact]
  split
  · next hplace =>
    split
    · next hneg => exact readsAs_small hn (by omega)
    · next hpos =>
      obtain ⟨k, hk⟩ := Int.eq_ofNat_of_zero_le (Int.not_lt.1 hpos)
      simp only [hk, Int.toNat_natCast, hlength, if_true]
      rcases Nat.lt_or_ge (k + 1) (digitCount n) with hlt | hge
      · have hdrop : ((Text.ofNat n).drop (k + 1)).isEmpty = false := by
          rw [List.isEmpty_eq_false_iff, Ne, List.drop_eq_nil_iff]
          omega
        have hE : ((k + 1 : ℕ) : ℤ) - digitCount n = E := by omega
        have hpad : k + 1 - digitCount n = 0 := by omega
        have h := readsAs_split hn (Nat.succ_pos k) hlt
        rw [hE] at h
        rw [hpad, List.replicate_zero, List.append_nil, hdrop]
        exact h
      · have hdrop : (Text.ofNat n).drop (k + 1) = [] := by
          rw [List.drop_eq_nil_iff]
          omega
        have htake : (Text.ofNat n).take (k + 1) = Text.ofNat n := List.take_of_length_le (by omega)
        have hE : ((k + 1 - digitCount n : ℕ) : ℤ) = E := by omega
        have h := readsAs_integral hn (k + 1 - digitCount n)
        rw [hE] at h
        rw [hdrop, htake]
        exact h
  · next hplace =>
    have hE : (digitCount n : ℤ) - 1 + E - (digitCount n - 1) = E := by omega
    have h := readsAs_scientific hn (digitCount n - 1 + E)
    rw [hE] at h
    exact h

/-- The magnitude of a finite double as text. -/
def magnitudeText (x : Binary64) : Text :=
  if x.isZero then lit "0.0" else NumberLayout.exact.render x.shortest

theorem toText_finite (neg : Bool) {m e : ℕ} (h : Canonical m e) :
    (Binary64.finite neg m e h).toText =
      (if neg then lit "-" else []) ++ magnitudeText (.finite neg m e h) := by
  unfold magnitudeText
  rw [Binary64.toText]
  split <;> rfl

/-- The text of the magnitude is read as a number that has, with the right sign, the value. -/
theorem readsAs_magnitudeText (neg : Bool) {m e : ℕ} (h : Canonical m e) :
    ∃ v : Bool → Binary64, v neg = .finite neg m e h ∧
      ReadsAs (magnitudeText (.finite neg m e h)) fun neg => .float (v neg) := by
  unfold magnitudeText
  rcases Nat.eq_zero_or_pos m with rfl | hm
  · obtain rfl : e = 0 := h.2.2.resolve_right (by decide)
    have hzero := readsAs_fraction ['0'] ['0'] (isWhole_ofNat 0) (by simp)
      (isDigit_zeros (k := 1))
    have hvalue : Text.digitsValue ([('0' : CodePoint)] ++ [('0' : CodePoint)]) = 0 := rfl
    simp only [hvalue, Binary64.ofDecimal_zero] at hzero
    exact ⟨Binary64.zero, rfl, hzero⟩
  · have hz : (Binary64.finite neg m e h).isZero = false := by
      simp [Binary64.isZero, Nat.ne_of_gt hm]
    have hr := readsAs_render (Binary64.shortest_digits_pos neg h hm)
    have hv := Binary64.ofDecimal_shortest neg h hm
    rw [hz]
    generalize (Binary64.finite neg m e h).shortest = d at hr hv
    exact ⟨fun neg => Binary64.ofDecimal neg d.digits d.exponent, hv, hr⟩

end Json

/-! ## The characters of a number -/

/-- The property holds of all characters that numbers are written with. -/
structure HoldsInNumbers (P : CodePoint → Prop) : Prop where
  digit : ∀ c : CodePoint, c.isDigit = true → P c
  sign : ∀ c ∈ lit ".e+-", P c

variable {P : CodePoint → Prop}

theorem HoldsInNumbers.zeros (hP : HoldsInNumbers P) (k : ℕ) :
    ∀ c ∈ List.replicate k ('0' : CodePoint), P c :=
  fun c hc => hP.digit c (Json.isDigit_zeros c hc)

theorem HoldsInNumbers.ofNat (hP : HoldsInNumbers P) (n : ℕ) : ∀ c ∈ Text.ofNat n, P c :=
  fun c hc => hP.digit c (Text.isDigit_of_mem_ofNat hc)

theorem HoldsInNumbers.ofInt (hP : HoldsInNumbers P) (n : ℤ) : ∀ c ∈ Text.ofInt n, P c := by
  unfold Text.ofInt
  split
  · exact List.forall_mem_cons.2 ⟨hP.sign _ (by decide), hP.ofNat _⟩
  · exact hP.ofNat _

theorem HoldsInNumbers.render (hP : HoldsInNumbers P) (layout : NumberLayout) (d : Decimal) :
    ∀ c ∈ layout.render d, P c := by
  unfold NumberLayout.render
  generalize d.normalize = d
  have hd := hP.ofNat d.digits
  have htake (k : ℕ) : ∀ c ∈ (Text.ofNat d.digits).take k, P c :=
    fun c hc => hd c (List.mem_of_mem_take hc)
  have hpoint (k : ℕ) : ∀ c ∈ ('.' : CodePoint) :: (Text.ofNat d.digits).drop k, P c :=
    List.forall_mem_cons.2
      ⟨hP.sign _ (by decide), fun c hc => hd c (List.mem_of_mem_drop hc)⟩
  dsimp only
  split
  · split
    · have hlead : ∀ c ∈ lit "0.", P c :=
        List.forall_mem_cons.2 ⟨hP.digit _ (by decide), fun c hc => hP.sign c (by revert c; decide)⟩
      exact List.forall_mem_append.2 ⟨List.forall_mem_append.2 ⟨hlead, hP.zeros _⟩, hd⟩
    · refine List.forall_mem_append.2 ⟨List.forall_mem_append.2 ⟨htake _, hP.zeros _⟩, ?_⟩
      split
      · split
        · exact List.forall_mem_cons.2
            ⟨hP.sign _ (by decide), List.forall_mem_singleton.2 (hP.digit _ (by decide))⟩
        · exact List.forall_mem_nil _
      · exact hpoint _
  · refine List.forall_mem_append.2 ⟨List.forall_mem_append.2
      ⟨List.forall_mem_append.2 ⟨htake 1, ?_⟩, ?_⟩, ?_⟩
    · split
      · exact List.forall_mem_nil _
      · exact hpoint 1
    · split <;> exact fun c hc => hP.sign c (by revert c; decide)
    · exact List.forall_mem_append.2 ⟨hP.zeros _, hP.ofNat _⟩

theorem HoldsInNumbers.toGeneralText (hP : HoldsInNumbers P) (hword : ∀ c ∈ lit "nanif", P c)
    (digits : ℕ) (x : Binary64) : ∀ c ∈ x.toGeneralText digits, P c := by
  have hsign : ∀ c ∈ x.signText, P c := by
    unfold Binary64.signText
    split
    · exact fun c hc => hP.sign c (by revert c; decide)
    · exact List.forall_mem_nil _
  cases x with
  | nan =>
      have hnan : ∀ c ∈ lit "nan", P c := fun c hc => hword c (by revert c; decide)
      exact hnan
  | infinite neg =>
      exact List.forall_mem_append.2 ⟨hsign, fun c hc => hword c (by revert c; decide)⟩
  | finite neg m e h =>
      rw [Binary64.toGeneralText]
      by_cases hzero : (Binary64.finite neg m e h).isZero = true
      · rw [if_pos hzero]
        exact List.forall_mem_append.2
          ⟨hsign, List.forall_mem_singleton.2 (hP.digit _ (by decide))⟩
      · rw [if_neg hzero]
        -- Behind the quotient stand numbers too large to be computed.
        dsimp only
        generalize Binary64.inDecimalUnits _ _ _ = quotient
        exact List.forall_mem_append.2 ⟨hsign, hP.render _ _⟩

end HelpCenter

import HelpCenter.Json.Printer
import HelpCenter.Json.Reader
import Mathlib.Tactic.IntervalCases

/-!
# Strings of JSON

A printed string reads back with its surrogate pairs joined (`readString_escaped`), since a character
beyond the sixteen-bit range is written as the two halves of such a pair.
-/

namespace HelpCenter

namespace CodePoint

theorem ext {c d : CodePoint} (h : c.toNat = d.toNat) : c = d := by
  cases c
  cases d
  cases h
  rfl

theorem toNat_ofNat {n : ℕ} (h : n < 0x110000) : (ofNat n).toNat = n := by
  simp [ofNat, ofNat?, h]

theorem hexValue_hexDigit {n : ℕ} (h : n < 16) : (Text.hexDigit n).hexValue? = some n := by
  interval_cases n <;> rfl

end CodePoint

namespace Json

variable {c d : CodePoint} {s rest : Text} {u v : ℕ}

/-! ## Escapes of units -/

theorem readUnit_hexPadded (hu : u < 0x10000) :
    readUnit? (Text.hexPadded 4 u ++ s) = some (u, s) := by
  have h₁ := CodePoint.hexValue_hexDigit (Nat.mod_lt (u / 16 / 16 / 16) (by norm_num : 0 < 16))
  have h₂ := CodePoint.hexValue_hexDigit (Nat.mod_lt (u / 16 / 16) (by norm_num : 0 < 16))
  have h₃ := CodePoint.hexValue_hexDigit (Nat.mod_lt (u / 16) (by norm_num : 0 < 16))
  have h₄ := CodePoint.hexValue_hexDigit (Nat.mod_lt u (by norm_num : 0 < 16))
  simp only [Text.hexPadded, List.nil_append, List.cons_append, readUnit?, h₁, h₂, h₃, h₄]
  have : ((u / 16 / 16 / 16 % 16 * 16 + u / 16 / 16 % 16) * 16 + u / 16 % 16) * 16 + u % 16 =
      u := by
    omega
  simp [this]

theorem readPart_unit (hu : u < 0x10000) :
    readPart? (unitEscape u ++ s) =
      match s with
      | b :: l :: more =>
        if (CodePoint.ofNat u).isHigh && b == '\\' && l == 'u' then
          match readUnit? more with
          | none => none
          | some (v, more) =>
            if (CodePoint.ofNat v).isLow then
              some (.char (CodePoint.ofPair (CodePoint.ofNat u) (CodePoint.ofNat v)) more)
            else some (.char (CodePoint.ofNat u) s)
        else some (.char (CodePoint.ofNat u) s)
      | _ => some (.char (CodePoint.ofNat u) s) := by
  have h : unitEscape u ++ s =
      ('\\' : CodePoint) :: ('u' : CodePoint) :: (Text.hexPadded 4 u ++ s) := rfl
  rw [h]
  unfold readPart?
  dsimp only
  rw [if_neg (by decide), if_pos rfl, if_pos rfl]
  have hread := readUnit_hexPadded (s := s) hu
  generalize readUnit? (Text.hexPadded 4 u ++ s) = r at hread ⊢
  subst hread
  rfl

theorem readPart_unit_of_not_high (hu : u < 0x10000) (h : (CodePoint.ofNat u).isHigh = false) :
    readPart? (unitEscape u ++ s) = some (.char (CodePoint.ofNat u) s) := by
  rw [readPart_unit hu]
  split
  · simp [h]
  · rfl

theorem readPart_pair (hu : u < 0x10000) (hv : v < 0x10000)
    (hh : (CodePoint.ofNat u).isHigh = true) (hl : (CodePoint.ofNat v).isLow = true) :
    readPart? (unitEscape u ++ (unitEscape v ++ s)) =
      some (.char (CodePoint.ofPair (CodePoint.ofNat u) (CodePoint.ofNat v)) s) := by
  have h : unitEscape v ++ s =
      ('\\' : CodePoint) :: ('u' : CodePoint) :: (Text.hexPadded 4 v ++ s) := rfl
  rw [readPart_unit hu, h]
  dsimp only
  rw [hh, if_pos (by decide), readUnit_hexPadded hv]
  dsimp only
  rw [if_pos hl]

/-- The text does not go on with the escape of a low surrogate. -/
def NotLow (t : Text) : Prop :=
  ∀ more : Text, t = ('\\' : CodePoint) :: ('u' : CodePoint) :: more →
    ∃ v rest, readUnit? more = some (v, rest) ∧ (CodePoint.ofNat v).isLow = false

theorem readPart_alone (hu : u < 0x10000) (hs : NotLow s) :
    readPart? (unitEscape u ++ s) = some (.char (CodePoint.ofNat u) s) := by
  rw [readPart_unit hu]
  split
  · next b l more =>
    split
    · next h =>
      simp only [Bool.and_eq_true, beq_iff_eq] at h
      obtain ⟨⟨-, rfl⟩, rfl⟩ := h
      obtain ⟨v, rest, hr, hl⟩ := hs more rfl
      simp [hr, hl]
    · rfl
  · rfl

/-! ## Escapes of characters -/

/-- The ways to write a character. -/
inductive Escape (c : CodePoint) : Text → Prop
  | char (h : 32 ≤ c.toNat) (h' : c.toNat < 127) (hq : c ≠ '"') (hb : c ≠ '\\') : Escape c [c]
  | letter (e : CodePoint) (hu : e ≠ 'u') (h : simpleEscape? e = some c) (h' : c.toNat < 127)
    (he : 32 ≤ e.toNat ∧ e.toNat < 127) : Escape c [('\\' : CodePoint), e]
  | unit (h : c.toNat < 0x10000) : Escape c (unitEscape c.toNat)
  | pair (h : 0x10000 ≤ c.toNat) :
    Escape c (unitEscape (0xD800 + (c.toNat - 0x10000) / 0x400) ++
      unitEscape (0xDC00 + (c.toNat - 0x10000) % 0x400))

theorem escape_escapeChar (c : CodePoint) : Escape c (escapeChar c) := by
  have letter (x e : CodePoint) (hx : c.toNat = x.toNat) (hu : e ≠ 'u')
      (h : simpleEscape? e = some x) (h' : x.toNat < 127) (he : 32 ≤ e.toNat ∧ e.toNat < 127) :
      Escape c [('\\' : CodePoint), e] := by
    obtain rfl := CodePoint.ext hx
    exact .letter e hu h h' he
  unfold escapeChar
  split
  · next h => exact letter '"' '"' h (by decide) rfl (by decide) (by decide)
  · next h => exact letter '\\' '\\' h (by decide) rfl (by decide) (by decide)
  · next h => exact letter '\n' 'n' h (by decide) rfl (by decide) (by decide)
  · next h => exact letter '\r' 'r' h (by decide) rfl (by decide) (by decide)
  · next h => exact letter '\t' 't' h (by decide) rfl (by decide) (by decide)
  · next h => exact letter (CodePoint.ofNat 12) 'f' h (by decide) rfl (by decide) (by decide)
  · next h => exact letter (CodePoint.ofNat 8) 'b' h (by decide) rfl (by decide) (by decide)
  · next hq hb _ _ _ _ _ =>
    split
    · next h =>
      simp only [Bool.and_eq_true, decide_eq_true_eq] at h
      exact .char h.1 h.2 (fun hc => hq (by rw [hc]; rfl)) (fun hc => hb (by rw [hc]; rfl))
    · unfold CodePoint.units
      split
      · next h =>
        rw [List.flatMap_singleton]
        exact .unit h
      · next h =>
        rw [List.flatMap_cons, List.flatMap_singleton]
        exact .pair (by omega)

theorem readPart_char (hq : c ≠ '"') (hb : c ≠ '\\') (h : 32 ≤ c.toNat) :
    readPart? (c :: s) = some (.char c s) := by
  simp only [readPart?, if_neg hq, if_neg hb, if_neg (Nat.not_lt.2 h)]

theorem readPart_letter {e : CodePoint} (hu : e ≠ 'u') (h : simpleEscape? e = some c) :
    readPart? (('\\' : CodePoint) :: e :: s) = some (.char c s) := by
  have hq : CodePoint.ofChar '\\' ≠ CodePoint.ofChar '"' := by decide
  simp only [readPart?, if_neg hq, if_true, if_neg hu, h, Option.map_some]

theorem isHigh_ofNat (h : u < 0x110000) :
    (CodePoint.ofNat u).isHigh = (decide (0xD800 ≤ u) && decide (u ≤ 0xDBFF)) := by
  rw [CodePoint.isHigh, CodePoint.toNat_ofNat h]

theorem isLow_ofNat (h : u < 0x110000) :
    (CodePoint.ofNat u).isLow = (decide (0xDC00 ≤ u) && decide (u ≤ 0xDFFF)) := by
  rw [CodePoint.isLow, CodePoint.toNat_ofNat h]

/-- A character that is no high surrogate reads back whatever follows. -/
theorem readPart_escapeChar (hc : c.isHigh = false) :
    readPart? (escapeChar c ++ s) = some (.char c s) := by
  have hlt := c.isLt
  generalize he : escapeChar c = e
  cases he ▸ escape_escapeChar c with
  | char h h' hq hb => exact readPart_char hq hb h
  | letter e hu h => exact readPart_letter hu h
  | unit h =>
      rw [readPart_unit_of_not_high h (by rwa [CodePoint.ofNat_toNat]), CodePoint.ofNat_toNat]
  | pair h =>
      rw [List.append_assoc, readPart_pair (by omega) (by omega)]
      · have h₁ : 0xD800 + (c.toNat - 0x10000) / 0x400 < 0x110000 := by omega
        have h₂ : 0xDC00 + (c.toNat - 0x10000) % 0x400 < 0x110000 := by omega
        have hsum : 0x10000 + (0xD800 + (c.toNat - 0x10000) / 0x400 - 0xD800) * 0x400 +
            (0xDC00 + (c.toNat - 0x10000) % 0x400 - 0xDC00) = c.toNat := by omega
        rw [CodePoint.ofPair, CodePoint.toNat_ofNat h₁, CodePoint.toNat_ofNat h₂, hsum,
          CodePoint.ofNat_toNat]
      · rw [isHigh_ofNat (by omega)]
        simp
        omega
      · rw [isLow_ofNat (by omega)]
        simp
        omega

theorem isSurrogate_bounds (h : c.isHigh = true ∨ c.isLow = true) :
    0xD800 ≤ c.toNat ∧ c.toNat ≤ 0xDFFF := by
  simp only [CodePoint.isHigh, CodePoint.isLow, Bool.and_eq_true, decide_eq_true_eq] at h
  omega

theorem escapeChar_surrogate (h : c.isHigh = true ∨ c.isLow = true) :
    escapeChar c = unitEscape c.toNat := by
  have hb := isSurrogate_bounds h
  generalize he : escapeChar c = e
  cases he ▸ escape_escapeChar c with
  | char _ h' => omega
  | letter _ _ _ h' => omega
  | unit => rfl
  | pair h' => omega

theorem notLow_of_ne {t : Text}
    (h : ∀ more : Text, t ≠ ('\\' : CodePoint) :: ('u' : CodePoint) :: more) : NotLow t :=
  fun more hm => absurd hm (h more)

theorem notLow_unit (hu : u < 0x10000) (h : (CodePoint.ofNat u).isLow = false) :
    NotLow (unitEscape u ++ s) := by
  intro more hm
  have h' : unitEscape u ++ s =
      ('\\' : CodePoint) :: ('u' : CodePoint) :: (Text.hexPadded 4 u ++ s) := rfl
  rw [h'] at hm
  obtain rfl := (List.cons.inj (List.cons.inj hm).2).2
  exact ⟨u, s, readUnit_hexPadded hu, h⟩

theorem notLow_escapeChar (hd : d.isLow = false) : NotLow (escapeChar d ++ s) := by
  have hlt := d.isLt
  generalize he : escapeChar d = e
  cases he ▸ escape_escapeChar d with
  | char _ _ _ hb => exact notLow_of_ne fun more hm => hb (List.cons.inj hm).1
  | letter e hu =>
      exact notLow_of_ne fun more hm => hu (List.cons.inj (List.cons.inj hm).2).1
  | unit h => exact notLow_unit h (by rwa [CodePoint.ofNat_toNat])
  | pair h =>
      rw [List.append_assoc]
      refine notLow_unit (by omega) ?_
      rw [isLow_ofNat (by omega)]
      simp
      omega

theorem notLow_quote : NotLow (('"' : CodePoint) :: s) :=
  notLow_of_ne fun more hm => absurd (List.cons.inj hm).1 (by decide)

/-! ## Strings -/

/-- A high surrogate reads back alone unless the escape of a low one follows. -/
theorem readPart_high (hc : c.isHigh = true) (hs : NotLow s) :
    readPart? (escapeChar c ++ s) = some (.char c s) := by
  have hb := isSurrogate_bounds (.inl hc)
  rw [escapeChar_surrogate (.inl hc), readPart_alone (by omega) hs, CodePoint.ofNat_toNat]

theorem readPart_surrogates (hc : c.isHigh = true) (hd : d.isLow = true) :
    readPart? (escapeChar c ++ (escapeChar d ++ s)) = some (.char (CodePoint.ofPair c d) s) := by
  have hb := isSurrogate_bounds (.inl hc)
  have hb' := isSurrogate_bounds (.inr hd)
  rw [escapeChar_surrogate (.inl hc), escapeChar_surrogate (.inr hd),
    readPart_pair (by omega) (by omega) (by rwa [CodePoint.ofNat_toNat])
      (by rwa [CodePoint.ofNat_toNat]), CodePoint.ofNat_toNat, CodePoint.ofNat_toNat]

theorem readString_char {fuel : ℕ} {t : Text} (hr : readPart? t = some (.char c s)) :
    readString? (fuel + 1) t = (readString? fuel s).map fun (s, r) => (c :: s, r) := by
  rw [readString?, hr]

/-- A printed string reads back with its pairs of surrogates joined. -/
theorem readString_escaped (t : Text) {fuel : ℕ} (hf : t.length < fuel) :
    readString? fuel (t.flatMap escapeChar ++ ('"' : CodePoint) :: rest) =
      some (Text.joinPairs t, rest) := by
  induction t using Text.joinPairs.induct generalizing fuel with
  | case1 =>
      obtain ⟨k, rfl⟩ := Nat.exists_eq_add_of_lt hf
      rfl
  | case2 c =>
      obtain ⟨k, rfl⟩ := Nat.exists_eq_add_of_lt hf
      have hr : readPart? (escapeChar c ++ ('"' : CodePoint) :: rest) =
          some (.char c (('"' : CodePoint) :: rest)) := by
        cases hc : c.isHigh with
        | false => exact readPart_escapeChar hc
        | true => exact readPart_high hc notLow_quote
      rw [List.flatMap_singleton, readString_char hr, List.length_singleton, Nat.add_comm 1 k]
      rfl
  | case3 c d t h ih =>
      rw [Bool.and_eq_true] at h
      obtain ⟨k, rfl⟩ := Nat.exists_eq_add_of_lt hf
      rw [List.flatMap_cons, List.flatMap_cons, List.append_assoc, List.append_assoc,
        readString_char (readPart_surrogates h.1 h.2), ih (by simp; omega), Text.joinPairs,
        if_pos (by simp [h])]
      rfl
  | case4 c d t h ih =>
      obtain ⟨k, rfl⟩ := Nat.exists_eq_add_of_lt hf
      have hr :
          readPart? (escapeChar c ++ ((d :: t).flatMap escapeChar ++ ('"' : CodePoint) :: rest)) =
          some (.char c ((d :: t).flatMap escapeChar ++ ('"' : CodePoint) :: rest)) := by
        cases hc : c.isHigh with
        | false => exact readPart_escapeChar hc
        | true =>
            have hd : d.isLow = false := by simpa [hc] using h
            refine readPart_high hc ?_
            rw [List.flatMap_cons, List.append_assoc]
            exact notLow_escapeChar hd
      rw [List.flatMap_cons, List.append_assoc, readString_char hr, ih (by simp; omega),
        Text.joinPairs, if_neg h]
      rfl

end Json

end HelpCenter

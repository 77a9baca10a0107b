import HelpCenter.Proofs.Except
import HelpCenter.Text.Search
import HelpCenter.Text.Utf8

/-!
# Encoded texts

A text without surrogates is read back from its UTF-8 bytes (`decode_toUtf8?`), since the first byte
of a character tells how many bytes it has (`front_utf8`).
-/

namespace HelpCenter

open Utf8

/-! ## Bytes -/

variable {m n : ℕ}

theorem toNat_toUInt8 (h : n < 256) : n.toUInt8.toNat = n := by
  simp
  omega

theorem toUInt8_lt_iff (hm : m < 256) (hn : n < 256) : m.toUInt8 < n.toUInt8 ↔ m < n := by
  rw [UInt8.lt_iff_toNat_lt, toNat_toUInt8 hm, toNat_toUInt8 hn]

theorem not_toUInt8_lt (h : n ≤ m) (hm : m < 256) : ¬ m.toUInt8 < n.toUInt8 := by
  rw [toUInt8_lt_iff hm (by omega)]
  omega

theorem toUInt8_inj (hm : m < 256) (hn : n < 256) : m.toUInt8 = n.toUInt8 ↔ m = n := by
  rw [← UInt8.toNat_inj, toNat_toUInt8 hm, toNat_toUInt8 hn]

theorem continues_iff {lo hi : ℕ} (hlo : lo < 256) (hhi : hi < 256) (hn : n < 256) :
    continues lo.toUInt8 hi.toUInt8 n.toUInt8 = true ↔ lo ≤ n ∧ n ≤ hi := by
  simp only [continues, Bool.and_eq_true, decide_eq_true_eq, UInt8.le_iff_toNat_le,
    toNat_toUInt8 hlo, toNat_toUInt8 hhi, toNat_toUInt8 hn]

namespace Utf8

variable {a b c d : ℕ} {rest : Bytes}

theorem front_one (ha : a < 0x80) : front a.toUInt8 rest = .char (.ofNat a) rest := by
  have h : a.toUInt8 < 0x80 := (toUInt8_lt_iff (by omega) (by decide)).2 ha
  unfold front
  rw [if_pos h, toNat_toUInt8 (by omega)]

theorem front_two (ha : 0xC2 ≤ a) (ha' : a < 0xE0) (hb : 0x80 ≤ b) (hb' : b ≤ 0xBF) :
    front a.toUInt8 (b.toUInt8 :: rest) = .char (.ofNat ((a - 0xC0) * 64 + b % 64)) rest := by
  have h₁ : ¬ a.toUInt8 < 0x80 := not_toUInt8_lt (n := 0x80) (by omega) (by omega)
  have h₂ : ¬ a.toUInt8 < 0xC2 := not_toUInt8_lt (n := 0xC2) (by omega) (by omega)
  have h₃ : a.toUInt8 < 0xE0 := (toUInt8_lt_iff (by omega) (by decide)).2 ha'
  have hcont : continues 0x80 0xBF b.toUInt8 = true :=
    (continues_iff (by decide) (by decide) (by omega)).2 ⟨hb, hb'⟩
  unfold front
  simp only [h₁, h₂, h₃, hcont, if_true, if_false, payload, toNat_toUInt8 (n := a) (by omega),
    toNat_toUInt8 (n := b) (by omega)]

/-- The second byte has narrower bounds behind some first bytes, so that no character has several
encodings and no surrogate has one. -/
theorem continues_second {x y lo hi : ℕ} (hx : x < 256) (hy : y < 256) (hlo : lo < 256)
    (hhi : hi < 256) (ha : a < 256) (hb : 0x80 ≤ b) (hb' : b ≤ 0xBF) (hlow : a = x → lo ≤ b)
    (hhigh : a = y → b ≤ hi) : continues (if a.toUInt8 = x.toUInt8 then lo.toUInt8 else 0x80)
      (if a.toUInt8 = y.toUInt8 then hi.toUInt8 else 0xBF) b.toUInt8 = true := by
  simp only [toUInt8_inj ha hx, toUInt8_inj ha hy]
  split <;> split
  · exact (continues_iff hlo hhi (by omega)).2 ⟨hlow ‹_›, hhigh ‹_›⟩
  · exact (continues_iff (n := b) hlo (by decide) (by omega)).2 ⟨hlow ‹_›, hb'⟩
  · exact (continues_iff (n := b) (by decide) hhi (by omega)).2 ⟨hb, hhigh ‹_›⟩
  · exact (continues_iff (by decide) (by decide) (by omega)).2 ⟨hb, hb'⟩

theorem front_three (ha : 0xE0 ≤ a) (ha' : a < 0xF0) (hb : 0x80 ≤ b) (hb' : b ≤ 0xBF)
    (hlong : a = 0xE0 → 0xA0 ≤ b) (hsurrogate : a = 0xED → b ≤ 0x9F)
    (hc : 0x80 ≤ c) (hc' : c ≤ 0xBF) :
    front a.toUInt8 (b.toUInt8 :: c.toUInt8 :: rest) =
      .char (.ofNat ((a - 0xE0) * 4096 + b % 64 * 64 + c % 64)) rest := by
  have h₁ : ¬ a.toUInt8 < 0x80 := not_toUInt8_lt (n := 0x80) (by omega) (by omega)
  have h₂ : ¬ a.toUInt8 < 0xC2 := not_toUInt8_lt (n := 0xC2) (by omega) (by omega)
  have h₃ : ¬ a.toUInt8 < 0xE0 := not_toUInt8_lt (n := 0xE0) (by omega) (by omega)
  have h₄ : a.toUInt8 < 0xF0 := (toUInt8_lt_iff (by omega) (by decide)).2 ha'
  have hsecond : continues (if a.toUInt8 = 0xE0 then 0xA0 else 0x80)
      (if a.toUInt8 = 0xED then 0x9F else 0xBF) b.toUInt8 = true :=
    continues_second (by decide) (by decide) (by decide) (by decide) (by omega) hb hb' hlong
      hsurrogate
  have hcont : continues 0x80 0xBF c.toUInt8 = true :=
    (continues_iff (by decide) (by decide) (by omega)).2 ⟨hc, hc'⟩
  unfold front
  simp only [h₁, h₂, h₃, h₄, hsecond, hcont, if_true, if_false, payload,
    toNat_toUInt8 (n := a) (by omega), toNat_toUInt8 (n := b) (by omega),
    toNat_toUInt8 (n := c) (by omega)]

theorem front_four (ha : 0xF0 ≤ a) (ha' : a < 0xF5) (hb : 0x80 ≤ b) (hb' : b ≤ 0xBF)
    (hlong : a = 0xF0 → 0x90 ≤ b) (hlarge : a = 0xF4 → b ≤ 0x8F)
    (hc : 0x80 ≤ c) (hc' : c ≤ 0xBF) (hd : 0x80 ≤ d) (hd' : d ≤ 0xBF) :
    front a.toUInt8 (b.toUInt8 :: c.toUInt8 :: d.toUInt8 :: rest) =
      .char (.ofNat ((a - 0xF0) * 262144 + b % 64 * 4096 + c % 64 * 64 + d % 64)) rest := by
  have h₁ : ¬ a.toUInt8 < 0x80 := not_toUInt8_lt (n := 0x80) (by omega) (by omega)
  have h₂ : ¬ a.toUInt8 < 0xC2 := not_toUInt8_lt (n := 0xC2) (by omega) (by omega)
  have h₃ : ¬ a.toUInt8 < 0xE0 := not_toUInt8_lt (n := 0xE0) (by omega) (by omega)
  have h₄ : ¬ a.toUInt8 < 0xF0 := not_toUInt8_lt (n := 0xF0) (by omega) (by omega)
  have h₅ : a.toUInt8 < 0xF5 := (toUInt8_lt_iff (by omega) (by decide)).2 ha'
  have hsecond : continues (if a.toUInt8 = 0xF0 then 0x90 else 0x80)
      (if a.toUInt8 = 0xF4 then 0x8F else 0xBF) b.toUInt8 = true :=
    continues_second (by decide) (by decide) (by decide) (by decide) (by omega) hb hb' hlong hlarge
  have hthird : continues 0x80 0xBF c.toUInt8 = true :=
    (continues_iff (by decide) (by decide) (by omega)).2 ⟨hc, hc'⟩
  have hfourth : continues 0x80 0xBF d.toUInt8 = true :=
    (continues_iff (by decide) (by decide) (by omega)).2 ⟨hd, hd'⟩
  unfold front
  simp only [h₁, h₂, h₃, h₄, h₅, hsecond, hthird, hfourth, if_true, if_false, payload,
    toNat_toUInt8 (n := a) (by omega), toNat_toUInt8 (n := b) (by omega),
    toNat_toUInt8 (n := c) (by omega), toNat_toUInt8 (n := d) (by omega)]

end Utf8

/-! ## Characters -/

namespace CodePoint

variable {c : CodePoint}

theorem char_ofNat (h : n = c.toNat) (rest : Bytes) :
    Front.char (ofNat n) rest = .char c rest := by
  rw [h, ofNat_toNat]

/-- The bytes of a character are read as this character, whatever comes behind them. -/
theorem front_utf8 (hc : c.isSurrogate = false) : ∃ b more, c.utf8 = b :: more ∧
    ∀ rest, front b (more ++ rest) = .char c rest := by
  have hlt := c.isLt
  simp only [isSurrogate, Bool.and_eq_false_iff, decide_eq_false_iff_not] at hc
  unfold utf8
  by_cases h₁ : c.toNat < 0x80
  · refine ⟨_, _, if_pos h₁, fun rest => ?_⟩
    exact (front_one h₁).trans (char_ofNat rfl rest)
  by_cases h₂ : c.toNat < 0x800
  · refine ⟨_, _, by rw [if_neg h₁, if_pos h₂], fun rest => ?_⟩
    exact (front_two (by omega) (by omega) (by omega) (by omega)).trans
      (char_ofNat (by omega) rest)
  by_cases h₃ : c.toNat < 0x10000
  · refine ⟨_, _, by rw [if_neg h₁, if_neg h₂, if_pos h₃], fun rest => ?_⟩
    exact (front_three (by omega) (by omega) (by omega) (by omega) (by omega) (by omega)
      (by omega) (by omega)).trans (char_ofNat (by omega) rest)
  · refine ⟨_, _, by rw [if_neg h₁, if_neg h₂, if_neg h₃], fun rest => ?_⟩
    exact (front_four (by omega) (by omega) (by omega) (by omega) (by omega) (by omega)
      (by omega) (by omega) (by omega) (by omega)).trans (char_ofNat (by omega) rest)

end CodePoint

/-! ## Texts -/

namespace Text

variable {t : Text}

theorem decodeFrom_utf8 (h : t.isEncodable = true) {fuel position : ℕ}
    (hfuel : (t.flatMap CodePoint.utf8).length ≤ fuel) :
    decodeFrom fuel position (t.flatMap CodePoint.utf8) = .ok t := by
  induction t generalizing fuel position with
  | nil => cases fuel <;> rfl
  | cons c t ih =>
      rw [isEncodable, List.all_cons, Bool.and_eq_true, Bool.not_eq_true'] at h
      obtain ⟨b, more, hbytes, hfront⟩ := CodePoint.front_utf8 h.1
      rw [List.flatMap_cons, hbytes, List.length_append, List.length_cons] at hfuel
      obtain ⟨fuel, rfl⟩ := Nat.exists_eq_add_one.2 (by omega : 0 < fuel)
      rw [List.flatMap_cons, hbytes, List.cons_append, decodeFrom, hfront]
      dsimp only
      rw [ih h.2 (by omega)]
      rfl

/-- A text is read back from its encoding. -/
theorem decode_toUtf8? {bytes : Bytes} (h : t.toUtf8? = some bytes) : decode bytes = .ok t := by
  obtain ⟨hencodable, h⟩ := Option.ite_none_right_eq_some.1 h
  obtain rfl := Option.some.inj h
  exact decodeFrom_utf8 hencodable (Nat.le_refl _)

theorem normalizeNewlines_of_notMem (h : ('\r' : CodePoint) ∉ t) : t.normalizeNewlines = t := by
  induction t with
  | nil => rfl
  | cons c t ih =>
      obtain ⟨hc, ht⟩ := not_or.1 fun hmem => h (List.mem_cons.2 hmem)
      unfold Text.normalizeNewlines
      rw [if_neg (Ne.symm hc), ih ht]

end Text

end HelpCenter

import HelpCenter.Number.Reading
import HelpCenter.Proofs.Text.Search
import Mathlib.Data.Nat.Digits.Defs

/-!
# Numbers in base sixteen

Hexadecimal digits alone are read as the number that they denote (`readIntegerIn?_sixteen`): none of
what may stand in and around such a number in free text can be mistaken for a digit.
-/

namespace HelpCenter

/-- The digits of base sixteen. -/
def hexDigits : Text := lit "0123456789abcdefABCDEF"

namespace CodePoint

variable {c : CodePoint}

theorem lt_of_hexValue?_eq_some {v : ℕ} (h : c.hexValue? = some v) : v < 16 ∧ c.toNat < 103 := by
  have hbetween (lo hi : Char) :
      between lo hi c = true ↔ lo.toNat ≤ c.toNat ∧ c.toNat ≤ hi.toNat := by
    simp [between]
  have h0 : '0'.toNat = 48 := rfl
  have h9 : '9'.toNat = 57 := rfl
  have ha : 'a'.toNat = 97 := rfl
  have hf : 'f'.toNat = 102 := rfl
  have hA : 'A'.toNat = 65 := rfl
  have hF : 'F'.toNat = 70 := rfl
  simp only [hexValue?, hbetween, h0, h9, ha, hf, hA, hF] at h
  split_ifs at h <;> · obtain rfl := Option.some.inj h; omega

theorem isHexDigit_iff_mem : c.isHexDigit = true ↔ c ∈ hexDigits := by
  constructor
  · intro h
    obtain ⟨v, hv⟩ := Option.isSome_iff_exists.1 h
    have hall : ∀ n < 103, (ofNat n).isHexDigit = true → ofNat n ∈ hexDigits := by decide +kernel
    rw [← ofNat_toNat c] at h ⊢
    exact hall _ (lt_of_hexValue?_eq_some hv).2 h
  · have hall : ∀ d ∈ hexDigits, d.isHexDigit = true := by decide
    exact hall c

end CodePoint

namespace Text

variable {t : Text} {c : CodePoint}

/-- The number that hexadecimal digits denote. -/
def numberOfHex (t : Text) : ℕ := Nat.ofDigits 16 (t.map fun c => c.hexValue?.getD 0).reverse

theorem value_sixteen (t : Text) : Base.sixteen.value t = t.numberOfHex := by
  rw [numberOfHex, Nat.ofDigits_eq_foldr, List.foldr_reverse, List.foldl_map, Base.value]
  congr 1
  funext n c
  simp only [Base.radix, Nat.cast_id]
  omega

theorem numberOfHex_lt (t : Text) : t.numberOfHex < 16 ^ t.length := by
  have hdigit : ∀ d ∈ (t.map fun c => c.hexValue?.getD 0).reverse, d < 16 := by
    simp only [List.mem_reverse, List.mem_map]
    rintro _ ⟨c, -, rfl⟩
    cases hc : c.hexValue? with
    | none => exact Nat.succ_pos _
    | some v => exact (CodePoint.lt_of_hexValue?_eq_some hc).1
  exact (Nat.ofDigits_lt_base_pow_length (by norm_num) hdigit).trans_le (by simp)

/-! ## Digits alone -/

theorem dropWhile_of_forall {p : CodePoint → Bool} (h : ∀ c ∈ t, p c = false) :
    t.dropWhile p = t := by
  cases t with
  | nil => rfl
  | cons c t => rw [List.dropWhile_cons_of_neg (by simp [h c (List.mem_cons_self ..)])]

theorem trimBy_of_forall {p : CodePoint → Bool} (h : ∀ c ∈ t, p c = false) : trimBy p t = t := by
  rw [trimBy, trimLeftBy, trimRightBy, dropWhile_of_forall h,
    dropWhile_of_forall (by simpa using h), List.reverse_reverse]

theorem trimBy_between {p : CodePoint → Bool} {first last : CodePoint} (hne : t ≠ [])
    (h : ∀ c ∈ t, p c = false) (hfirst : p first = true) (hlast : p last = true) :
    trimBy p (first :: (t ++ [last])) = t := by
  have hleft : (t ++ [last]).dropWhile p = t ++ [last] := by
    obtain ⟨c, s, rfl⟩ := List.exists_cons_of_ne_nil hne
    exact List.dropWhile_cons_of_neg (by simp [h c (List.mem_cons_self ..)])
  rw [trimBy, trimLeftBy, trimRightBy, List.dropWhile_cons_of_pos hfirst, hleft,
    List.reverse_append, List.reverse_singleton, List.singleton_append,
    List.dropWhile_cons_of_pos hlast, dropWhile_of_forall (by simpa using h), List.reverse_reverse]

theorem toLower_eq_map (h : ∀ c ∈ t, c.toNat ≠ 0x3A3 ∧ c.toNat ≠ 0x130) :
    toLower t = t.map CodePoint.lower := by
  suffices hafter : ∀ before, toLowerAfter before t = t.map CodePoint.lower from hafter []
  induction t with
  | nil => exact fun _ => rfl
  | cons c t ih =>
      intro before
      obtain ⟨hc, ht⟩ := List.forall_mem_cons.1 h
      rw [toLowerAfter, if_neg hc.1, if_neg hc.2, ih ht]
      rfl

theorem underscoresSeparate_of_forall (h : ∀ c ∈ t, c.is '_' = false) :
    underscoresSeparate true t = true := by
  induction t with
  | nil => rfl
  | cons c t ih =>
      obtain ⟨hc, ht⟩ := List.forall_mem_cons.1 h
      rw [underscoresSeparate, hc, if_neg (by decide), ih ht]

theorem readIntegerIn?_sixteen (hne : t ≠ []) (h : ∀ c ∈ t, c.isHexDigit = true) :
    readIntegerIn? .sixteen t = some (t.numberOfHex : ℤ) := by
  have hdigit {p : CodePoint → Prop} (hp : ∀ d ∈ hexDigits, p d) : ∀ c ∈ t, p c :=
    fun c hc => hp c (CodePoint.isHexDigit_iff_mem.1 (h c hc))
  have hline : ∀ c ∈ t, c.is '_' = false := hdigit (by decide)
  have htrim : trimBy isNumberBlank t = t := trimBy_of_forall (hdigit (by decide +kernel))
  have hascii : asciiDigits t = t :=
    (List.map_congr_left (hdigit (by decide +kernel))).trans (List.map_id t)
  have hsign : splitSign t = (false, t) := by
    obtain ⟨c, s, rfl⟩ := List.exists_cons_of_ne_nil hne
    have hsigns : c ≠ '-' ∧ c ≠ '+' :=
      hdigit (p := fun d => d ≠ '-' ∧ d ≠ '+') (by decide) c (List.mem_cons_self ..)
    rw [splitSign, if_neg hsigns.1, if_neg hsigns.2]
  have hmark : startsWith (toLower t) (lit "0x") = false := by
    rw [toLower_eq_map (hdigit (by decide)), startsWith, Option.isSome_eq_false_iff,
      Option.isNone_iff_eq_none]
    refine Option.eq_none_iff_forall_ne_some.2 fun rest hrest => ?_
    have hmem : ('x' : CodePoint) ∈ t.map CodePoint.lower := by
      rw [eq_append_of_afterPrefix? hrest]
      exact List.mem_append_left _ (by decide)
    obtain ⟨c, hc, hx⟩ := List.mem_map.1 hmem
    exact hdigit (p := fun d => d.lower ≠ 'x') (by decide +kernel) c hc hx
  have hfilter : t.filter (fun c => !c.is '_') = t :=
    List.filter_eq_self.2 fun c hc => by rw [hline c hc]; rfl
  have hall : t.all Base.sixteen.isDigit = true := List.all_eq_true.2 (hdigit (by decide))
  have hseparate : underscoresSeparate false t = true := by
    obtain ⟨c, s, rfl⟩ := List.exists_cons_of_ne_nil hne
    obtain ⟨hc, hs⟩ := List.forall_mem_cons.1 hline
    rw [underscoresSeparate, hc, if_neg (by decide), underscoresSeparate_of_forall hs]
  have hempty : t.isEmpty = false := by simpa using hne
  simp [readIntegerIn?, htrim, hascii, hsign, Base.mark, hmark, hfilter, hall, hseparate, hempty,
    value_sixteen]

end Text

end HelpCenter

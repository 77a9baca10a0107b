import HelpCenter.Proofs.Number.Digits
import HelpCenter.Proofs.Text.Encoding

/-!
# Plain text

A text of ASCII characters without carriage returns survives being written to a file and read back:
it has an encoding, and no line end has to be changed.
-/

namespace HelpCenter

/-- An ASCII character that is no carriage return. -/
def CodePoint.IsPlain (c : CodePoint) : Prop := c.toNat < 0x80 ∧ c.toNat ≠ 13

namespace Text

/-- All characters are ASCII, and none is a carriage return. -/
def IsPlain (t : Text) : Prop := ∀ c ∈ t, c.IsPlain

instance (c : CodePoint) : Decidable c.IsPlain := inferInstanceAs (Decidable (_ ∧ _))

instance (t : Text) : Decidable t.IsPlain := inferInstanceAs (Decidable (∀ c ∈ t, c.IsPlain))

variable {s t : Text} {c : CodePoint}

theorem isPlain_nil : IsPlain [] := fun _ h => nomatch h

theorem isPlain_cons (hc : c.IsPlain) (ht : IsPlain t) : IsPlain (c :: t) :=
  List.forall_mem_cons.2 ⟨hc, ht⟩

theorem isPlain_append (hs : IsPlain s) (ht : IsPlain t) : IsPlain (s ++ t) :=
  List.forall_mem_append.2 ⟨hs, ht⟩

theorem isPlain_flatMap {α : Type} {f : α → Text} {xs : List α} (h : ∀ x ∈ xs, IsPlain (f x)) :
    IsPlain (xs.flatMap f) := by
  intro c hc
  obtain ⟨x, hx, hc⟩ := List.mem_flatMap.1 hc
  exact h x hx c hc

theorem isPlain_of_digits (h : ∀ c ∈ t, c.isDigit = true) : IsPlain t := by
  intro c hc
  have hd := h c hc
  simp only [CodePoint.isDigit, CodePoint.between, Bool.and_eq_true, decide_eq_true_eq] at hd
  have h₁ : 48 ≤ c.toNat := hd.1
  have h₂ : c.toNat ≤ 57 := hd.2
  exact ⟨by omega, by omega⟩

theorem isPlain_ofNat (n : ℕ) : IsPlain (ofNat n) := isPlain_of_digits fun _ => isDigit_of_mem_ofNat

theorem isPlain_hexPadded (width n : ℕ) : IsPlain (hexPadded width n) := by
  have digit {d : ℕ} (hd : d < 16) : (hexDigit d).IsPlain := by
    revert d
    decide
  induction width generalizing n with
  | zero => exact isPlain_nil
  | succ width ih =>
      exact isPlain_append (ih _) (isPlain_cons (digit (Nat.mod_lt _ (by norm_num))) isPlain_nil)

theorem isPlain_ofInt (n : ℤ) : IsPlain (ofInt n) := by
  unfold ofInt
  split
  · exact isPlain_cons (by decide) (isPlain_ofNat _)
  · exact isPlain_ofNat _

/-! ## Writing and reading -/

theorem IsPlain.isEncodable (h : IsPlain t) : t.isEncodable = true := by
  refine List.all_eq_true.2 fun c hc => ?_
  have hlt := (h c hc).1
  simp [CodePoint.isSurrogate]
  omega

theorem IsPlain.normalizeNewlines (h : IsPlain t) : t.normalizeNewlines = t :=
  normalizeNewlines_of_notMem fun hmem => (h _ hmem).2 rfl

/-- A plain text has an encoding, from which it is read back. -/
theorem IsPlain.decode (h : IsPlain t) :
    ∃ bytes, t.toUtf8? = some bytes ∧ Utf8.decode bytes = .ok t :=
  ⟨_, if_pos h.isEncodable, decode_toUtf8? (if_pos h.isEncodable)⟩

end Text

end HelpCenter

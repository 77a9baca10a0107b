import HelpCenter.Json.Reader
import HelpCenter.Proofs.Except
import HelpCenter.Proofs.Text.Search
import Mathlib

/-!
# How far the JSON reader goes

Whatever is read takes at least one character (`Shortens`), so the depth to which the reader may go
for a text of its length is enough: allowed more, it reads the same (`readValue_of_le`).
-/

namespace HelpCenter.Json

/-- What is left of a text behind a part of a string. -/
def StringPart.rest : StringPart → Text
  | .char _ rest => rest
  | .close rest => rest

/-- A text that is read is left shorter. -/
def Shortens {α : Type} (read : Text → Except JsonFault (α × Text)) : Prop :=
  ∀ t x rest, read t = .ok (x, rest) → rest.length < t.length

variable {t rest : Text} {fuel : ℕ} {v : Json}

/-! ## Strings -/

theorem length_skipGap_le (t : Text) : (skipGap t).length ≤ t.length :=
  (List.dropWhile_suffix _).length_le

theorem length_readUnit? {n : ℕ} (h : readUnit? t = some (n, rest)) : rest.length < t.length := by
  unfold readUnit? at h
  split at h
  · simp only [Option.bind_eq_bind, Option.bind_eq_some_iff] at h
    obtain ⟨_, -, _, -, _, -, _, -, h⟩ := h
    cases h
    simp only [List.length_cons]
    omega
  · cases h

theorem length_readPart? {part : StringPart} (h : readPart? t = some part) :
    part.rest.length < t.length := by
  unfold readPart? at h
  split at h
  · cases h
  · next c t =>
    split_ifs at h with hquote hslash hcontrol
    · cases h
      exact Nat.lt_succ_self _
    · split at h
      · cases h
      · next e t =>
        split_ifs at h
        · split at h
          · cases h
          · next v w hv =>
            have hw := length_readUnit? hv
            -- one unit is read, or two that make a pair
            have hchar {d : CodePoint} {r : Text} (hr : r.length ≤ w.length)
                (hpart : some (.char d r) = some part) :
                part.rest.length < (c :: e :: t).length := by
              cases hpart
              simp only [StringPart.rest, List.length_cons]
              omega
            dsimp only at h
            split at h
            · next b l more =>
              split_ifs at h
              · split at h
                · cases h
                · next low r hlow =>
                  have hr := length_readUnit? hlow
                  split_ifs at h
                  · exact hchar (hr.le.trans (by simp only [List.length_cons]; omega)) h
                  · exact hchar le_rfl h
              · exact hchar le_rfl h
            · exact hchar le_rfl h
        · obtain ⟨d, -, rfl⟩ := Option.map_eq_some_iff.1 h
          simp [StringPart.rest]
    · cases h
      exact Nat.lt_succ_self _

theorem length_readString? {s : Text} (h : readString? fuel t = some (s, rest)) :
    rest.length < t.length := by
  induction fuel generalizing t s with
  | zero => cases h
  | succ fuel ih =>
      rw [readString?] at h
      cases hpart : readPart? t with
      | none => simp [hpart] at h
      | some part =>
          have hlt := length_readPart? hpart
          cases part with
          | close r =>
              simp only [hpart, Option.some.injEq, Prod.mk.injEq] at h
              exact h.2 ▸ hlt
          | char c r =>
              simp only [hpart, Option.map_eq_some_iff] at h
              obtain ⟨⟨s', r'⟩, hrest, heq⟩ := h
              cases heq
              exact (ih hrest).trans hlt

theorem readString?_succ (h : t.length < fuel) :
    readString? (fuel + 1) t = readString? fuel t := by
  induction fuel generalizing t with
  | zero => exact absurd h (Nat.not_lt_zero _)
  | succ fuel ih =>
      rw [readString?, readString?]
      cases hpart : readPart? t with
      | none => rfl
      | some part =>
          have hlt := length_readPart? hpart
          cases part with
          | close r => rfl
          | char c r =>
              dsimp only [StringPart.rest] at hlt ⊢
              rw [ih (by omega)]

/-! ## Numbers and words -/

theorem length_readFraction_le (t : Text) : (readFraction t).2.length ≤ t.length := by
  unfold readFraction
  split
  · next c d t =>
    split
    · have := (List.dropWhile_suffix (l := t) CodePoint.isDigit).length_le
      simp only [List.length_cons]
      omega
    · exact le_rfl
  · exact le_rfl

theorem length_splitSign_le (t : Text) : (Text.splitSign t).2.length ≤ t.length := by
  unfold Text.splitSign
  split
  · exact le_rfl
  · split_ifs <;> simp

theorem length_readPower_le (t : Text) : (readPower t).2.length ≤ t.length := by
  unfold readPower
  split
  · next c t =>
    dsimp only
    split
    · exact ((List.dropWhile_suffix _).length_le.trans (length_splitSign_le t)).trans
        (Nat.le_succ _)
    · exact le_rfl
  · exact le_rfl

theorem length_wholeDigits_le (t : Text) : (wholeDigits t).length ≤ t.length := by
  unfold wholeDigits
  split
  · split
    · exact Nat.le_add_left 1 _
    · exact (List.takeWhile_sublist _).length_le
  · exact le_rfl

theorem shortens_readNumber (neg : Bool) : Shortens (readNumber neg) := by
  intro t v rest h
  unfold readNumber at h
  dsimp only at h
  split at h
  · cases h
  · next hwhole =>
    have hpos : 0 < (wholeDigits t).length := by
      simpa [List.length_pos_iff] using hwhole
    have hrest : rest = (readPower (readFraction (t.drop (wholeDigits t).length)).2).2 := by
      split_ifs at h <;> cases h <;> rfl
    have hwhole := length_wholeDigits_le t
    have hpower := length_readPower_le (readFraction (t.drop (wholeDigits t).length)).2
    have hfraction := length_readFraction_le (t.drop (wholeDigits t).length)
    rw [List.length_drop] at hfraction
    rw [hrest]
    omega

theorem shortens_readWord : Shortens readWord := by
  intro t v rest h
  unfold readWord at h
  dsimp only at h
  split at h
  · next found hfound =>
    obtain ⟨word, hword, hv⟩ := List.exists_of_findSome?_eq_some hfound
    obtain ⟨r, hr, rfl⟩ := Option.map_eq_some_iff.1 hv
    cases h
    have hlength := congrArg List.length (Text.eq_append_of_afterPrefix? hr)
    rw [List.length_append] at hlength
    have hpos : 0 < (Text.ofString word.1).length := by
      clear * - hword
      revert word
      decide
    omega
  · cases h

/-! ## Values take something -/

theorem shortens_readValue_succ (hitems : Shortens (readItems fuel))
    (hmembers : Shortens (readMembers fuel [])) : Shortens (readValue (fuel + 1)) := by
  intro t v rest h
  cases t with
  | nil => cases h
  | cons c t =>
      have hskip := length_skipGap_le t
      rw [readValue] at h
      rw [List.length_cons]
      split_ifs at h with hquote hlist hobj hdigit hminus
      · split at h
        · next s r hs =>
          cases h
          exact (length_readString? hs).trans (Nat.lt_succ_self _)
        · cases h
      · split at h
        · next d more hd =>
          rw [hd, List.length_cons] at hskip
          split_ifs at h
          · cases h
            omega
          · obtain ⟨found, hfound, h⟩ := Except.bind_eq_ok_iff.1 h
            have hlt := hitems _ _ _ hfound
            rw [List.length_cons] at hlt
            cases h
            omega
        · cases h
      · split at h
        · next d more hd =>
          rw [hd, List.length_cons] at hskip
          split_ifs at h
          · cases h
            omega
          · obtain ⟨found, hfound, h⟩ := Except.bind_eq_ok_iff.1 h
            have hlt := hmembers _ _ _ hfound
            rw [List.length_cons] at hlt
            cases h
            omega
        · cases h
      · exact shortens_readNumber false _ _ _ h
      · exact (shortens_readNumber true _ _ _ h).trans (Nat.lt_succ_self _)
      · exact shortens_readWord _ _ _ h

theorem shortens_readItems_succ (hvalue : Shortens (readValue fuel))
    (hitems : Shortens (readItems fuel)) : Shortens (readItems (fuel + 1)) := by
  intro t items rest h
  rw [readItems] at h
  obtain ⟨⟨item, r⟩, hitem, h⟩ := Except.bind_eq_ok_iff.1 h
  have hr := hvalue _ _ _ hitem
  have hskip := length_skipGap_le r
  dsimp only at h
  split at h
  · next c more hmore =>
    rw [hmore, List.length_cons] at hskip
    split_ifs at h
    · cases h
      omega
    · obtain ⟨found, hfound, h⟩ := Except.bind_eq_ok_iff.1 h
      have hlt := hitems _ _ _ hfound
      have hgap := length_skipGap_le more
      cases h
      omega
  · cases h

theorem shortens_readMembers_succ (hvalue : Shortens (readValue fuel))
    (hmembers : ∀ known, Shortens (readMembers fuel known)) (known : List (Text × Json)) :
    Shortens (readMembers (fuel + 1) known) := by
  intro t members rest h
  cases t with
  | nil => cases h
  | cons q t =>
      rw [readMembers] at h
      rw [List.length_cons]
      split_ifs at h
      split at h
      · cases h
      · next name r hname =>
        have hr := length_readString? hname
        have hskip := length_skipGap_le r
        split at h
        · next colon more hcolon =>
          rw [hcolon, List.length_cons] at hskip
          have hgap := length_skipGap_le more
          split_ifs at h
          obtain ⟨⟨value, r⟩, hv, h⟩ := Except.bind_eq_ok_iff.1 h
          have hlt := hvalue _ _ _ hv
          have hskip := length_skipGap_le r
          dsimp only at h
          split at h
          · next d last hlast =>
            rw [hlast, List.length_cons] at hskip
            split_ifs at h
            · cases h
              omega
            · have hlt := hmembers _ _ _ _ h
              have hgap := length_skipGap_le last
              omega
          · cases h
        · cases h

theorem shortens_read (fuel : ℕ) : Shortens (readValue fuel) ∧ Shortens (readItems fuel) ∧
    ∀ known, Shortens (readMembers fuel known) := by
  induction fuel with
  | zero => exact ⟨nofun, nofun, nofun⟩
  | succ fuel ih =>
      obtain ⟨hvalue, hitems, hmembers⟩ := ih
      exact ⟨shortens_readValue_succ hitems (hmembers []), shortens_readItems_succ hvalue hitems,
        shortens_readMembers_succ hvalue hmembers⟩

/-! ## The depth suffices -/

theorem readValue_succ (hitems : ∀ u, 2 * u.length + 2 ≤ fuel →
      readItems (fuel + 1) u = readItems fuel u)
    (hmembers : ∀ u, 2 * u.length + 2 ≤ fuel →
      readMembers (fuel + 1) [] u = readMembers fuel [] u) (ht : 2 * t.length + 1 ≤ fuel + 1) :
    readValue (fuel + 2) t = readValue (fuel + 1) t := by
  cases t with
  | nil => rfl
  | cons c t =>
      rw [List.length_cons] at ht
      have hskip := length_skipGap_le t
      rw [readValue, readValue, readString?_succ (by omega)]
      cases hd : skipGap t with
      | nil => rfl
      | cons d more =>
          rw [hd] at hskip
          dsimp only
          rw [hitems _ (by omega), hmembers _ (by omega)]

theorem readItems_succ (hvalue : ∀ u, 2 * u.length + 1 ≤ fuel →
      readValue (fuel + 1) u = readValue fuel u)
    (hitems : ∀ u, 2 * u.length + 2 ≤ fuel → readItems (fuel + 1) u = readItems fuel u)
    (ht : 2 * t.length + 2 ≤ fuel + 1) : readItems (fuel + 2) t = readItems (fuel + 1) t := by
  rw [readItems, readItems, hvalue t (by omega)]
  cases hitem : readValue fuel t with
  | error fault => rfl
  | ok found =>
      have hr := (shortens_read fuel).1 _ found.1 found.2 hitem
      have hskip := length_skipGap_le found.2
      rw [Except.ok_bind, Except.ok_bind]
      dsimp only
      cases hc : skipGap found.2 with
      | nil => rfl
      | cons c more =>
          rw [hc, List.length_cons] at hskip
          have hgap := length_skipGap_le more
          dsimp only
          rw [hitems _ (by omega)]

theorem readMembers_succ (hvalue : ∀ u, 2 * u.length + 1 ≤ fuel →
      readValue (fuel + 1) u = readValue fuel u)
    (hmembers : ∀ known u, 2 * u.length + 2 ≤ fuel →
      readMembers (fuel + 1) known u = readMembers fuel known u) {known : List (Text × Json)}
    (ht : 2 * t.length + 2 ≤ fuel + 1) :
    readMembers (fuel + 2) known t = readMembers (fuel + 1) known t := by
  cases t with
  | nil => rw [readMembers, readMembers]
  | cons q t =>
      rw [List.length_cons] at ht
      rw [readMembers, readMembers, readString?_succ (by omega)]
      cases hname : readString? fuel t with
      | none => rfl
      | some name =>
          have hr : name.2.length < t.length := length_readString? hname
          have hskip := length_skipGap_le name.2
          dsimp only
          cases hcolon : skipGap name.2 with
          | nil => rfl
          | cons colon more =>
              rw [hcolon, List.length_cons] at hskip
              have hgap := length_skipGap_le more
              dsimp only
              rw [hvalue _ (by omega)]
              cases hv : readValue fuel (skipGap more) with
              | error fault => rfl
              | ok found =>
                  have hfound := (shortens_read fuel).1 _ found.1 found.2 hv
                  have hskip := length_skipGap_le found.2
                  rw [Except.ok_bind, Except.ok_bind]
                  cases hlast : skipGap found.2 with
                  | nil => rfl
                  | cons c last =>
                      rw [hlast, List.length_cons] at hskip
                      have hrest := length_skipGap_le last
                      dsimp only
                      rw [hmembers _ _ (by omega)]

theorem read_succ (fuel : ℕ) :
    (∀ t, 2 * t.length + 1 ≤ fuel → readValue (fuel + 1) t = readValue fuel t) ∧
      (∀ t, 2 * t.length + 2 ≤ fuel → readItems (fuel + 1) t = readItems fuel t) ∧
      ∀ known t, 2 * t.length + 2 ≤ fuel →
        readMembers (fuel + 1) known t = readMembers fuel known t := by
  induction fuel with
  | zero => exact ⟨fun t h => by omega, fun t h => by omega, fun known t h => by omega⟩
  | succ fuel ih =>
      obtain ⟨hvalue, hitems, hmembers⟩ := ih
      exact ⟨fun t ht => readValue_succ hitems (hmembers []) ht,
        fun t ht => readItems_succ hvalue hitems ht,
        fun known t ht => readMembers_succ hvalue hmembers ht⟩

/-- Allowed to go deeper than a text is long, the reader reads the same. -/
theorem readValue_of_le {fuel' : ℕ} (ht : 2 * t.length + 1 ≤ fuel) (hle : fuel ≤ fuel') :
    readValue fuel' t = readValue fuel t := by
  induction hle with
  | refl => rfl
  | step hle ih => rw [(read_succ _).1 t (ht.trans hle), ih]

/-! ## Integers that are too long -/

/-- Only in a long text is there an integer that is too long. -/
def IsLongIfHuge {α : Type} (read : Text → Except JsonFault (α × Text)) : Prop :=
  ∀ t, read t = .error .hugeInteger → Text.maxIntegerDigits < t.length

theorem isLongIfHuge_readNumber (neg : Bool) : IsLongIfHuge (readNumber neg) := by
  intro t h
  unfold readNumber at h
  dsimp only at h
  split_ifs at h with hempty hplain hlong
  · cases h
  · exact hlong.trans_le (length_wholeDigits_le t)

theorem isLongIfHuge_readWord : IsLongIfHuge readWord := by
  intro t h
  unfold readWord at h
  dsimp only at h
  split at h <;> cases h

theorem isLongIfHuge_readValue_succ (hitems : IsLongIfHuge (readItems fuel))
    (hmembers : IsLongIfHuge (readMembers fuel [])) : IsLongIfHuge (readValue (fuel + 1)) := by
  intro t h
  cases t with
  | nil => cases h
  | cons c t =>
      have hskip := length_skipGap_le t
      rw [readValue] at h
      split_ifs at h
      · split at h <;> cases h
      · split at h
        · next d more hd =>
          rw [hd] at hskip
          split_ifs at h
          obtain hhuge | ⟨found, -, h⟩ := Except.bind_eq_error_iff.1 h
          · exact (hitems _ hhuge).trans_le (hskip.trans (Nat.le_succ _))
          · cases h
        · cases h
      · split at h
        · next d more hd =>
          rw [hd] at hskip
          split_ifs at h
          obtain hhuge | ⟨found, -, h⟩ := Except.bind_eq_error_iff.1 h
          · exact (hmembers _ hhuge).trans_le (hskip.trans (Nat.le_succ _))
          · cases h
        · cases h
      · exact isLongIfHuge_readNumber false _ h
      · exact (isLongIfHuge_readNumber true _ h).trans (Nat.lt_succ_self _)
      · exact isLongIfHuge_readWord _ h

theorem isLongIfHuge_readItems_succ (hvalue : IsLongIfHuge (readValue fuel))
    (hitems : IsLongIfHuge (readItems fuel)) : IsLongIfHuge (readItems (fuel + 1)) := by
  intro t h
  rw [readItems] at h
  obtain hhuge | ⟨⟨item, r⟩, hitem, h⟩ := Except.bind_eq_error_iff.1 h
  · exact hvalue _ hhuge
  · have hr := (shortens_read fuel).1 _ _ _ hitem
    have hskip := length_skipGap_le r
    dsimp only at h
    split at h
    · next c more hmore =>
      rw [hmore, List.length_cons] at hskip
      split_ifs at h
      · cases h
      · have hgap := length_skipGap_le more
        obtain hhuge | ⟨found, -, h⟩ := Except.bind_eq_error_iff.1 h
        · have hlong := hitems _ hhuge
          omega
        · cases h
      · cases h
    · cases h

theorem isLongIfHuge_readMembers_succ (hvalue : IsLongIfHuge (readValue fuel))
    (hmembers : ∀ known, IsLongIfHuge (readMembers fuel known)) (known : List (Text × Json)) :
    IsLongIfHuge (readMembers (fuel + 1) known) := by
  intro t h
  cases t with
  | nil => cases h
  | cons q t =>
      rw [readMembers] at h
      rw [List.length_cons]
      split_ifs at h
      · split at h
        · cases h
        · next name r hname =>
          have hr := length_readString? hname
          have hskip := length_skipGap_le r
          split at h
          · next colon more hcolon =>
            rw [hcolon, List.length_cons] at hskip
            have hgap := length_skipGap_le more
            split_ifs at h
            · obtain hhuge | ⟨⟨value, r⟩, hv, h⟩ := Except.bind_eq_error_iff.1 h
              · have hlong := hvalue _ hhuge
                omega
              · have hlt := (shortens_read fuel).1 _ _ _ hv
                have hskip := length_skipGap_le r
                dsimp only at h
                split at h
                · next d last hlast =>
                  rw [hlast, List.length_cons] at hskip
                  split_ifs at h
                  · cases h
                  · have hlong := hmembers _ _ h
                    have hgap := length_skipGap_le last
                    omega
                  · cases h
                · cases h
            · cases h
          · cases h
      · cases h

theorem isLongIfHuge_read (fuel : ℕ) : IsLongIfHuge (readValue fuel) ∧
    IsLongIfHuge (readItems fuel) ∧ ∀ known, IsLongIfHuge (readMembers fuel known) := by
  induction fuel with
  | zero => exact ⟨nofun, nofun, nofun⟩
  | succ fuel ih =>
      obtain ⟨hvalue, hitems, hmembers⟩ := ih
      exact ⟨isLongIfHuge_readValue_succ hitems (hmembers []),
        isLongIfHuge_readItems_succ hvalue hitems, isLongIfHuge_readMembers_succ hvalue hmembers⟩

/-- A text that holds too long an integer is longer than the longest integer that is read. -/
theorem lt_length_of_parse (h : parse t = .error .hugeInteger) :
    Text.maxIntegerDigits < t.length := by
  unfold parse at h
  split at h
  · cases h
  · obtain hhuge | ⟨found, -, h⟩ := Except.bind_eq_error_iff.1 h
    · exact ((isLongIfHuge_read _).1 _ hhuge).trans_le (length_skipGap_le t)
    · dsimp only at h
      split at h <;> cases h

end HelpCenter.Json

import HelpCenter.Proofs.Yaml.Quoted

/-!
# What stands between double quotes

`Quotes s t` says that the text `s` between double quotes, all on one line, stands for the text `t`:
this is what is read there (`Quotes.readQuoted_eq`).  A text on one line stands for something, or a
scalar ends inside it, or it ends with an escape sign, or no scalar begins with it (`extent`); and it
stands for itself only if it has neither quotes nor escapes (`Quotes.length_le`).
-/

namespace HelpCenter.Yaml

open Cursor

variable {c : Cursor} {s s' t t' r : Text} {e : CodePoint}

/-- A text behind an escape sign, on the same line, stands for a character. -/
inductive Escapes : Text → CodePoint → Prop
  | letter {e d : CodePoint} (he : escapedChar? e = some d) : Escapes [e] d
  | code {e d : CodePoint} {width : ℕ} {digits : Text} (he : escapedChar? e = none)
    (hwidth : escapeWidth? e = some width) (hlength : digits.length = width)
    (hdigits : digits.all CodePoint.isHexDigit = true)
    (hd : charOfEscape (hexValue digits) = .ok d) :
    Escapes (e :: digits) d

/-- A text on one line between double quotes stands for another text. -/
inductive Quotes : Text → Text → Prop
  | nil : Quotes [] []
  | verbatim {ch : CodePoint} {s t : Text} (hch : IsVerbatim ch) (h : Quotes s t) :
    Quotes (ch :: s) (ch :: t)
  | escape {sign s t : Text} {d : CodePoint} (hsign : Escapes sign d) (h : Quotes s t) :
    Quotes (('\\' : CodePoint) :: (sign ++ s)) (d :: t)

theorem Escapes.isBreak {sign : Text} {d : CodePoint} (h : Escapes sign d) :
    ∀ ch ∈ sign, isBreak ch = false := by
  cases h with
  | letter he =>
    exact List.forall_mem_singleton.2 <| isBreak_eq_false (p := fun e => (escapedChar? e).isSome)
      (by rw [he]; rfl) (by decide)
  | code _ hwidth _ hdigits _ =>
    refine List.forall_mem_cons.2 ⟨?_, fun ch hch => ?_⟩
    · exact isBreak_eq_false (p := fun e => (escapeWidth? e).isSome) (by rw [hwidth]; rfl)
        (by decide)
    · exact isBreak_eq_false (List.all_eq_true.1 hdigits ch hch) (by decide)

theorem quotes_of_verbatim (h : ∀ ch ∈ s, IsVerbatim ch) : Quotes s s := by
  induction s with
  | nil => exact .nil
  | cons ch s ih =>
    rw [List.forall_mem_cons] at h
    exact .verbatim h.1 (ih h.2)

theorem Quotes.isBreak (h : Quotes s t) : ∀ ch ∈ s, isBreak ch = false := by
  induction h with
  | nil => exact List.forall_mem_nil _
  | verbatim hch _ ih => exact List.forall_mem_cons.2 ⟨hch.isBreak, ih⟩
  | escape hsign _ ih =>
    refine List.forall_mem_cons.2 ⟨by decide, fun ch hch => ?_⟩
    rcases List.mem_append.1 hch with hch | hch
    · exact hsign.isBreak ch hch
    · exact ih ch hch

theorem Escapes.readEscape_eq {sign : Text} {d : CodePoint} (h : Escapes sign d)
    (hc : c.rest = ('\\' : CodePoint) :: (sign ++ r)) :
    readEscape c = .ok ([d], c.skip (sign.length + 1)) := by
  cases h with
  | letter he => simp [readEscape, hc, he]
  | code he hwidth hlength hdigits hd =>
    simp only [readEscape, hc, List.tail_cons, List.cons_append, he, hwidth, ← hlength,
      List.take_left, hdigits, hd]
    simp [Except.map, Nat.add_comm, Nat.add_left_comm]

/-- Reading the inside of a quoted scalar begins with what its beginning stands for. -/
theorem Quotes.quotedBody_eq (h : Quotes s t) (hr : GoesOn r) (hc : c.rest = s ++ r) :
    ∃ c', c.Passes s c' ∧ quotedBody c = prepend t <$> quotedBody c' := by
  induction h generalizing c with
  | nil =>
    refine ⟨c, passes_refl c, ?_⟩
    cases quotedBody c <;> rfl
  | @verbatim ch s t hch h ih =>
    have hnext := passes_next hc hch.isBreak
    obtain ⟨c', hpasses, hbody⟩ := ih (hnext.rest_eq hc)
    refine ⟨c', hnext.trans hpasses, ?_⟩
    rw [quotedBody_verbatim hc hch (hr.append h.isBreak), hbody, prepend_prepend]
    rfl
  | @escape sign s t d hsign h ih =>
    rw [List.cons_append, List.append_assoc] at hc
    have hskip : c.Passes (('\\' : CodePoint) :: sign) (c.skip (sign.length + 1)) :=
      passes_skip hc (List.forall_mem_cons.2 ⟨by decide, hsign.isBreak⟩)
    obtain ⟨c', hpasses, hbody⟩ := ih (hskip.rest_eq hc)
    refine ⟨c', hskip.trans hpasses, ?_⟩
    rw [quotedBody_escape hc, hsign.readEscape_eq hc]
    show prepend [d] <$> quotedBody (c.skip (sign.length + 1)) = _
    rw [hbody, prepend_prepend]
    rfl

theorem goesOn_quote (r : Text) : GoesOn (('"' : CodePoint) :: r) := ⟨'"', r, rfl, by decide⟩

/-- A text between double quotes is read as what it stands for, and the reading ends behind them. -/
theorem Quotes.readQuoted_eq (h : Quotes s t)
    (hc : c.rest = ('"' : CodePoint) :: (s ++ ('"' : CodePoint) :: r)) :
    ∃ c', c.Passes (('"' : CodePoint) :: (s ++ [('"' : CodePoint)])) c' ∧
      readQuoted '"' c = .ok (t, c') := by
  have hopen := passes_next hc (by decide)
  obtain ⟨d, hinside, hbody⟩ := h.quotedBody_eq (goesOn_quote r) (hopen.rest_eq hc)
  have hd : d.rest = ('"' : CodePoint) :: r := hinside.rest_eq (hopen.rest_eq hc)
  have hclose := passes_next hd (by decide)
  refine ⟨d.next, hopen.trans (hinside.trans hclose), ?_⟩
  rw [readQuoted_eq_quotedBody hc, hbody, quotedBody_close hd]
  simp [prepend]

/-! ## How far a quoted scalar reaches -/

theorem Escapes.length_pos {sign : Text} {d : CodePoint} (h : Escapes sign d) : 0 < sign.length := by
  cases h <;> exact Nat.succ_pos _

/-- Escapes are longer than what they stand for, and only a text without them stands for itself. -/
theorem Quotes.length_le (h : Quotes s t) :
    t.length ≤ s.length ∧ (t.length = s.length → t = s ∧ ∀ ch ∈ s, IsVerbatim ch) := by
  induction h with
  | nil => exact ⟨Nat.le_refl _, fun _ => ⟨rfl, List.forall_mem_nil _⟩⟩
  | verbatim hch _ ih =>
    refine ⟨Nat.succ_le_succ ih.1, fun hlength => ?_⟩
    obtain ⟨rfl, hs⟩ := ih.2 (Nat.succ.inj hlength)
    exact ⟨rfl, List.forall_mem_cons.2 ⟨hch, hs⟩⟩
  | escape hsign _ ih =>
    have hpos := hsign.length_pos
    simp only [List.length_cons, List.length_append]
    omega

/-- How a text on one line relates to a quoted scalar that begins with it, a quote standing behind. -/
inductive Extent (s : Text) : Prop
  /-- The text as a whole belongs to the scalar. -/
  | whole {t : Text} (h : Quotes s t)
  /-- The scalar ends inside the text. -/
  | ends {s₁ s₂ t : Text} (h : Quotes s₁ t) (hs : s = s₁ ++ ('"' : CodePoint) :: s₂)
  /-- The quote behind the text is escaped. -/
  | escapes {s₁ t : Text} (h : Quotes s₁ t) (hs : s = s₁ ++ [('\\' : CodePoint)])
  /-- There is no such scalar. -/
  | refuses (h : ∀ c r, c.rest = s ++ ('"' : CodePoint) :: r → ∃ fault, quotedBody c = .error fault)

theorem Quotes.append (h : Quotes s t) (h' : Quotes s' t') : Quotes (s ++ s') (t ++ t') := by
  induction h with
  | nil => exact h'
  | verbatim hch _ ih => exact .verbatim hch ih
  | escape hsign _ ih =>
    rw [List.cons_append, List.append_assoc]
    exact .escape hsign ih

theorem Extent.append (h : Extent s') (hs : Quotes s t) (hs' : ∀ ch ∈ s', isBreak ch = false) :
    Extent (s ++ s') := by
  cases h with
  | whole h => exact .whole (hs.append h)
  | ends h heq => exact .ends (hs.append h) (by rw [heq, List.append_assoc])
  | escapes h heq => exact .escapes (hs.append h) (by rw [heq, List.append_assoc])
  | refuses h =>
    refine .refuses fun c r hc => ?_
    rw [List.append_assoc] at hc
    obtain ⟨c', hpasses, hbody⟩ := hs.quotedBody_eq ((goesOn_quote r).append hs') hc
    obtain ⟨fault, hfault⟩ := h c' r (hpasses.rest_eq hc)
    exact ⟨fault, by rw [hbody, hfault]; rfl⟩

/-- Behind an escape sign stands what it takes, or no escape at all. -/
theorem escapes_or_refuses (he : isBreak e = false) :
    (∃ sign s' d, Escapes sign d ∧ e :: s = sign ++ s') ∨
      ∀ c r, c.rest = ('\\' : CodePoint) :: (e :: s ++ ('"' : CodePoint) :: r) →
        ∃ fault, readEscape c = .error fault := by
  cases hletter : escapedChar? e with
  | some d => exact .inl ⟨[e], s, d, .letter hletter, rfl⟩
  | none =>
    cases hwidth : escapeWidth? e with
    | none =>
      refine .inr fun c r hc => ⟨.malformed, ?_⟩
      simp only [readEscape, hc, List.tail_cons, List.cons_append, hletter, hwidth, he,
        Bool.false_eq_true, if_false]
    | some width =>
      by_cases hdigits : width ≤ s.length ∧ (s.take width).all CodePoint.isHexDigit = true
      · cases hd : charOfEscape (hexValue (s.take width)) with
        | ok d =>
          refine .inl ⟨e :: s.take width, s.drop width, d, ?_, ?_⟩
          · exact .code hletter hwidth (List.length_take_of_le hdigits.1) hdigits.2 hd
          · rw [List.cons_append, List.take_append_drop]
        | error fault =>
          refine .inr fun c r hc => ⟨fault, ?_⟩
          simp only [readEscape, hc, List.tail_cons, List.cons_append, hletter, hwidth,
            List.take_append_of_le_length hdigits.1, List.length_take_of_le hdigits.1, hdigits.2, hd]
          rfl
      · refine .inr fun c r hc => ⟨.malformed, ?_⟩
        simp only [readEscape, hc, List.tail_cons, List.cons_append, hletter, hwidth]
        rw [if_neg]
        intro hall
        rw [Bool.and_eq_true, decide_eq_true_iff] at hall
        refine hdigits ?_
        by_cases hshort : width ≤ s.length
        · rw [List.take_append_of_le_length hshort] at hall
          exact ⟨hshort, hall.2⟩
        · -- the quote would have to be a digit
          have hmem : ('"' : CodePoint) ∈ (s ++ ('"' : CodePoint) :: r).take width := by
            refine List.mem_of_getElem? (i := s.length) ?_
            rw [List.getElem?_take_of_lt (by omega), List.getElem?_append_right (Nat.le_refl _)]
            simp
          exact absurd (List.all_eq_true.1 hall.2 _ hmem) (by decide)

/-- A text on one line belongs to a quoted scalar up to some place. -/
theorem extent (hs : ∀ ch ∈ s, isBreak ch = false) : Extent s := by
  induction hlength : s.length using Nat.strongRecOn generalizing s with
  | _ n ih =>
    subst hlength
    cases s with
    | nil => exact .whole .nil
    | cons ch s =>
      rw [List.forall_mem_cons] at hs
      by_cases hquote : ch = '"'
      · exact .ends .nil (by rw [hquote]; rfl)
      by_cases hescape : ch = '\\'
      · subst hescape
        cases s with
        | nil => exact .escapes .nil rfl
        | cons e s =>
          rcases escapes_or_refuses (s := s) (hs.2 e (List.mem_cons_self ..)) with
            ⟨sign, s', d, hsign, heq⟩ | hrefuses
          · have hs' : ∀ ch ∈ s', isBreak ch = false := fun ch hch =>
              hs.2 ch (heq ▸ List.mem_append_right sign hch)
            have hshorter : s'.length < (('\\' : CodePoint) :: e :: s).length := by
              rw [List.length_cons, heq, List.length_append]
              omega
            rw [heq]
            refine (ih _ hshorter hs' rfl).append (s := ('\\' : CodePoint) :: sign) (t := [d]) ?_ hs'
            simpa using Quotes.escape hsign .nil
          · refine .refuses fun c r hc => ?_
            obtain ⟨fault, hfault⟩ := hrefuses c r hc
            exact ⟨fault, by rw [quotedBody_escape hc, hfault]; rfl⟩
      · have hch : IsVerbatim ch := ⟨hquote, hescape, hs.1⟩
        exact (ih _ (Nat.lt_succ_self _) hs.2 rfl).append (s := [ch]) (.verbatim hch .nil) hs.2

end HelpCenter.Yaml

import HelpCenter.Proofs.Json.Extent

/-!
# JSON that is interrupted

A fence cannot be part of JSON: outside of strings a backtick is not read, and a string that is
still open does not go on over the end of the fence's line.  So a text with a fence in it is read as
what stands in front of the fence, with more text left over (`stopsBefore_read`).  No value is
made of such a text, and reading it fails as reading the front part does (`parse_append`).
-/

namespace HelpCenter.Json

variable {behind u : Text} {fuel : ℕ}

/-- No token goes on over the front of the text. -/
structure Interrupts (behind : Text) : Prop where
  head : behind.head? = some '`'
  string : ∀ fuel, readString? fuel behind = none

/-- What is read, with more text after it. -/
def followed {α : Type} (behind : Text) (x : α × Text) : α × Text := (x.1, x.2 ++ behind)

/-- The part of a string, with more text after it. -/
def StringPart.followed (behind : Text) : StringPart → StringPart
  | .char c rest => .char c (rest ++ behind)
  | .close rest => .close (rest ++ behind)

/-- More text after a text is just left over. -/
def StopsBefore {α : Type} (behind : Text) (read : Text → Except JsonFault (α × Text)) : Prop :=
  ∀ u, read (u ++ behind) = (read u).map (followed behind)

/-! ## Fences -/

theorem readPart?_plain {c : CodePoint} {rest : Text} (hquote : c ≠ ('"' : CodePoint))
    (hslash : c ≠ ('\\' : CodePoint)) :
    readPart? (c :: rest) = if c.toNat < 32 then none else some (.char c rest) := by
  simp [readPart?, hquote, hslash]

/-- An open string does not go on over the end of a line. -/
theorem readString?_line {line : Text} (rest : Text)
    (h : ∀ c ∈ line, c ≠ ('"' : CodePoint) ∧ c ≠ ('\\' : CodePoint)) :
    readString? fuel (line ++ ('\n' : CodePoint) :: rest) = none := by
  induction fuel generalizing line with
  | zero => rfl
  | succ fuel ih =>
      cases line with
      | nil => rfl
      | cons c line =>
          obtain ⟨⟨hquote, hslash⟩, hline⟩ := List.forall_mem_cons.1 h
          rw [List.cons_append, readString?, readPart?_plain hquote hslash]
          split_ifs
          · rfl
          · simp [ih hline]

theorem interrupts_line {line : Text} (rest : Text) (hhead : line.head? = some '`')
    (h : ∀ c ∈ line, c ≠ ('"' : CodePoint) ∧ c ≠ ('\\' : CodePoint)) :
    Interrupts (line ++ ('\n' : CodePoint) :: rest) :=
  ⟨by rw [List.head?_append, hhead]; rfl, fun _ => readString?_line rest h⟩

theorem any_isDigit_of_takeWhile {t : Text} (h : t.takeWhile CodePoint.isDigit ≠ []) :
    t.any CodePoint.isDigit = true := by
  obtain ⟨c, hc⟩ := List.exists_mem_of_ne_nil _ h
  exact List.any_eq_true.2 ⟨c, List.takeWhile_subset _ hc, List.mem_takeWhile_imp hc⟩

theorem readItems_nil : readItems fuel [] = .error .malformed := by
  rcases fuel with _ | _ | fuel <;> rfl

theorem readMembers_nil {known : List (Text × Json)} :
    readMembers fuel known [] = .error .malformed := by
  cases fuel <;> simp [readMembers]

namespace Interrupts

variable (h : Interrupts behind)
include h

theorem eq_cons : ∃ rest, behind = ('`' : CodePoint) :: rest :=
  List.head?_eq_some_iff.1 h.head

theorem ne_nil : behind ≠ [] := by
  obtain ⟨rest, rfl⟩ := h.eq_cons
  exact List.cons_ne_nil _ _

/-! ## Strings -/

theorem readUnit?_append (u : Text) :
    readUnit? (u ++ behind) = (readUnit? u).map (followed behind) := by
  obtain ⟨rest, rfl⟩ := h.eq_cons
  have htick : ('`' : CodePoint).hexValue? = none := by decide
  rcases u with _ | ⟨a, _ | ⟨b, _ | ⟨c, _ | ⟨d, u⟩⟩⟩⟩
  · rcases rest with _ | ⟨b, _ | ⟨c, _ | ⟨d, rest⟩⟩⟩ <;> simp [readUnit?, htick]
  · rcases rest with _ | ⟨b, _ | ⟨c, rest⟩⟩ <;> simp [readUnit?, htick]
  · rcases rest with _ | ⟨b, rest⟩ <;> simp [readUnit?, htick]
  · simp [readUnit?, htick]
  · simp only [readUnit?, List.cons_append]
    cases a.hexValue? <;> cases b.hexValue? <;> cases c.hexValue? <;> cases d.hexValue? <;> rfl

/-- The part behind a unit may be the other half of a pair. -/
theorem readPart?_unit_append (u : Text) :
    readPart? (('\\' : CodePoint) :: ('u' : CodePoint) :: u ++ behind) =
      (readPart? (('\\' : CodePoint) :: ('u' : CodePoint) :: u)).map (·.followed behind) := by
  obtain ⟨rest, hrest⟩ := h.eq_cons
  have hslash : ('`' : CodePoint) ≠ '\\' := by decide
  have hunit : ('`' : CodePoint) ≠ 'u' := by decide
  have hquote : ('\\' : CodePoint) ≠ '"' := by decide
  simp only [readPart?, List.cons_append, h.readUnit?_append, hquote, if_true, if_false]
  cases readUnit? u with
  | none => rfl
  | some found =>
      obtain ⟨v, w⟩ := found
      rcases w with _ | ⟨b, _ | ⟨l, more⟩⟩
      · cases rest <;> simp [followed, hrest, StringPart.followed, hslash]
      · simp [followed, hrest, StringPart.followed, hunit]
      · simp only [followed, List.cons_append, Option.map_some, h.readUnit?_append]
        split_ifs with hpair
        · cases readUnit? more with
          | none => rfl
          | some low =>
              simp only [Option.map_some, followed]
              split_ifs <;> rfl
        · rfl

theorem readPart?_append (hu : u ≠ []) :
    readPart? (u ++ behind) = (readPart? u).map (·.followed behind) := by
  obtain ⟨rest, hrest⟩ := h.eq_cons
  cases u with
  | nil => exact absurd rfl hu
  | cons c u =>
      by_cases hquote : c = ('"' : CodePoint)
      · simp [readPart?, hquote, StringPart.followed]
      by_cases hesc : c = ('\\' : CodePoint)
      · subst hesc
        cases u with
        | nil =>
            rw [hrest]
            rfl
        | cons e u =>
            by_cases he : e = ('u' : CodePoint)
            · subst he
              exact h.readPart?_unit_append u
            · simp only [readPart?, List.cons_append, he, if_false]
              cases simpleEscape? e <;> rfl
      · simp only [List.cons_append, readPart?_plain hquote hesc]
        split_ifs <;> rfl

theorem readString?_append (u : Text) :
    readString? fuel (u ++ behind) = (readString? fuel u).map (followed behind) := by
  induction fuel generalizing u with
  | zero => rfl
  | succ fuel ih =>
      by_cases hu : u = []
      · rw [hu, List.nil_append, h.string]
        rfl
      · rw [readString?, readString?, h.readPart?_append hu]
        cases readPart? u with
        | none => rfl
        | some part =>
            cases part with
            | char c rest =>
                simp only [Option.map_some, StringPart.followed, ih]
                cases readString? fuel rest <;> rfl
            | close rest => rfl

/-! ## Numbers and words -/

theorem takeWhile_append {p : CodePoint → Bool} (hp : p '`' = false) (u : Text) :
    (u ++ behind).takeWhile p = u.takeWhile p := by
  obtain ⟨rest, rfl⟩ := h.eq_cons
  induction u with
  | nil => simp [hp]
  | cons c u ih => simp only [List.cons_append, List.takeWhile_cons, ih]

theorem dropWhile_append {p : CodePoint → Bool} (hp : p '`' = false) (u : Text) :
    (u ++ behind).dropWhile p = u.dropWhile p ++ behind := by
  obtain ⟨rest, rfl⟩ := h.eq_cons
  induction u with
  | nil => simp [hp]
  | cons c u ih =>
      simp only [List.cons_append, List.dropWhile_cons, ih]
      split <;> rfl

theorem skipGap_append (u : Text) : skipGap (u ++ behind) = skipGap u ++ behind :=
  h.dropWhile_append (by decide) u

theorem afterPrefix?_append {word : Text} (hword : ('`' : CodePoint) ∉ word) (u : Text) :
    Text.afterPrefix? word (u ++ behind) = (Text.afterPrefix? word u).map (· ++ behind) := by
  obtain ⟨rest, hrest⟩ := h.eq_cons
  induction word generalizing u with
  | nil => rfl
  | cons c word ih =>
      rw [List.mem_cons, not_or] at hword
      cases u with
      | nil => simp [hrest, Text.afterPrefix?, Ne.symm hword.1]
      | cons d u =>
          rw [List.cons_append, Text.afterPrefix?, Text.afterPrefix?, ih hword.2]
          split <;> rfl

theorem splitSign_append (u : Text) :
    Text.splitSign (u ++ behind) = followed behind (Text.splitSign u) := by
  obtain ⟨rest, hrest⟩ := h.eq_cons
  have hminus : ('`' : CodePoint) ≠ '-' := by decide
  have hplus : ('`' : CodePoint) ≠ '+' := by decide
  cases u with
  | nil => simp [hrest, Text.splitSign, followed, hminus, hplus]
  | cons c u =>
      simp only [List.cons_append, Text.splitSign]
      split_ifs <;> rfl

theorem readFraction_append (u : Text) :
    readFraction (u ++ behind) = followed behind (readFraction u) := by
  obtain ⟨rest, hrest⟩ := h.eq_cons
  have hdot : ('`' : CodePoint) ≠ '.' := by decide
  have hdigit : CodePoint.isDigit '`' = false := by decide
  rcases u with _ | ⟨c, _ | ⟨d, u⟩⟩
  · cases rest <;> simp [hrest, readFraction, followed, hdot]
  · simp [hrest, readFraction, followed, hdigit]
  · simp only [List.cons_append, readFraction]
    rw [← List.cons_append, h.takeWhile_append hdigit, h.dropWhile_append hdigit]
    split <;> rfl

theorem wholeDigits_append (u : Text) : wholeDigits (u ++ behind) = wholeDigits u := by
  obtain ⟨rest, hrest⟩ := h.eq_cons
  have hzero : ('`' : CodePoint) ≠ '0' := by decide
  have hdigit : CodePoint.isDigit '`' = false := by decide
  cases u with
  | nil => simp [hrest, wholeDigits, hzero, hdigit]
  | cons c u =>
      simp only [List.cons_append, wholeDigits]
      rw [← List.cons_append, h.takeWhile_append hdigit]

theorem readPower_append (u : Text) :
    readPower (u ++ behind) = followed behind (readPower u) := by
  obtain ⟨rest, hrest⟩ := h.eq_cons
  have hlower : ('`' : CodePoint) ≠ 'e' := by decide
  have hupper : ('`' : CodePoint) ≠ 'E' := by decide
  have hdigit : CodePoint.isDigit '`' = false := by decide
  cases u with
  | nil => simp [hrest, readPower, followed, hlower, hupper]
  | cons c u =>
      simp only [List.cons_append, readPower, h.splitSign_append, followed,
        h.takeWhile_append hdigit, h.dropWhile_append hdigit]
      by_cases hnone : (Text.splitSign u).2.takeWhile CodePoint.isDigit = []
      · simp [hnone]
      · have hany := any_isDigit_of_takeWhile hnone
        rw [List.any_append, hany, Bool.true_or]
        split <;> rfl

theorem stopsBefore_readNumber (neg : Bool) : StopsBefore behind (readNumber neg) := by
  intro u
  have hle := length_wholeDigits_le u
  unfold readNumber
  simp only [h.wholeDigits_append, List.drop_append_of_le_length hle, h.readFraction_append,
    h.readPower_append, followed]
  split_ifs <;> rfl

theorem findWord_append {words : List (String × Json)}
    (hwords : ∀ word ∈ words, ('`' : CodePoint) ∉ Text.ofString word.1) (u : Text) :
    (words.findSome? fun word =>
      (Text.afterPrefix? (Text.ofString word.1) (u ++ behind)).map ((word.2, ·))) =
    (words.findSome? fun word =>
      (Text.afterPrefix? (Text.ofString word.1) u).map ((word.2, ·))).map (followed behind) := by
  induction words with
  | nil => rfl
  | cons word words ih =>
      obtain ⟨hword, hwords⟩ := List.forall_mem_cons.1 hwords
      rw [List.findSome?_cons, List.findSome?_cons, h.afterPrefix?_append hword, ih hwords]
      cases Text.afterPrefix? (Text.ofString word.1) u <;> rfl

theorem stopsBefore_readWord : StopsBefore behind readWord := by
  intro u
  unfold readWord
  dsimp only
  rw [h.findWord_append (by decide)]
  cases List.findSome? _ _ <;> rfl

/-! ## Values -/

theorem head?_append (u : Text) :
    ((u ++ behind).head?.map CodePoint.isDigit).getD false =
      (u.head?.map CodePoint.isDigit).getD false := by
  cases u with
  | nil =>
      rw [List.nil_append, h.head]
      decide
  | cons c u => rfl

theorem stopsBefore_readValue_succ (hitems : StopsBefore behind (readItems fuel))
    (hmembers : StopsBefore behind (readMembers fuel [])) :
    StopsBefore behind (readValue (fuel + 1)) := by
  intro u
  obtain ⟨rest, hrest⟩ := h.eq_cons
  cases u with
  | nil =>
      -- what is behind starts no value: it is tried as a word, which it is not
      have hword := h.stopsBefore_readWord []
      rw [List.nil_append, hrest] at hword ⊢
      exact hword
  | cons c u =>
      simp only [readValue, List.cons_append, h.skipGap_append]
      by_cases hquote : c = '"'
      · simp only [hquote, if_true, h.readString?_append]
        cases readString? fuel u <;> rfl
      by_cases hlist : c = '['
      · rw [if_neg hquote, if_neg hquote, if_pos hlist, if_pos hlist]
        cases skipGap u with
        | nil =>
            have hnone := hitems []
            rw [List.nil_append, readItems_nil, hrest] at hnone
            rw [List.nil_append, hrest]
            dsimp only
            rw [if_neg (by decide), hnone]
            rfl
        | cons d more =>
            dsimp only [List.cons_append]
            split_ifs
            · rfl
            · rw [← List.cons_append, hitems]
              cases readItems fuel (d :: more) <;> rfl
      by_cases hobj : c = '{'
      · rw [if_neg hquote, if_neg hquote, if_neg hlist, if_neg hlist, if_pos hobj, if_pos hobj]
        cases skipGap u with
        | nil =>
            have hnone := hmembers []
            rw [List.nil_append, readMembers_nil, hrest] at hnone
            rw [List.nil_append, hrest]
            dsimp only
            rw [if_neg (by decide), hnone]
            rfl
        | cons d more =>
            dsimp only [List.cons_append]
            split_ifs
            · rfl
            · rw [← List.cons_append, hmembers]
              cases readMembers fuel [] (d :: more) <;> rfl
      simp only [hquote, hlist, hobj, if_false, h.head?_append, ← List.cons_append,
        h.stopsBefore_readNumber _ _, h.stopsBefore_readWord _]
      split_ifs <;> rfl

theorem stopsBefore_readItems_succ (hvalue : StopsBefore behind (readValue fuel))
    (hitems : StopsBefore behind (readItems fuel)) :
    StopsBefore behind (readItems (fuel + 1)) := by
  intro u
  obtain ⟨rest, hrest⟩ := h.eq_cons
  rw [readItems, readItems, hvalue]
  cases readValue fuel u with
  | error fault => rfl
  | ok found =>
      dsimp only [Except.map, followed]
      rw [Except.ok_bind, Except.ok_bind]
      dsimp only
      rw [h.skipGap_append]
      cases skipGap found.2 with
      | nil =>
          rw [List.nil_append, hrest]
          rfl
      | cons c r =>
          dsimp only [List.cons_append]
          rw [h.skipGap_append, hitems]
          split_ifs
          · rfl
          · cases readItems fuel (skipGap r) <;> rfl
          · rfl

theorem stopsBefore_readMembers_succ (hvalue : StopsBefore behind (readValue fuel))
    (hmembers : ∀ known, StopsBefore behind (readMembers fuel known))
    (known : List (Text × Json)) : StopsBefore behind (readMembers (fuel + 1) known) := by
  intro u
  obtain ⟨rest, hrest⟩ := h.eq_cons
  cases u with
  | nil =>
      rw [List.nil_append, hrest, readMembers, readMembers]
      rfl
  | cons q u =>
      simp only [readMembers, List.cons_append]
      by_cases hquote : q = '"'
      swap
      · rw [if_neg hquote, if_neg hquote]
        rfl
      rw [if_pos hquote, if_pos hquote, h.readString?_append]
      cases readString? fuel u with
      | none => rfl
      | some name =>
          dsimp only [Option.map_some, followed]
          rw [h.skipGap_append]
          cases skipGap name.2 with
          | nil =>
              rw [List.nil_append, hrest]
              rfl
          | cons colon r =>
              dsimp only [List.cons_append]
              split_ifs
              swap
              · rfl
              rw [h.skipGap_append, hvalue]
              cases readValue fuel (skipGap r) with
              | error fault => rfl
              | ok found =>
                  dsimp only [Except.map, followed]
                  rw [Except.ok_bind, Except.ok_bind]
                  dsimp only
                  rw [h.skipGap_append]
                  cases skipGap found.2 with
                  | nil =>
                      rw [List.nil_append, hrest]
                      rfl
                  | cons c r =>
                      dsimp only [List.cons_append]
                      rw [h.skipGap_append, hmembers]
                      split_ifs <;> rfl

theorem stopsBefore_read (fuel : ℕ) : StopsBefore behind (readValue fuel) ∧
    StopsBefore behind (readItems fuel) ∧ ∀ known, StopsBefore behind (readMembers fuel known) := by
  induction fuel with
  | zero => exact ⟨fun _ => rfl, fun _ => rfl, fun _ _ => rfl⟩
  | succ fuel ih =>
      obtain ⟨hvalue, hitems, hmembers⟩ := ih
      exact ⟨h.stopsBefore_readValue_succ hitems (hmembers []),
        h.stopsBefore_readItems_succ hvalue hitems, h.stopsBefore_readMembers_succ hvalue hmembers⟩

/-- A text with a fence behind it is no JSON, and fails as it does without the fence. -/
theorem parse_append (u : Text) :
    parse (u ++ behind) = parse u >>= fun _ => .error .malformed := by
  have hmark : (u ++ behind).head? = some (CodePoint.ofNat 0xFEFF) ↔
      u.head? = some (CodePoint.ofNat 0xFEFF) := by
    cases u with
    | nil =>
        rw [List.nil_append, h.head]
        decide
    | cons c u => exact Iff.rfl
  have hskip := length_skipGap_le u
  have hdepth : readValue (2 * (u ++ behind).length + 2) (skipGap u) =
      readValue (2 * u.length + 2) (skipGap u) :=
    readValue_of_le (by omega) (by rw [List.length_append]; omega)
  unfold parse
  simp only [hmark]
  split
  · rfl
  · rw [h.skipGap_append, (h.stopsBefore_read _).1, hdepth]
    cases readValue (2 * u.length + 2) (skipGap u) with
    | error fault => rfl
    | ok found =>
        -- the fence is left over
        have hleft : (skipGap (found.2 ++ behind)).isEmpty = false := by
          rw [h.skipGap_append, List.isEmpty_eq_false_iff]
          simp [h.ne_nil]
        dsimp only [Except.map, followed]
        rw [Except.ok_bind, Except.ok_bind]
        dsimp only
        rw [hleft, if_neg Bool.false_ne_true]
        split <;> rfl

end Interrupts

end HelpCenter.Json

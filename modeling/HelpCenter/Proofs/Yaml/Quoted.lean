import HelpCenter.Proofs.Except
import HelpCenter.Yaml.Scalar

/-!
# Reading scalars in double quotes

The inside of a quoted scalar is read in runs of characters and blanks, with fuel at every level.  The
fuel is always enough (`readQuotedChars_fuel`, `readQuotedBody_fuel`), so that reading from a place on
(`quotedBody`) can be followed character by character: those that stand for themselves
(`quotedBody_verbatim`), escapes (`quotedBody_escape`), line breaks (`quotedBody_fold`) and the closing
quote (`quotedBody_close`).
-/

namespace HelpCenter.Yaml

open Except

variable {α : Type} {c c' c'' : Cursor} {s s' t t' r : Text} {ch e : CodePoint} {fuel : ℕ}

/-! ## Passing over a text -/

namespace Cursor

/-- The second place is the one behind a text without line breaks that starts at the first. -/
structure Passes (c : Cursor) (s : Text) (c' : Cursor) : Prop where
  rest : c.rest = s ++ c'.rest
  index : c'.index = c.index + s.length
  line : c'.line = c.line
  column : c.column ≤ c'.column

theorem passes_refl (c : Cursor) : c.Passes [] c := ⟨rfl, rfl, rfl, Nat.le_refl _⟩

theorem Passes.trans (h : c.Passes s c') (h' : c'.Passes s' c'') : c.Passes (s ++ s') c'' where
  rest := by rw [h.rest, h'.rest, List.append_assoc]
  index := by rw [h'.index, h.index, List.length_append, Nat.add_assoc]
  line := h'.line.trans h.line
  column := Nat.le_trans h.column h'.column

theorem Passes.rest_eq (h : c.Passes s c') (hc : c.rest = s ++ r) : c'.rest = r :=
  List.append_cancel_left (h.rest.symm.trans hc)

theorem rest_next (c : Cursor) : c.next.rest = c.rest.tail := by
  unfold next
  cases hc : c.rest with
  | nil => exact hc
  | cons ch r =>
      dsimp only
      split <;> rfl

theorem rest_skip (n : ℕ) (c : Cursor) : (c.skip n).rest = c.rest.drop n := by
  induction n generalizing c with
  | zero => rfl
  | succ n ih => rw [skip, ih, rest_next, ← List.drop_one, List.drop_drop, Nat.add_comm]

theorem rest_takeWhile (p : CodePoint → Bool) (c : Cursor) :
    (c.takeWhile p).2.rest = c.rest.dropWhile p := by
  calc (c.takeWhile p).2.rest
      = c.rest.drop (c.rest.takeWhile p).length := rest_skip ..
    _ = (c.rest.takeWhile p ++ c.rest.dropWhile p).drop (c.rest.takeWhile p).length := by
        rw [List.takeWhile_append_dropWhile]
    _ = c.rest.dropWhile p := List.drop_left

theorem passes_next (hc : c.rest = ch :: r) (hch : isBreak ch = false) : c.Passes [ch] c.next := by
  unfold next
  rw [hc]
  simp only [hch, Bool.false_and, Bool.false_eq_true, if_false]
  refine ⟨hc, rfl, rfl, ?_⟩
  dsimp only
  split <;> omega

theorem passes_skip (hc : c.rest = s ++ r) (hs : ∀ ch ∈ s, isBreak ch = false) :
    c.Passes s (c.skip s.length) := by
  induction s generalizing c with
  | nil => exact passes_refl c
  | cons ch s ih =>
      rw [List.forall_mem_cons] at hs
      have hnext := passes_next hc hs.1
      exact hnext.trans (ih (hnext.rest_eq hc) hs.2)

theorem passes_skipWhile {p : CodePoint → Bool} (hp : ∀ ch, p ch = true → isBreak ch = false) :
    c.Passes (c.rest.takeWhile p) (c.skipWhile p) :=
  passes_skip List.takeWhile_append_dropWhile.symm
    fun _ hch => hp _ (List.all_eq_true.1 List.all_takeWhile _ hch)

theorem column_next (hc : c.rest = ch :: r) (hch : isBreak ch = false) (hmark : ch.toNat ≠ 0xFEFF) :
    c.next.column = c.column + 1 := by
  unfold next
  rw [hc]
  simp [hch, hmark]

end Cursor

open Cursor

/-! ## Enough fuel -/

/-- Every result of the reading leaves an end of a text. -/
def Leaves (s : Text) (x : Result (α × Cursor)) : Prop := ∀ a c, x = .ok (a, c) → c.rest <:+ s

theorem Leaves.ok {a : α} (h : c.rest <:+ s) : Leaves s (.ok (a, c)) := by
  intro b d hb
  cases hb
  exact h

theorem Leaves.error (e : Fault) : Leaves s (.error e : Result (α × Cursor)) := nofun

theorem Leaves.mono {x : Result (α × Cursor)} (h : Leaves s x) (hs : s <:+ s') : Leaves s' x :=
  fun a c hx => (h a c hx).trans hs

theorem Leaves.bind {β : Type} {x : Result (α × Cursor)} {f : α × Cursor → Result (β × Cursor)}
    (hx : Leaves s x) (hf : ∀ a c, x = .ok (a, c) → Leaves c.rest (f (a, c))) :
    Leaves s (x >>= f) := by
  intro b d h
  obtain ⟨⟨a, c⟩, ha, hb⟩ := bind_eq_ok_iff.1 h
  exact (hf a c ha b d hb).trans (hx a c ha)

theorem rest_skip_suffix (n : ℕ) (c : Cursor) : (c.skip n).rest <:+ c.rest := by
  rw [rest_skip]
  exact List.drop_suffix n c.rest

theorem rest_readBreak_suffix (c : Cursor) : c.readBreak.2.rest <:+ c.rest := by
  have hnext : c.next.rest <:+ c.rest := rest_skip_suffix 1 c
  have htwice : c.next.next.rest <:+ c.rest := rest_skip_suffix 2 c
  unfold readBreak
  split
  · split_ifs <;> first | assumption | exact List.suffix_rfl
  · split_ifs <;> first | assumption | exact List.suffix_rfl
  · exact List.suffix_rfl

theorem rest_readBreak_lt (hc : c.rest = ch :: r) (hch : isBreak ch = true) :
    c.readBreak.2.rest.length < c.rest.length := by
  have hskip {n : ℕ} (hn : 0 < n) : (c.skip n).rest.length < c.rest.length := by
    rw [rest_skip, hc, List.length_drop, List.length_cons]
    omega
  have hnext : c.next.rest.length < c.rest.length := hskip (n := 1) Nat.one_pos
  have htwice : c.next.next.rest.length < c.rest.length := hskip (n := 2) Nat.two_pos
  unfold readBreak
  rw [hc]
  cases r with
  | nil =>
      simp only [hch]
      split <;> simpa [hc] using hnext
  | cons b r =>
      simp only [hch]
      split_ifs
      · simpa [hc] using htwice
      · simpa [hc] using hnext
      · simpa [hc] using hnext

theorem leaves_readQuotedBreaks : Leaves c.rest (readQuotedBreaks fuel c) := by
  induction fuel generalizing c with
  | zero => exact .ok List.suffix_rfl
  | succ fuel ih =>
      unfold readQuotedBreaks
      have hblanks : (c.skipWhile isSpaceOrTab).rest <:+ c.rest := rest_skip_suffix ..
      split
      · exact .error _
      dsimp only
      split
      · refine Leaves.bind (ih.mono ((rest_readBreak_suffix _).trans hblanks)) fun _ _ _ => ?_
        exact .ok List.suffix_rfl
      · exact .ok hblanks

/-- The line breaks. -/
def breaks : Text := [10, 13, 0x85, 0x2028, 0x2029].map CodePoint.ofNat

/-- What holds of no line break does not hold of this one. -/
theorem eq_false_of_isBreak {p : CodePoint → Bool} (h : isBreak ch = true)
    (hp : ∀ b ∈ breaks, p b = false) : p ch = false := by
  refine hp ch ?_
  simp only [isBreak, Bool.or_eq_true, beq_iff_eq] at h
  rw [← CodePoint.ofNat_toNat ch]
  exact List.mem_map_of_mem (by simpa [or_assoc] using h)

theorem isBreak_eq_false {p : CodePoint → Bool} (h : p ch = true)
    (hp : ∀ b ∈ breaks, p b = false) : isBreak ch = false := by
  by_contra hbreak
  rw [eq_false_of_isBreak (eq_true_of_ne_false hbreak) hp] at h
  cases h

/-- A result with a text in front. -/
def prepend (t : Text) (p : Text × Cursor) : Text × Cursor := (t ++ p.1, p.2)

@[simp] theorem prepend_prepend (x : Result (Text × Cursor)) :
    prepend s <$> prepend t <$> x = prepend (s ++ t) <$> x := by
  cases x <;> simp [prepend]

/-- Where characters without blanks end: at a quote, at a blank, at a line break or with the text. -/
def Stops (s : Text) : Prop :=
  ∀ ch ∈ s.head?, ch.is '"' = true ∨ isSpaceOrTab ch = true ∨ isBreak ch = true

/-- Characters that stand for themselves are taken over in one run. -/
theorem readQuotedChars_run : readQuotedChars true (fuel + 1) c =
    prepend (c.takeWhile fun ch => !endsQuotedRun ch).1 <$>
      readQuotedChars true (fuel + 1) (c.takeWhile fun ch => !endsQuotedRun ch).2 := by
  have hrest := rest_takeWhile (fun ch => !endsQuotedRun ch) c
  generalize hrun : (c.takeWhile fun ch => !endsQuotedRun ch) = run at hrest ⊢
  obtain ⟨run, d⟩ := run
  -- behind a run there is no other, so reading on from there begins with the same character
  have hempty : (d.takeWhile fun ch => !endsQuotedRun ch) = ([], d) := by
    have : d.rest.takeWhile (fun ch => !endsQuotedRun ch) = [] := by
      have := List.head?_dropWhile_not (fun ch => !endsQuotedRun ch) c.rest
      rw [← show d.rest = _ from hrest] at this
      cases hd : d.rest with
      | nil => rfl
      | cons ch r =>
        rw [hd] at this
        simpa [List.takeWhile_cons] using this
    simp [takeWhile, this, skip]
  have hmap {t : Text} {x : Result (Text × Cursor)} :
      (x >>= fun p => pure (run ++ t ++ p.1, p.2)) =
        prepend run <$> (x >>= fun p => pure ([] ++ t ++ p.1, p.2)) := by
    cases x <;> simp [prepend]
  unfold readQuotedChars
  simp only [hrun, hempty]
  cases d.rest with
  | nil => simp [prepend]
  | cons ch after =>
    dsimp only
    split_ifs
    · exact hmap
    · exact hmap
    · cases after with
      | nil => rfl
      | cons e digits =>
        dsimp only
        split
        · exact hmap
        · split_ifs
          · cases charOfEscape _ with
            | error e => rfl
            | ok d => exact hmap
          · rfl
        · split_ifs
          · cases readQuotedBreaks _ _ with
            | error e => rfl
            | ok p => exact hmap
          · rfl
    · simp [prepend]

/-- No run starts with a character that ends one. -/
theorem takeWhile_of_ends (hc : c.rest = ch :: r) (hch : endsQuotedRun ch = true) :
    c.takeWhile (fun ch => !endsQuotedRun ch) = ([], c) := by
  simp [takeWhile, hc, hch, skip]

theorem readQuotedChars_apostrophe (hc : c.rest = ('\'' : CodePoint) :: r) :
    readQuotedChars true (fuel + 1) c =
      prepend [('\'' : CodePoint)] <$> readQuotedChars true fuel c.next := by
  rw [readQuotedChars]
  simp only [takeWhile_of_ends hc (by decide), hc]
  cases readQuotedChars true fuel c.next <;> rfl

theorem readQuotedChars_stop (hc : c.rest = ch :: r) (hends : endsQuotedRun ch = true)
    (hapostrophe : ch.is '\'' = false) (hescape : ch.is '\\' = false) :
    readQuotedChars true (fuel + 1) c = .ok ([], c) := by
  rw [readQuotedChars]
  simp only [takeWhile_of_ends hc hends, hc]
  simp [hapostrophe, hescape]

/-- What an escape sign and the text behind it stand for; the characters go on at the place given
with it. -/
def readEscape (c : Cursor) : Result (Text × Cursor) :=
  match c.rest.tail with
  | [] => .error .malformed
  | e :: digits =>
    match escapedChar? e, escapeWidth? e with
    | some d, _ => .ok ([d], c.skip 2)
    | none, some width =>
      if (digits.take width).length = width && (digits.take width).all CodePoint.isHexDigit then
        (charOfEscape (hexValue (digits.take width))).map fun d => ([d], c.skip (2 + width))
      else .error .malformed
    | none, none =>
      if isBreak e then readQuotedBreaks (c.rest.tail.length + 1) c.next.readBreak.2
      else .error .malformed

theorem readQuotedChars_escape (hc : c.rest = ('\\' : CodePoint) :: r) :
    readQuotedChars true (fuel + 1) c =
      readEscape c >>= fun p => prepend p.1 <$> readQuotedChars true fuel p.2 := by
  have hmap {t : Text} {x : Result (Text × Cursor)} :
      (x >>= fun p => pure ([] ++ t ++ p.1, p.2)) = prepend t <$> x := by
    cases x <;> rfl
  rw [readQuotedChars]
  simp only [takeWhile_of_ends hc (by decide), readEscape, hc, List.tail_cons, hmap]
  cases r with
  | nil => rfl
  | cons e digits =>
    have hsign : ('\\' : CodePoint).is '\'' = false ∧ ('\\' : CodePoint).is '\\' = true := by decide
    simp only [hsign, Bool.not_true, Bool.false_and, Bool.and_false, Bool.and_true, Bool.or_false,
      Bool.false_eq_true, if_false, if_true]
    cases escapedChar? e with
    | some d => rfl
    | none =>
      cases escapeWidth? e with
      | some width =>
        dsimp only
        split_ifs
        · cases charOfEscape (hexValue (digits.take width)) <;> rfl
        · rfl
      | none =>
        dsimp only
        split_ifs <;> rfl

theorem leaves_readEscape (hc : c.rest = ch :: r) : Leaves r (readEscape c) := by
  have hskip {n : ℕ} : (c.skip (n + 1)).rest <:+ r := by
    rw [rest_skip, hc, List.drop_succ_cons]
    exact List.drop_suffix n r
  unfold readEscape
  split
  · exact .error _
  split
  · exact .ok hskip
  · next width _ _ =>
    split_ifs
    · cases charOfEscape _ with
      | error fault => exact .error fault
      | ok d => exact .ok (by rw [Nat.add_right_comm 1 1]; exact hskip)
    · exact .error _
  · split_ifs
    · exact leaves_readQuotedBreaks.mono ((rest_readBreak_suffix _).trans (hskip (n := 0)))
    · exact .error _

/-- What reading characters without blanks does up to the next escape or single quote. -/
inductive CharsStep (c : Cursor) : Prop
  | refuses {fault : Fault} (h : ∀ fuel, readQuotedChars true (fuel + 1) c = .error fault)
  | stops {t : Text} {c' : Cursor} (hrest : c'.rest <:+ c.rest) (hstop : Stops c'.rest)
    (h : ∀ fuel, readQuotedChars true (fuel + 1) c = .ok (t, c'))
  | goesOn {t : Text} {c' : Cursor} (hrest : c'.rest <:+ c.rest)
    (hshorter : c'.rest.length < c.rest.length)
    (h : ∀ fuel, readQuotedChars true (fuel + 1) c = prepend t <$> readQuotedChars true fuel c')

theorem charsStep (c : Cursor) : CharsStep c := by
  let run := (c.takeWhile fun ch => !endsQuotedRun ch).1
  let d := (c.takeWhile fun ch => !endsQuotedRun ch).2
  have hrun (fuel : ℕ) : readQuotedChars true (fuel + 1) c =
      prepend run <$> readQuotedChars true (fuel + 1) d := readQuotedChars_run
  have hd : d.rest <:+ c.rest := rest_skip_suffix ..
  have hhead := List.head?_dropWhile_not (fun ch => !endsQuotedRun ch) c.rest
  rw [← rest_takeWhile] at hhead
  cases hrest : d.rest with
  | nil =>
    refine .stops (t := run ++ []) hd (by simp [Stops, hrest]) fun fuel => ?_
    have hempty : readQuotedChars true (fuel + 1) d = .ok ([], d) := by
      simp [readQuotedChars, takeWhile, hrest, skip]
    rw [hrun, hempty]
    rfl
  | cons ch r =>
    have hends : endsQuotedRun ch = true := by
      rw [show (c.takeWhile fun ch => !endsQuotedRun ch).2.rest = ch :: r from hrest] at hhead
      simpa using hhead
    have hgoes {t : Text} {c' : Cursor} (hr : c'.rest <:+ r) (h : ∀ fuel,
        readQuotedChars true (fuel + 1) d = prepend t <$> readQuotedChars true fuel c') :
        CharsStep c := by
      refine .goesOn (t := run ++ t) (hr.trans ?_) ?_ fun fuel => by rw [hrun, h, prepend_prepend]
      · exact (List.suffix_cons ch r).trans (hrest ▸ hd)
      · have := hr.length_le
        have := hd.length_le
        rw [hrest, List.length_cons] at this
        omega
    by_cases hapostrophe : ch.is '\'' = true
    · obtain rfl := of_decide_eq_true hapostrophe
      refine hgoes ?_ fun fuel => readQuotedChars_apostrophe hrest
      rw [rest_next, hrest]
      exact List.suffix_rfl
    by_cases hescape : ch.is '\\' = true
    · obtain rfl := of_decide_eq_true hescape
      cases hread : readEscape d with
      | error fault =>
        have hfault (fuel : ℕ) : readQuotedChars true (fuel + 1) c = .error fault := by
          rw [hrun, readQuotedChars_escape hrest, hread]
          rfl
        exact .refuses hfault
      | ok p =>
        refine hgoes (t := p.1) (leaves_readEscape hrest _ _ hread) fun fuel => ?_
        rw [readQuotedChars_escape hrest, hread]
        rfl
    · refine .stops (t := run ++ []) hd ?_ fun fuel => ?_
      · rw [hrest]
        rintro b ⟨⟩
        simpa [endsQuotedRun, hapostrophe, hescape, or_assoc] using hends
      · rw [hrun, readQuotedChars_stop hrest hends (by simpa using hapostrophe)
          (by simpa using hescape)]
        rfl

/-- Reading characters without blanks does not need more fuel than there are characters. -/
theorem readQuotedChars_fuel {n m : ℕ} (hn : c.rest.length < n) (hm : c.rest.length < m) :
    readQuotedChars true n c = readQuotedChars true m c := by
  induction n generalizing c m with
  | zero => exact absurd hn (Nat.not_lt_zero _)
  | succ n ih =>
    obtain ⟨m, rfl⟩ := Nat.exists_eq_add_one.2 (Nat.zero_lt_of_lt hm)
    cases charsStep c with
    | refuses h => rw [h n, h m]
    | stops _ _ h => rw [h n, h m]
    | goesOn _ hshorter h => rw [h n, h m, ih (m := m) (by omega) (by omega)]

theorem readQuotedChars_stops (hread : readQuotedChars true fuel c = .ok (t, c'))
    (hfuel : c.rest.length < fuel) : c'.rest <:+ c.rest ∧ Stops c'.rest := by
  induction fuel generalizing c t with
  | zero => exact absurd hfuel (Nat.not_lt_zero _)
  | succ fuel ih =>
    cases charsStep c with
    | refuses h =>
      rw [h] at hread
      cases hread
    | stops hrest hstop h =>
      rw [h] at hread
      cases hread
      exact ⟨hrest, hstop⟩
    | @goesOn _ d hrest hshorter h =>
      rw [h] at hread
      cases hd : readQuotedChars true fuel d with
      | error fault =>
        rw [hd] at hread
        cases hread
      | ok p =>
        rw [hd] at hread
        cases hread
        obtain ⟨hsuffix, hstop⟩ := ih hd (by omega)
        exact ⟨hsuffix.trans hrest, hstop⟩

/-- Blanks do not end where they begin. -/
theorem readQuotedBlanks_lt (hread : readQuotedBlanks c = .ok (t, c')) (hstop : Stops c.rest)
    (hquote : c.peek? ≠ some '"') : c'.rest.length < c.rest.length := by
  unfold readQuotedBlanks at hread
  dsimp only at hread
  have hrest := rest_takeWhile isSpaceOrTab c
  generalize c.takeWhile isSpaceOrTab = blanks at hread hrest
  obtain ⟨blanks, d⟩ := blanks
  dsimp only at hread hrest
  have hle : d.rest.length ≤ c.rest.length := hrest ▸ (List.dropWhile_suffix _).length_le
  cases hd : d.rest with
  | nil =>
    rw [hd] at hread
    cases hread
  | cons ch r =>
    rw [hd] at hread
    dsimp only at hread
    split at hread
    · next hbreak =>
      have hlt := rest_readBreak_lt hd hbreak
      obtain ⟨⟨bs, e⟩, hbs, hread⟩ := bind_eq_ok_iff.1 hread
      have hsuffix := (leaves_readQuotedBreaks _ _ hbs).length_le
      have hend : c' = e := by
        split_ifs at hread <;> cases hread <;> rfl
      rw [hend]
      omega
    · next hbreak =>
      cases hread
      cases hc : c.rest with
      | nil =>
        rw [hc] at hrest
        exact absurd (hd.symm.trans hrest) nofun
      | cons b r' =>
        rw [hc] at hrest hstop
        -- no line break follows the blanks, and a quote does not come first: there is a blank
        rcases hstop b rfl with hb | hb | hb
        · refine absurd ?_ hquote
          rw [peek?, hc, of_decide_eq_true hb]
          rfl
        · rw [hrest, List.dropWhile_cons_of_pos hb]
          exact Nat.lt_succ_of_le (List.dropWhile_suffix _).length_le
        · have hnot : isSpaceOrTab b = false := eq_false_of_isBreak hb (by decide)
          rw [List.dropWhile_cons_of_neg (by simp [hnot]), hd] at hrest
          rw [(List.cons.inj hrest).1] at hbreak
          exact absurd hb hbreak

/-- The inside of a quoted scalar: characters, and then either its end, or blanks and the rest. -/
theorem readQuotedBody_succ : readQuotedBody '"' (fuel + 1) c =
    readQuotedChars true (c.rest.length + 1) c >>= fun p =>
      if p.2.peek? = some ('"' : CodePoint) then .ok (p.1, p.2.next)
      else readQuotedBlanks p.2 >>= fun b =>
        prepend (p.1 ++ b.1) <$> readQuotedBody '"' fuel b.2 := by
  rw [readQuotedBody]
  rfl

/-- Reading the inside of a quoted scalar does not need more fuel than there are characters. -/
theorem readQuotedBody_fuel {n m : ℕ} (hn : c.rest.length < n) (hm : c.rest.length < m) :
    readQuotedBody '"' n c = readQuotedBody '"' m c := by
  induction n generalizing c m with
  | zero => exact absurd hn (Nat.not_lt_zero _)
  | succ n ih =>
    obtain ⟨m, rfl⟩ := Nat.exists_eq_add_one.2 (Nat.zero_lt_of_lt hm)
    rw [readQuotedBody_succ, readQuotedBody_succ]
    cases hchars : readQuotedChars true (c.rest.length + 1) c with
    | error fault => rfl
    | ok p =>
      obtain ⟨hsuffix, hstop⟩ := readQuotedChars_stops hchars (Nat.lt_succ_self _)
      refine ite_congr rfl (fun _ => rfl) fun hquote => ?_
      cases hblanks : readQuotedBlanks p.2 with
      | error fault => rfl
      | ok b =>
        have hlt := readQuotedBlanks_lt hblanks hstop hquote
        have hle := hsuffix.length_le
        show prepend (p.1 ++ b.1) <$> readQuotedBody '"' n b.2 =
          prepend (p.1 ++ b.1) <$> readQuotedBody '"' m b.2
        rw [ih (m := m) (by omega) (by omega)]

/-! ## The inside of a quoted scalar -/

/-- The inside of a scalar in double quotes from a place on. -/
def quotedBody (c : Cursor) : Result (Text × Cursor) := readQuotedBody '"' (c.rest.length + 1) c

theorem readQuoted_eq_quotedBody (hc : c.rest = ch :: r) : readQuoted '"' c = quotedBody c.next := by
  unfold readQuoted quotedBody
  refine readQuotedBody_fuel ?_ (Nat.lt_succ_self _)
  rw [rest_next, hc, List.length_cons, List.tail_cons]
  exact Nat.lt_succ_of_lt (Nat.lt_succ_self _)

/-- What the characters without blanks begin with, the whole begins with. -/
theorem quotedBody_of_chars (hlt : c'.rest.length ≤ c.rest.length)
    (h : readQuotedChars true (c.rest.length + 1) c =
      prepend t <$> readQuotedChars true (c'.rest.length + 1) c') :
    quotedBody c = prepend t <$> quotedBody c' := by
  unfold quotedBody
  rw [readQuotedBody_succ, readQuotedBody_succ, h]
  cases hchars : readQuotedChars true (c'.rest.length + 1) c' with
  | error fault => rfl
  | ok p =>
    obtain ⟨hsuffix, hstop⟩ := readQuotedChars_stops hchars (Nat.lt_succ_self _)
    show ite (p.2.peek? = some ('"' : CodePoint)) _ _ = prepend t <$> ite _ _ _
    dsimp only [prepend]
    by_cases hquote : p.2.peek? = some ('"' : CodePoint)
    · rw [if_pos hquote, if_pos hquote]
      rfl
    rw [if_neg hquote, if_neg hquote]
    cases hblanks : readQuotedBlanks p.2 with
    | error fault => rfl
    | ok b =>
      have hb := readQuotedBlanks_lt hblanks hstop hquote
      have hle := hsuffix.length_le
      have hfuel : readQuotedBody '"' c.rest.length b.2 = readQuotedBody '"' c'.rest.length b.2 :=
        readQuotedBody_fuel (by omega) (by omega)
      show prepend (t ++ p.1 ++ b.1) <$> readQuotedBody '"' c.rest.length b.2 =
        prepend t <$> prepend (p.1 ++ b.1) <$> readQuotedBody '"' c'.rest.length b.2
      rw [prepend_prepend, List.append_assoc, hfuel]

theorem quotedBody_close (hc : c.rest = ('"' : CodePoint) :: r) :
    quotedBody c = .ok ([], c.next) := by
  unfold quotedBody
  rw [readQuotedBody_succ, readQuotedChars_stop hc (by decide) (by decide) (by decide)]
  show ite (c.peek? = some ('"' : CodePoint)) _ _ = _
  rw [if_pos (by rw [peek?, hc]; rfl)]

theorem quotedBody_escape (hc : c.rest = ('\\' : CodePoint) :: r) :
    quotedBody c = readEscape c >>= fun p => prepend p.1 <$> quotedBody p.2 := by
  cases hread : readEscape c with
  | error fault =>
    unfold quotedBody
    rw [readQuotedBody_succ, readQuotedChars_escape hc, hread]
    rfl
  | ok p =>
    have hlt : p.2.rest.length < c.rest.length := by
      rw [hc, List.length_cons]
      exact Nat.lt_succ_of_le (leaves_readEscape hc _ _ hread).length_le
    refine quotedBody_of_chars (Nat.le_of_lt hlt) ?_
    rw [readQuotedChars_escape hc, hread]
    show prepend p.1 <$> readQuotedChars true _ p.2 = _
    rw [readQuotedChars_fuel hlt (Nat.lt_succ_self _)]

/-- Whether the text goes on, blanks apart, on the same line. -/
def GoesOn (s : Text) : Prop := ∃ ch r, s.dropWhile isSpaceOrTab = ch :: r ∧ isBreak ch = false

theorem GoesOn.append (h : GoesOn r) (hs : ∀ ch ∈ s, isBreak ch = false) : GoesOn (s ++ r) := by
  induction s with
  | nil => exact h
  | cons ch s ih =>
    rw [List.forall_mem_cons] at hs
    unfold GoesOn
    rw [List.cons_append, List.dropWhile_cons]
    split
    · exact ih hs.2
    · exact ⟨ch, s ++ r, rfl, hs.1⟩

/-- A character that stands for itself between double quotes. -/
structure IsVerbatim (ch : CodePoint) : Prop where
  quote : ch ≠ '"'
  escape : ch ≠ '\\'
  isBreak : isBreak ch = false

instance : Decidable (IsVerbatim ch) :=
  decidable_of_iff (ch ≠ '"' ∧ ch ≠ '\\' ∧ isBreak ch = false)
    ⟨fun h => ⟨h.1, h.2.1, h.2.2⟩, fun h => ⟨h.quote, h.escape, h.isBreak⟩⟩

theorem readQuotedBlanks_eq (h : GoesOn c.rest) :
    readQuotedBlanks c = .ok (c.takeWhile isSpaceOrTab) := by
  obtain ⟨ch, r, hrest, hch⟩ := h
  rw [← rest_takeWhile] at hrest
  unfold readQuotedBlanks
  simp only [hrest, hch, Bool.false_eq_true, if_false]

/-- Blanks on one line are kept. -/
theorem quotedBody_blanks (h : GoesOn c.rest) : quotedBody c =
    prepend (c.takeWhile isSpaceOrTab).1 <$> quotedBody (c.takeWhile isSpaceOrTab).2 := by
  cases hc : c.rest with
  | nil =>
    obtain ⟨ch, r, hrest, -⟩ := h
    rw [hc] at hrest
    cases hrest
  | cons ch r =>
    by_cases hblank : isSpaceOrTab ch = true
    · have hlt : (c.takeWhile isSpaceOrTab).2.rest.length < c.rest.length := by
        rw [rest_takeWhile, hc, List.dropWhile_cons_of_pos hblank]
        exact Nat.lt_succ_of_le (List.dropWhile_suffix _).length_le
      have hother (char : Char) (hchar : isSpaceOrTab char = false) : ch.is char = false := by
        by_contra his
        rw [of_decide_eq_true (eq_true_of_ne_false his), hchar] at hblank
        cases hblank
      have hends : endsQuotedRun ch = true := by simp [endsQuotedRun, hblank]
      have hquote : c.peek? ≠ some ('"' : CodePoint) := by
        intro hpeek
        rw [peek?, hc] at hpeek
        have := hother '"' (by decide)
        rw [Option.some.inj hpeek] at this
        cases this
      unfold quotedBody
      rw [readQuotedBody_succ,
        readQuotedChars_stop hc hends (hother _ (by decide)) (hother _ (by decide))]
      show ite (c.peek? = some ('"' : CodePoint)) _ _ = _
      rw [if_neg hquote, readQuotedBlanks_eq h]
      show prepend ([] ++ (c.takeWhile isSpaceOrTab).1) <$> readQuotedBody '"' _ _ = _
      rw [readQuotedBody_fuel hlt (Nat.lt_succ_self _), List.nil_append]
    · have hnone : c.takeWhile isSpaceOrTab = ([], c) := by
        simp [takeWhile, hc, hblank, skip]
      rw [hnone]
      cases quotedBody c <;> rfl

theorem quotedBody_verbatim (hc : c.rest = ch :: r) (hch : IsVerbatim ch) (hr : GoesOn r) :
    quotedBody c = prepend [ch] <$> quotedBody c.next := by
  have hnext : c.next.rest = r := by rw [rest_next, hc, List.tail_cons]
  have hlt : c.next.rest.length < c.rest.length := by
    rw [hnext, hc]
    exact Nat.lt_succ_self _
  by_cases hends : endsQuotedRun ch = true
  · by_cases hapostrophe : ch = '\''
    · subst hapostrophe
      refine quotedBody_of_chars (Nat.le_of_lt hlt) ?_
      rw [readQuotedChars_apostrophe hc, readQuotedChars_fuel hlt (Nat.lt_succ_self _)]
    · have hblank : isSpaceOrTab ch = true := by
        simpa [endsQuotedRun, CodePoint.is, hapostrophe, hch.quote, hch.escape, hch.isBreak]
          using hends
      have hgoes : GoesOn c.rest := by
        unfold GoesOn
        rwa [hc, List.dropWhile_cons_of_pos hblank]
      have htake : c.takeWhile isSpaceOrTab = prepend [ch] (c.next.takeWhile isSpaceOrTab) := by
        simp [takeWhile, prepend, hc, hnext, List.takeWhile_cons_of_pos hblank, skip]
      rw [quotedBody_blanks hgoes, quotedBody_blanks (c := c.next) (hnext.symm ▸ hr),
        prepend_prepend, htake]
      rfl
  · refine quotedBody_of_chars (Nat.le_of_lt hlt) ?_
    have htake : c.takeWhile (fun ch => !endsQuotedRun ch) =
        prepend [ch] (c.next.takeWhile fun ch => !endsQuotedRun ch) := by
      simp [takeWhile, prepend, hc, hnext, hends, skip]
    rw [readQuotedChars_run, readQuotedChars_run (c := c.next), prepend_prepend, htake]
    have hsuffix : (c.next.takeWhile fun ch => !endsQuotedRun ch).2.rest.length ≤
        c.next.rest.length :=
      (rest_skip_suffix ..).length_le
    rw [readQuotedChars_fuel (m := c.next.rest.length + 1)]
    · rfl
    · exact Nat.lt_succ_of_le (Nat.le_of_lt (Nat.lt_of_le_of_lt hsuffix hlt))
    · exact Nat.lt_succ_of_le hsuffix

/-- A line break between words stands for a space. -/
theorem quotedBody_fold (hc : c.rest = ('\n' : CodePoint) :: ch :: r)
    (hblank : isSpaceOrTab ch = false) (hbreak : isBreak ch = false)
    (hmark : ch.is '-' = false ∧ ch.is '.' = false) :
    quotedBody c = prepend [(' ' : CodePoint)] <$> quotedBody c.next := by
  have hnext : c.next.rest = ch :: r := by rw [rest_next, hc, List.tail_cons]
  have hstay : c.takeWhile isSpaceOrTab = ([], c) := by
    simp [takeWhile, hc, show isSpaceOrTab '\n' = false by decide, skip]
  have hblanks : readQuotedBlanks c = .ok (lit " ", c.next) := by
    have hline : c.readBreak = (lit "\n", c.next) := by
      unfold readBreak
      rw [hc]
      rfl
    have hseparator : startsSeparator (ch :: r) = false := by
      unfold startsSeparator startsMarker
      split <;> simp_all
    have hskip : c.next.skipWhile isSpaceOrTab = c.next := by
      simp [skipWhile, takeWhile, hnext, hblank, skip]
    have hbreaks : readQuotedBreaks (c.next.rest.length + 1) c.next = .ok ([], c.next) := by
      simp only [readQuotedBreaks, hskip, hnext, hseparator, startsBreak, hbreak]
      rfl
    unfold readQuotedBlanks
    simp only [hstay, hc, hline, hbreaks]
    rfl
  have hquote : c.peek? ≠ some ('"' : CodePoint) := by
    rw [peek?, hc]
    show some ('\n' : CodePoint) ≠ some '"'
    decide
  have hlt : c.next.rest.length < c.rest.length := by
    rw [hnext, hc]
    exact Nat.lt_succ_self _
  unfold quotedBody
  rw [readQuotedBody_succ, readQuotedChars_stop hc (by decide) (by decide) (by decide), ok_bind,
    if_neg hquote, hblanks, ok_bind, readQuotedBody_fuel hlt (Nat.lt_succ_self _)]
  rfl

end HelpCenter.Yaml

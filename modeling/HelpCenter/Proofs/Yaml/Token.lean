import HelpCenter.Proofs.Yaml.Offset
import HelpCenter.Proofs.Yaml.Quoted

/-!
# Reading one token after the other

`readAll_step` follows one round of the reading, `readAll_lineEnd` the end of a line.  What stands on
the line behind the value of a key, a comment apart, is a fault or a token that no mapping goes on with
(`IsMidLine.readAll`).
-/

namespace HelpCenter.Yaml.TokenReader

open Except Cursor

variable {c : Cursor} {s : Text} {r r₁ r₂ : TokenReader} {ch : CodePoint} {after : Text} {fuel : ℕ}

/-- One round: what is no token is passed over, and then a token is read. -/
theorem readAll_step (hskip : skipToToken (r.cursor.rest.length + 1) r = r₁)
    (hstale : r₁.dropStale = .ok r₁) (hunwind : r₁.unwind r₁.cursor.column = r₁)
    (hrest : r₁.cursor.rest = ch :: after) : readAll (fuel + 1) r =
      match r₁.readAt ch after with
      | .error e => (r₁.tokens, some e)
      | .ok r => readAll fuel r := by
  cases hread : r₁.readAt ch after <;>
    simp only [readAll, hskip, hstale, hunwind, hrest, hread]

/-- The place behind spaces and a comment. -/
def lineEnd (c : Cursor) : Cursor :=
  let c := c.skipSpaces
  if c.at_ '#' then c.skipLine else c

theorem exists_passes_lineEnd (c : Cursor) : ∃ s, c.Passes s (lineEnd c) := by
  have hspaces : c.Passes (c.rest.takeWhile (CodePoint.is ' ')) c.skipSpaces :=
    passes_skipWhile fun _ hch => isBreak_eq_false hch (by decide)
  unfold lineEnd
  dsimp only
  split
  · exact ⟨_, hspaces.trans (passes_skipWhile fun _ hch => by simpa using hch)⟩
  · exact ⟨_, hspaces⟩

theorem rest_lineEnd_suffix (c : Cursor) : (lineEnd c).rest <:+ c.rest :=
  let ⟨s, h⟩ := exists_passes_lineEnd c
  ⟨s, h.rest.symm⟩

theorem lineEnd_eq (hc : c.rest = ch :: after) (hspace : ch.is ' ' = false)
    (hcomment : ch.is '#' = false) : lineEnd c = c := by
  have hstay : c.skipSpaces = c := by
    simp [skipSpaces, skipWhile, Cursor.takeWhile, hc, hspace, skip]
  unfold lineEnd
  rw [hstay]
  simp [at_, hc, hcomment]

/-- Behind spaces and a comment stands the end of the line, or another character of it. -/
theorem rest_lineEnd (hs : ∀ ch ∈ s, isBreak ch = false)
    (hc : c.rest = s ++ ('\n' : CodePoint) :: after) :
    (lineEnd c).rest = ('\n' : CodePoint) :: after ∨
      ∃ ch rest, (lineEnd c).rest = ch :: rest ∧ isBreak ch = false := by
  let s' := s.dropWhile (CodePoint.is ' ')
  have hs' : ∀ ch ∈ s', isBreak ch = false := fun ch hch =>
    hs ch ((List.dropWhile_suffix _).subset hch)
  have hspaces : c.skipSpaces.rest = s' ++ ('\n' : CodePoint) :: after := by
    rw [skipSpaces, skipWhile, rest_takeWhile, hc, List.dropWhile_append]
    split
    · next hempty =>
      rw [show s' = [] from List.isEmpty_iff.1 hempty]
      rfl
    · rfl
  unfold lineEnd
  dsimp only
  split
  · left
    rw [skipLine, skipWhile, rest_takeWhile, hspaces,
      List.dropWhile_append_of_pos fun ch hch => by simp [hs' ch hch]]
    rfl
  · rw [hspaces]
    cases hfirst : s' with
    | nil => exact .inl rfl
    | cons ch rest =>
      exact .inr ⟨ch, _, rfl, hs' ch (hfirst ▸ List.mem_cons_self ..)⟩

theorem skipToToken_succ : skipToToken (fuel + 1) r =
    if startsBreak (lineEnd r.cursor).rest && !(lineEnd r.cursor).rest.isEmpty then
      skipToToken fuel
        { r with cursor := (lineEnd r.cursor).readBreak.2, allowKey := r.allowKey || r.inBlock }
    else { r with cursor := lineEnd r.cursor } := rfl

/-- Passing over what is no token does not need more fuel than there are characters. -/
theorem skipToToken_fuel {n m : ℕ} (hn : r.cursor.rest.length < n) (hm : r.cursor.rest.length < m) :
    skipToToken n r = skipToToken m r := by
  induction n generalizing r m with
  | zero => exact absurd hn (Nat.not_lt_zero _)
  | succ n ih =>
    obtain ⟨m, rfl⟩ := Nat.exists_eq_add_one.2 (Nat.zero_lt_of_lt hm)
    rw [skipToToken_succ, skipToToken_succ]
    split_ifs with hbreak
    · have hlt : (lineEnd r.cursor).readBreak.2.rest.length < r.cursor.rest.length := by
        refine Nat.lt_of_lt_of_le ?_ (rest_lineEnd_suffix r.cursor).length_le
        cases hrest : (lineEnd r.cursor).rest with
        | nil => simp [hrest] at hbreak
        | cons ch rest =>
          rw [← hrest]
          exact rest_readBreak_lt hrest (by simpa [hrest, startsBreak] using hbreak)
      exact ih (Nat.lt_of_lt_of_le hlt (Nat.le_of_lt_succ hn))
        (Nat.lt_of_lt_of_le hlt (Nat.le_of_lt_succ hm))
    · rfl

/-- At the end of a line the reading goes on with the next one. -/
theorem readAll_lineEnd (hrest : (lineEnd r.cursor).rest = ('\n' : CodePoint) :: after) :
    readAll (fuel + 1) r =
      readAll (fuel + 1) { r with
        cursor := (lineEnd r.cursor).next
        allowKey := r.allowKey || r.inBlock } := by
  have hnext : (lineEnd r.cursor).next.rest.length < r.cursor.rest.length := by
    rw [Cursor.rest_next]
    refine Nat.lt_of_lt_of_le ?_ (rest_lineEnd_suffix r.cursor).length_le
    rw [hrest]
    exact Nat.lt_succ_self _
  have hbreak : (lineEnd r.cursor).readBreak.2 = (lineEnd r.cursor).next := by
    unfold Cursor.readBreak
    rw [hrest]
    cases after <;> rfl
  have hskip : skipToToken (r.cursor.rest.length + 1) r =
      skipToToken ((lineEnd r.cursor).next.rest.length + 1) { r with
        cursor := (lineEnd r.cursor).next
        allowKey := r.allowKey || r.inBlock } := by
    rw [skipToToken_succ, hbreak, if_pos (by rw [hrest]; rfl)]
    exact skipToToken_fuel hnext (Nat.lt_succ_self _)
  simp only [readAll, hskip]

/-! ## Behind a value -/

theorem exists_tag_of_readTag {c c' : Cursor} {t : Token} (h : readTag c = .ok (t, c')) :
    ∃ handle suffix, t = .tag handle suffix := by
  have hend {handle : Option Text} {suffix : Text} {d : Cursor}
      (h : (if startsSpace d.rest then pure (Token.tag handle suffix, d)
        else throw .malformed : Result (Token × Cursor)) = .ok (t, c')) :
      ∃ handle suffix, t = .tag handle suffix := by
    split at h
    · cases h
      exact ⟨handle, suffix, rfl⟩
    · cases h
  unfold readTag at h
  dsimp only at h
  split_ifs at h
  · obtain ⟨⟨uri, d⟩, -, h⟩ := bind_eq_ok_iff.1 h
    dsimp only at h
    split_ifs at h
    · exact hend h
    · cases h
  · exact hend h
  · obtain ⟨⟨name, d⟩, -, h⟩ := bind_eq_ok_iff.1 h
    obtain ⟨⟨uri, d⟩, -, h⟩ := bind_eq_ok_iff.1 h
    exact hend h
  · obtain ⟨⟨uri, d⟩, -, h⟩ := bind_eq_ok_iff.1 h
    exact hend h

/-- The state on the line of a key behind its value, outside all flow collections. -/
structure IsMidLine (r : TokenReader) : Prop where
  column : r.cursor.column ≠ 0
  flowLevel : r.flowLevel = 0
  allowKey : r.allowKey = false
  pending : r.pending = []
  indent : r.indent = 0

/-- All that is read is one token with which no mapping goes on. -/
def Strays (r : TokenReader) (x : Result TokenReader) : Prop :=
  ∀ r', x = .ok r' → r'.pending = [] ∧
    ∃ t, t ∉ [Token.key, .blockEnd] ∧ r'.tokens = r.tokens.push t

theorem strays_error (e : Fault) : Strays r (.error e) := nofun

theorem strays_ite {p : Prop} [Decidable p] {x y : Result TokenReader} (hx : p → Strays r x)
    (hy : Strays r y) : Strays r (if p then x else y) := by
  split
  · exact hx ‹p›
  · exact hy

namespace IsMidLine

theorem dropPending (h : r.IsMidLine) (allowKey : Bool) :
    { r with allowKey }.dropPending = .ok { r with allowKey } := by
  unfold TokenReader.dropPending
  simp [h.pending]

theorem notePending (h : r.IsMidLine) : r.notePending = .ok r := by
  simp [TokenReader.notePending, h.allowKey]

theorem strays_readContent (h : r.IsMidLine) {read : Cursor → Result (Token × Cursor)}
    (hread : ∀ c t c', read c = .ok (t, c') → t ∉ [Token.key, .blockEnd]) :
    Strays r (r.readContent read) := by
  intro r' hr'
  unfold readContent at hr'
  rw [h.notePending, ok_bind] at hr'
  obtain ⟨⟨t, c⟩, ht, hr'⟩ := bind_eq_ok_iff.1 hr'
  cases hr'
  exact ⟨h.pending, t, hread _ _ _ ht, rfl⟩

theorem strays_openFlow (h : r.IsMidLine) {t : Token} (ht : t ∉ [Token.key, .blockEnd]) :
    Strays r (r.openFlow t) := by
  intro r' hr'
  unfold openFlow at hr'
  rw [h.notePending] at hr'
  cases hr'
  exact ⟨h.pending, t, ht, rfl⟩

theorem strays_closeFlow (h : r.IsMidLine) {t : Token} (ht : t ∉ [Token.key, .blockEnd]) :
    Strays r (r.closeFlow t) := by
  intro r' hr'
  unfold closeFlow at hr'
  rw [h.dropPending r.allowKey] at hr'
  cases hr'
  exact ⟨h.pending, t, ht, rfl⟩

theorem strays_readFlowEntry (h : r.IsMidLine) : Strays r r.readFlowEntry := by
  intro r' hr'
  unfold readFlowEntry at hr'
  rw [h.dropPending true] at hr'
  cases hr'
  exact ⟨h.pending, _, by simp, rfl⟩

theorem strays_readBlockScalar (h : r.IsMidLine) (folded : Bool) :
    Strays r (r.readBlockScalar folded) := by
  intro r' hr'
  unfold readBlockScalar at hr'
  rw [h.dropPending true, ok_bind] at hr'
  obtain ⟨⟨t, c⟩, -, hr'⟩ := bind_eq_ok_iff.1 hr'
  cases hr'
  exact ⟨h.pending, _, by simp, rfl⟩

theorem strays_readPlainScalar (h : r.IsMidLine) : Strays r r.readPlainScalar := by
  intro r' hr'
  unfold readPlainScalar at hr'
  rw [h.notePending] at hr'
  cases hr'
  exact ⟨h.pending, _, by simp, rfl⟩

/-- No entry and no key begins here. -/
theorem refuses (h : r.IsMidLine) : (r.inBlock && !r.allowKey) = true := by
  simp [inBlock, h.flowLevel, h.allowKey]

theorem strays_readValue (h : r.IsMidLine) : Strays r r.readValue := by
  unfold readValue
  simp only [h.pending, List.find?_nil, h.refuses, if_true]
  exact strays_error _

theorem strays_readName (h : r.IsMidLine) {token : Text → Token}
    (htoken : ∀ name, token name ∉ [Token.key, .blockEnd]) :
    Strays r (r.readContent fun c => do
      let (name, c) ← readName c
      return (token name, c)) := by
  refine h.strays_readContent fun c t c' ht => ?_
  obtain ⟨⟨name, d⟩, -, ht⟩ := bind_eq_ok_iff.1 ht
  cases ht
  exact htoken name

theorem strays_readQuoted (h : r.IsMidLine) :
    Strays r (r.readContent fun c => do
      let (t, c) ← readQuoted ch c
      return (.scalar false t, c)) := by
  refine h.strays_readContent fun c t c' ht => ?_
  obtain ⟨⟨text, d⟩, -, ht⟩ := bind_eq_ok_iff.1 ht
  cases ht
  simp

theorem strays_readAt (h : r.IsMidLine) : Strays r (r.readAt ch after) := by
  have htag : Strays r (r.readContent readTag) := by
    refine h.strays_readContent fun c t c' ht => ?_
    obtain ⟨handle, suffix, rfl⟩ := exists_tag_of_readTag ht
    simp
  have hentry : Strays r r.readBlockEntry := by
    unfold readBlockEntry
    rw [if_pos h.refuses]
    exact strays_error _
  have hkey : Strays r r.readKey := by
    unfold readKey
    rw [if_pos h.refuses]
    exact strays_error _
  unfold readAt
  refine strays_ite (fun hp => ?_) <| strays_ite (fun hp => ?_) <| strays_ite (fun hp => ?_) <|
    strays_ite (fun _ => h.strays_openFlow (by simp)) <|
    strays_ite (fun _ => h.strays_openFlow (by simp)) <|
    strays_ite (fun _ => h.strays_closeFlow (by simp)) <|
    strays_ite (fun _ => h.strays_closeFlow (by simp)) <|
    strays_ite (fun _ => h.strays_readFlowEntry) <| strays_ite (fun _ => hentry) <|
    strays_ite (fun _ => hkey) <| strays_ite (fun _ => h.strays_readValue) <|
    strays_ite (fun _ => h.strays_readName (by simp)) <|
    strays_ite (fun _ => h.strays_readName (by simp)) <|
    strays_ite (fun _ => htag) <| strays_ite (fun _ => h.strays_readBlockScalar false) <|
    strays_ite (fun _ => h.strays_readBlockScalar true) <| strays_ite (fun _ => h.strays_readQuoted) <|
    strays_ite (fun _ => h.strays_readPlainScalar) (strays_error _)
  all_goals simp [h.column] at hp

/-- What stands on the line behind a value, a comment apart, is a fault, or a token with which no
mapping goes on. -/
theorem readAll (h : r.IsMidLine) (hrest : (lineEnd r.cursor).rest = ch :: after)
    (hch : isBreak ch = false) (hcolumn : (lineEnd r.cursor).column ≠ 0) :
    (∃ fault, TokenReader.readAll (fuel + 1) r = (r.tokens, some fault)) ∨
      ∃ t ts fault?, t ∉ [Token.key, .blockEnd] ∧
        TokenReader.readAll (fuel + 1) r = ((r.tokens.toList ++ t :: ts).toArray, fault?) := by
  let r₁ : TokenReader := { r with cursor := lineEnd r.cursor }
  have h₁ : r₁.IsMidLine := ⟨hcolumn, h.flowLevel, h.allowKey, h.pending, h.indent⟩
  have hskip : skipToToken (r.cursor.rest.length + 1) r = r₁ := by
    rw [skipToToken_succ, if_neg (by simp [hrest, startsBreak, hch])]
  have hstale : r₁.dropStale = .ok r₁ := by
    unfold dropStale
    simp only [h₁.pending, List.any_nil, List.filter_nil, Bool.false_eq_true, if_false]
    rw [← h₁.pending]
  have hunwind : r₁.unwind r₁.cursor.column = r₁ := by
    have hdeep : ¬ (r₁.cursor.column : Int) < r₁.indent := by
      rw [h₁.indent]
      omega
    unfold unwind
    split
    · cases r₁.outerIndents with
      | nil => rfl
      | cons outer rest => rw [closeIndents, if_neg hdeep]
    · rfl
  rw [readAll_step hskip hstale hunwind hrest]
  cases hread : r₁.readAt ch after with
  | error fault => exact .inl ⟨fault, rfl⟩
  | ok r₂ =>
    obtain ⟨hpending, t, ht, htokens⟩ := h₁.strays_readAt r₂ hread
    -- the tokens read so far stand in front of those that follow
    have hafter : { r₂ with tokens := #[] }.after r₂.tokens.toList 0 = r₂ := by
      simp only [TokenReader.after, Cursor.after, hpending, List.map_nil, Nat.add_zero,
        List.append_nil]
      rw [← hpending]
    have hall : TokenReader.readAll fuel ({ r₂ with tokens := #[] }.after r₂.tokens.toList 0) = _ :=
      readAll_after fuel
    rw [hafter, htokens, Array.toList_push, List.append_assoc, List.singleton_append] at hall
    exact .inr ⟨t, _, _, ht, hall⟩

end IsMidLine

end HelpCenter.Yaml.TokenReader

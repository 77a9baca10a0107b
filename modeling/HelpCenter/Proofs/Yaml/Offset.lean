import HelpCenter.Yaml.Token
import Mathlib.Data.List.Basic

/-!
# Reading from a place on

Where in a text a reader stands and what it has read so far does not matter to what it reads from
there on.
-/

namespace HelpCenter.Yaml

variable {α : Type} {n : ℕ}

/-! ## Cursors -/

namespace Cursor

/-- The same place with `n` more characters in front of it. -/
def after (n : ℕ) (c : Cursor) : Cursor := { c with index := c.index + n }

/-- A result at the same place with `n` more characters in front of it. -/
def afterAt (n : ℕ) (p : α × Cursor) : α × Cursor := (p.1, p.2.after n)

variable {c : Cursor}

@[simp] theorem afterAt_mk (a : α) : afterAt n (a, c) = (a, c.after n) := rfl

@[simp] theorem fst_afterAt (p : α × Cursor) : (afterAt n p).1 = p.1 := rfl

@[simp] theorem snd_afterAt (p : α × Cursor) : (afterAt n p).2 = p.2.after n := rfl

@[simp] theorem rest_after : (c.after n).rest = c.rest := rfl

@[simp] theorem line_after : (c.after n).line = c.line := rfl

@[simp] theorem column_after : (c.after n).column = c.column := rfl

@[simp] theorem peek?_after : (c.after n).peek? = c.peek? := rfl

@[simp] theorem at_after (char : Char) : (c.after n).at_ char = c.at_ char := rfl

@[simp] theorem next_after : (c.after n).next = c.next.after n := by
  simp only [next, rest_after]
  cases c.rest with
  | nil => rfl
  | cons ch rest =>
      dsimp only
      split <;> simp only [after, Nat.add_right_comm]

@[simp] theorem skip_after (k : ℕ) : (c.after n).skip k = (c.skip k).after n := by
  induction k generalizing c with
  | zero => rfl
  | succ k ih => rw [skip, next_after, ih, skip]

@[simp] theorem takeWhile_after (p : CodePoint → Bool) :
    (c.after n).takeWhile p = afterAt n (c.takeWhile p) := by
  simp [takeWhile]

@[simp] theorem skipWhile_after (p : CodePoint → Bool) :
    (c.after n).skipWhile p = (c.skipWhile p).after n := by
  simp [skipWhile]

@[simp] theorem skipSpaces_after : (c.after n).skipSpaces = c.skipSpaces.after n := skipWhile_after _

@[simp] theorem skipLine_after : (c.after n).skipLine = c.skipLine.after n := skipWhile_after _

@[simp] theorem readBreak_after : (c.after n).readBreak = afterAt n c.readBreak := by
  simp only [readBreak, rest_after, next_after]
  split
  · split_ifs <;> rfl
  · split_ifs <;> rfl
  · rfl

@[simp] theorem endLine_after : (c.after n).endLine = after n <$> c.endLine := by
  simp only [endLine, skipSpaces_after, at_after, skipLine_after]
  split_ifs <;> simp_all

end Cursor

/-! ## Scalars -/

open Cursor

@[simp] theorem map_ok {β : Type} (f : α → β) (a : α) : f <$> (.ok a : Result α) = .ok (f a) := rfl

@[simp] theorem map_error {β : Type} (f : α → β) (e : Fault) :
    f <$> (.error e : Result α) = .error e := rfl

@[simp] theorem throw_bind {β : Type} (e : Fault) (f : α → Result β) :
    (throw e : Result α) >>= f = throw e := rfl

@[simp] theorem map_throw {β : Type} (f : α → β) (e : Fault) :
    f <$> (throw e : Result α) = throw e := rfl

variable {c : Cursor}

@[simp] theorem readQuotedBreaks_after (fuel : ℕ) :
    readQuotedBreaks fuel (c.after n) = afterAt n <$> readQuotedBreaks fuel c := by
  induction fuel generalizing c with
  | zero => rfl
  | succ fuel ih =>
      simp only [readQuotedBreaks, rest_after, skipWhile_after, readBreak_after]
      split_ifs
      · rfl
      · simp [ih]
      · rfl

@[simp] theorem readQuotedChars_after (double : Bool) (fuel : ℕ) :
    readQuotedChars double fuel (c.after n) = afterAt n <$> readQuotedChars double fuel c := by
  induction fuel generalizing c with
  | zero => rfl
  | succ fuel ih =>
      simp only [readQuotedChars, takeWhile_after, fst_afterAt, snd_afterAt, rest_after]
      split
      · rfl
      · split_ifs
        · simp [ih]
        · simp [ih]
        · split
          · rfl
          · split
            · simp [ih]
            · split_ifs
              · simp [ih]
              · rfl
            · split_ifs
              · simp [ih]
              · rfl
        · rfl

@[simp] theorem readQuotedBlanks_after :
    readQuotedBlanks (c.after n) = afterAt n <$> readQuotedBlanks c := by
  simp only [readQuotedBlanks, takeWhile_after, fst_afterAt, snd_afterAt, rest_after,
    readBreak_after, readQuotedBreaks_after]
  split
  · rfl
  · split_ifs
    · simp
    · simp only [bind_map_left, map_bind]
      refine bind_congr fun a => ?_
      by_cases hempty : a.1.isEmpty = true
      · rw [fst_afterAt, if_pos hempty, if_pos hempty]
        rfl
      · rw [fst_afterAt, if_neg hempty, if_neg hempty]
        rfl
    · rfl

@[simp] theorem readQuotedBody_after (quote : CodePoint) (fuel : ℕ) :
    readQuotedBody quote fuel (c.after n) = afterAt n <$> readQuotedBody quote fuel c := by
  induction fuel generalizing c with
  | zero => rfl
  | succ fuel ih =>
      simp only [readQuotedBody, readQuotedChars_after, rest_after, bind_map_left, map_bind]
      refine bind_congr fun ⟨chars, d⟩ => ?_
      by_cases hquote : d.peek? = some quote <;> simp [hquote, ih]

@[simp] theorem readQuoted_after (quote : CodePoint) :
    readQuoted quote (c.after n) = afterAt n <$> readQuoted quote c := by
  rw [readQuoted, next_after, readQuotedBody_after, rest_after, readQuoted]

@[simp] theorem readPlainBreaks_after (fuel : ℕ) :
    readPlainBreaks fuel (c.after n) = afterAt n (readPlainBreaks fuel c) := by
  induction fuel generalizing c with
  | zero => rfl
  | succ fuel ih =>
      simp only [readPlainBreaks, skipSpaces_after, rest_after, readBreak_after, fst_afterAt,
        snd_afterAt, ih]
      split_ifs <;> rfl

@[simp] theorem readPlainGap_after : readPlainGap (c.after n) =
    ((readPlainGap c).1, (readPlainGap c).2.1, (readPlainGap c).2.2.after n) := by
  simp only [readPlainGap, takeWhile_after, fst_afterAt, snd_afterAt, rest_after, readBreak_after,
    readPlainBreaks_after]
  generalize readPlainBreaks _ (c.takeWhile _).2.readBreak.2 = gap
  obtain ⟨_ | breaks, d⟩ := gap
  · split_ifs <;> rfl
  · simp only [afterAt_mk]
    split_ifs <;> rfl

/-- What a plain scalar gave, with `n` more characters in front of it. -/
def PlainText.after (n : ℕ) (p : PlainText) : PlainText := { p with cursor := p.cursor.after n }

@[simp] theorem readPlainRuns_after (inFlow : Bool) (indent : Int) (fuel : ℕ) {gap : Text}
    {ended : Bool} : readPlainRuns inFlow indent fuel gap ended (c.after n) =
      (readPlainRuns inFlow indent fuel gap ended c).after n := by
  induction fuel generalizing c gap ended with
  | zero => rfl
  | succ fuel ih =>
      cases hhash : c.at_ '#' with
      | true => simp [readPlainRuns, hhash, PlainText.after]
      | false =>
          simp only [readPlainRuns, at_after, hhash, Bool.false_eq_true, if_false, rest_after,
            skip_after, readPlainGap_after]
          generalize readPlainGap _ = following
          obtain ⟨_ | blanks, ended', d⟩ := following
          · split_ifs <;> rfl
          · simp only [at_after, column_after, ih]
            split_ifs <;> first | rfl | contradiction

@[simp] theorem readPlain_after (inFlow : Bool) (indent : Int) :
    readPlain inFlow indent (c.after n) = (readPlain inFlow indent c).after n := by
  rw [readPlain, readPlainRuns_after, rest_after, readPlain]

/-! ## Block scalars -/

/-- The header of a block scalar with `n` more characters in front of it. -/
@[simp] theorem readBlockHeader_after : readBlockHeader (c.after n) =
    (fun h => (h.1, h.2.1, h.2.2.after n)) <$> readBlockHeader c := by
  simp only [readBlockHeader, peek?_after, next_after, skip_after]
  -- whatever the header says, a blank has to follow it
  let finish (h : Chomping × Option ℕ × Cursor) : Result (Chomping × Option ℕ × Cursor) :=
    if startsSpace h.2.2.rest = true then pure (h.1, h.2.1, h.2.2) else throw Fault.malformed
  have hend (chomping : Chomping) (increment : Option ℕ) (d : Cursor) :
      (.ok (chomping, increment, d.after n) : Result _) >>= finish =
        (fun h => (h.1, h.2.1, h.2.2.after n)) <$>
          ((.ok (chomping, increment, d) : Result _) >>= finish) := by
    show finish _ = _ <$> finish _
    by_cases hspace : startsSpace d.rest = true <;> simp [finish, hspace]
  cases c.peek?.bind chomping? with
  | some chomping =>
      cases c.next.peek?.bind _ with
      | some d =>
          by_cases hd : d = 0
          · simp only [hd, if_true]
            rfl
          · simp only [hd, if_false]
            exact hend ..
      | none => exact hend ..
  | none =>
      cases c.peek?.bind fun ch => if ch.isDigit = true then some (ch.toNat - 48) else none with
      | some d =>
          by_cases hd : d = 0
          · simp only [hd, if_true]
            rfl
          · simp only [hd, if_false]
            cases c.next.peek?.bind chomping? with
            | some chomping => exact hend ..
            | none => exact hend ..
      | none => exact hend ..

@[simp] theorem readBlockIndentation_after (fuel widest : ℕ) :
    readBlockIndentation fuel widest (c.after n) =
      ((readBlockIndentation fuel widest c).1, (readBlockIndentation fuel widest c).2.1,
        (readBlockIndentation fuel widest c).2.2.after n) := by
  induction fuel generalizing widest c with
  | zero => rfl
  | succ fuel ih =>
      simp only [readBlockIndentation, rest_after, next_after, column_after, readBreak_after,
        fst_afterAt, snd_afterAt, ih]
      split
      · split_ifs <;> rfl
      · rfl

@[simp] theorem skipIndent_after (indent : ℕ) :
    skipIndent indent (c.after n) = (skipIndent indent c).after n := by
  simp [skipIndent]

@[simp] theorem readBlockBreaks_after (indent fuel : ℕ) :
    readBlockBreaks indent fuel (c.after n) = afterAt n (readBlockBreaks indent fuel c) := by
  induction fuel generalizing c with
  | zero => rfl
  | succ fuel ih =>
      simp only [readBlockBreaks, skipIndent_after, rest_after, readBreak_after, fst_afterAt,
        snd_afterAt, ih]
      split_ifs <;> rfl

@[simp] theorem readBlockLines_after (folded : Bool) (indent fuel : ℕ) {breaks : Text} :
    readBlockLines folded indent fuel breaks (c.after n) =
      ((readBlockLines folded indent fuel breaks c).1,
        (readBlockLines folded indent fuel breaks c).2.1,
        (readBlockLines folded indent fuel breaks c).2.2.1,
        (readBlockLines folded indent fuel breaks c).2.2.2.after n) := by
  induction fuel generalizing c breaks with
  | zero => rfl
  | succ fuel ih =>
      simp only [readBlockLines, column_after, rest_after, peek?_after, takeWhile_after,
        fst_afterAt, snd_afterAt, readBreak_after, readBlockBreaks_after, ih]
      split_ifs <;> first | rfl | contradiction

@[simp] theorem readBlock_after (folded : Bool) (parent : Int) :
    readBlock folded parent (c.after n) = afterAt n <$> readBlock folded parent c := by
  simp only [readBlock, next_after, readBlockHeader_after, bind_map_left, map_bind, endLine_after]
  refine bind_congr fun ⟨chomping, increment, _⟩ => bind_congr fun d => ?_
  cases increment <;> simp

/-! ## Names, tags and directives -/

namespace TokenReader

@[simp] theorem readName_after : readName (c.after n) = afterAt n <$> readName c := by
  simp only [readName, next_after, takeWhile_after, fst_afterAt, snd_afterAt, rest_after,
    peek?_after]
  split_ifs <;> rfl

@[simp] theorem readEscapedBytes_after (fuel : ℕ) :
    readEscapedBytes fuel (c.after n) = afterAt n <$> readEscapedBytes fuel c := by
  induction fuel generalizing c with
  | zero => rfl
  | succ fuel ih =>
      simp only [readEscapedBytes, at_after, rest_after, skip_after, ih]
      split_ifs
      · split
        · split
          · simp
          · rfl
        · rfl
      · rfl

@[simp] theorem readUriPieces_after (fuel : ℕ) :
    readUriPieces fuel (c.after n) = afterAt n <$> readUriPieces fuel c := by
  induction fuel generalizing c with
  | zero => rfl
  | succ fuel ih =>
      simp only [readUriPieces, takeWhile_after, fst_afterAt, snd_afterAt, at_after, rest_after,
        readEscapedBytes_after, bind_map_left]
      split_ifs
      · rw [map_bind]
        refine bind_congr fun ⟨bytes, d⟩ => ?_
        cases Utf8.decode bytes with
        | error e => rfl
        | ok t => simp [ih]
      · rfl

@[simp] theorem readUri_after : readUri (c.after n) = afterAt n <$> readUri c := by
  simp only [readUri, peek?_after, rest_after, readUriPieces_after]
  split_ifs <;> rfl

@[simp] theorem readHandle_after : readHandle (c.after n) = afterAt n <$> readHandle c := by
  simp only [readHandle, at_after, next_after, takeWhile_after, fst_afterAt, snd_afterAt]
  split_ifs <;> rfl

@[simp] theorem readTag_after : readTag (c.after n) = afterAt n <$> readTag c := by
  simp only [readTag, at_after, next_after, skip_after, readUri_after, readHandle_after, rest_after,
    bind_map_left]
  split_ifs
  · rw [map_bind]
    refine bind_congr fun ⟨uri, d⟩ => ?_
    cases hclosed : d.at_ '>'
    · simp [hclosed]
    · cases hspace : startsSpace d.next.rest <;> simp [hclosed, hspace]
  · cases hspace : startsSpace c.next.rest <;> simp [hspace]
  · rw [map_bind]
    refine bind_congr fun ⟨handle, d⟩ => ?_
    rw [map_bind, snd_afterAt, readUri_after, bind_map_left]
    refine bind_congr fun ⟨uri, d⟩ => ?_
    cases hspace : startsSpace d.rest <;> simp [hspace]
  · rw [map_bind]
    refine bind_congr fun ⟨uri, d⟩ => ?_
    cases hspace : startsSpace d.rest <;> simp [hspace]

@[simp] theorem readVersionNumber_after :
    readVersionNumber (c.after n) = afterAt n <$> readVersionNumber c := by
  simp only [readVersionNumber, takeWhile_after, fst_afterAt, snd_afterAt]
  split_ifs <;> rfl

@[simp] theorem readDirective_after : readDirective (c.after n) = afterAt n <$> readDirective c := by
  simp only [readDirective, next_after, takeWhile_after, fst_afterAt, snd_afterAt, rest_after,
    skipSpaces_after, skipLine_after, endLine_after, readVersionNumber_after, readHandle_after,
    bind_map_left]
  split_ifs
  · rfl
  · rw [map_bind]
    refine bind_congr fun ⟨major, d⟩ => ?_
    cases hdot : d.at_ '.'
    · simp [hdot]
    · simp only [at_after, hdot, Bool.not_true, Bool.false_eq_true, if_false, map_bind]
      refine bind_congr fun ⟨minor, d⟩ => ?_
      cases startsSpace d.rest <;> simp
  · rw [map_bind]
    refine bind_congr fun ⟨handle, d⟩ => ?_
    cases hblank : d.at_ ' '
    · simp [hblank]
    · simp only [at_after, hblank, readUri_after, bind_map_left, Bool.not_true, Bool.false_eq_true,
        if_false, map_bind]
      refine bind_congr fun ⟨lead, d⟩ => ?_
      cases hspace : startsSpace d.rest <;> simp [hspace]
  · simp

/-! ## Tokens -/

end TokenReader

/-- A place where a key may have begun, with `n` more characters and `m` more tokens in front. -/
def PendingKey.after (m n : ℕ) (k : PendingKey) : PendingKey :=
  { k with tokenIndex := k.tokenIndex + m, index := k.index + n }

namespace TokenReader

/-- The same state with `n` more characters in front of it that gave the tokens `ts`. -/
def after (ts : List Token) (n : ℕ) (r : TokenReader) : TokenReader :=
  { r with
    cursor := r.cursor.after n
    tokens := (ts ++ r.tokens.toList).toArray
    pending := r.pending.map (PendingKey.after ts.length n) }

variable {ts : List Token} {r : TokenReader}

@[simp] theorem cursor_after : (r.after ts n).cursor = r.cursor.after n := rfl

@[simp] theorem flowLevel_after : (r.after ts n).flowLevel = r.flowLevel := rfl

@[simp] theorem indent_after : (r.after ts n).indent = r.indent := rfl

@[simp] theorem outerIndents_after : (r.after ts n).outerIndents = r.outerIndents := rfl

@[simp] theorem allowKey_after : (r.after ts n).allowKey = r.allowKey := rfl

@[simp] theorem inBlock_after : (r.after ts n).inBlock = r.inBlock := rfl

@[simp] theorem size_tokens_after : (r.after ts n).tokens.size = ts.length + r.tokens.size := by
  simp [after]

theorem push_after (t : Token) : (r.after ts n).tokens.push t =
    (ts ++ (r.tokens.push t).toList).toArray := by
  simp [after]

theorem insert_after (k : ℕ) (t : Token) :
    ((r.after ts n).tokens.toList.take (k + ts.length) ++
        t :: (r.after ts n).tokens.toList.drop (k + ts.length)).toArray =
      (ts ++ (r.tokens.toList.take k ++ t :: r.tokens.toList.drop k)).toArray := by
  simp [after, Nat.add_comm k, List.take_length_add_append]

@[simp] theorem closeIndents_after (column : Int) (outer : List Int) :
    closeIndents column outer (r.after ts n) = (closeIndents column outer r).after ts n := by
  induction outer generalizing r with
  | nil => rfl
  | cons o rest ih =>
      by_cases hdeep : column < r.indent
      · simp only [closeIndents, indent_after, hdeep, if_true, push_after, ← ih]
        rfl
      · simp only [closeIndents, indent_after, hdeep, if_false]

@[simp] theorem unwind_after (column : Int) :
    (r.after ts n).unwind column = (r.unwind column).after ts n := by
  simp only [unwind, inBlock_after, outerIndents_after, closeIndents_after]
  cases r.inBlock <;> rfl

@[simp] theorem indentTo_after (column : Int) (k : ℕ) (t : Token) :
    (r.after ts n).indentTo column (k + ts.length) t = (r.indentTo column k t).after ts n := by
  by_cases hdeep : r.indent < column
  · simp only [indentTo, indent_after, hdeep, if_true, insert_after]
    rfl
  · simp only [indentTo, indent_after, hdeep, if_false]

/-- A choice among the pending keys that does not depend on what stands in front. -/
theorem pending_after {p q : PendingKey → Bool} (h : ∀ k, p (k.after ts.length n) = q k) :
    (r.after ts n).pending.any p = r.pending.any q ∧ (r.after ts n).pending.filter p =
      (r.pending.filter q).map (PendingKey.after ts.length n) := by
  constructor
  · simp [after, Function.comp_def, h]
  · simp only [after, List.filter_map, Function.comp_def, h]

@[simp] theorem dropStale_after : (r.after ts n).dropStale = after ts n <$> r.dropStale := by
  let stale (k : PendingKey) : Bool := k.line != r.cursor.line || 1024 < r.cursor.index - k.index
  have hstale (k : PendingKey) :
      ((k.after ts.length n).line != (r.after ts n).cursor.line ||
        decide (1024 < (r.after ts n).cursor.index - (k.after ts.length n).index)) = stale k := by
    simp [stale, PendingKey.after, Cursor.after, Nat.add_sub_add_right]
  unfold dropStale
  dsimp only
  rw [(pending_after (q := fun k => stale k && k.required) fun k => by rw [hstale]; rfl).1,
    (pending_after (q := fun k => !stale k) fun k => by rw [hstale]).2]
  split_ifs <;> rfl

@[simp] theorem dropPending_after : (r.after ts n).dropPending = after ts n <$> r.dropPending := by
  unfold dropPending
  rw [(pending_after (q := fun k => k.flowLevel = r.flowLevel && k.required) fun k => rfl).1,
    (pending_after (q := fun k => k.flowLevel != r.flowLevel) fun k => rfl).2]
  split_ifs <;> rfl

@[simp] theorem notePending_after : (r.after ts n).notePending = after ts n <$> r.notePending := by
  cases hallow : r.allowKey
  · simp [notePending, hallow]
  · simp only [notePending, allowKey_after, hallow, if_true, dropPending_after, bind_map_left,
      map_bind]
    refine bind_congr fun r => ?_
    simp only [size_tokens_after, Nat.add_comm ts.length]
    rfl

theorem take_after (k : ℕ) (t : Token) : (r.after ts n).take k t = (r.take k t).after ts n := by
  simp only [take, cursor_after, skip_after, push_after]
  rfl

@[simp] theorem skipToToken_after (fuel : ℕ) :
    skipToToken fuel (r.after ts n) = (skipToToken fuel r).after ts n := by
  induction fuel generalizing r with
  | zero => rfl
  | succ fuel ih =>
      simp only [skipToToken, cursor_after, skipSpaces_after, at_after, skipLine_after]
      cases r.cursor.skipSpaces.at_ '#'
      all_goals
        simp only [Bool.false_eq_true, if_false, if_true, rest_after, readBreak_after, snd_afterAt,
          inBlock_after, allowKey_after]
        split_ifs
        · rw [← ih]
          rfl
        · rfl

@[simp] theorem atDocumentLevel_after :
    (r.after ts n).atDocumentLevel = after ts n <$> r.atDocumentLevel := by
  simp only [atDocumentLevel, unwind_after, dropPending_after, bind_map_left, map_bind]
  rfl

@[simp] theorem openFlow_after (t : Token) :
    (r.after ts n).openFlow t = after ts n <$> r.openFlow t := by
  simp only [openFlow, notePending_after, bind_map_left, map_bind, take_after]
  rfl

@[simp] theorem closeFlow_after (t : Token) :
    (r.after ts n).closeFlow t = after ts n <$> r.closeFlow t := by
  simp only [closeFlow, dropPending_after, bind_map_left, map_bind, take_after]
  rfl

theorem allow_after (allowKey : Bool) :
    { r.after ts n with allowKey } = { r with allowKey }.after ts n := rfl

@[simp] theorem readFlowEntry_after :
    (r.after ts n).readFlowEntry = after ts n <$> r.readFlowEntry := by
  simp only [readFlowEntry, allow_after, dropPending_after, bind_map_left, map_bind, take_after]
  rfl

@[simp] theorem readBlockEntry_after :
    (r.after ts n).readBlockEntry = after ts n <$> r.readBlockEntry := by
  simp only [readBlockEntry, inBlock_after, allowKey_after, cursor_after, column_after,
    size_tokens_after, Nat.add_comm ts.length, indentTo_after, throw_bind]
  cases hrefused : r.inBlock && !r.allowKey
  · cases hblock : r.inBlock
    all_goals
      simp only [Bool.false_eq_true, if_false, if_true, allow_after, dropPending_after,
        bind_map_left, map_bind, take_after]
      rfl
  · rfl

@[simp] theorem readKey_after : (r.after ts n).readKey = after ts n <$> r.readKey := by
  simp only [readKey, inBlock_after, allowKey_after, cursor_after, column_after,
    size_tokens_after, Nat.add_comm ts.length, indentTo_after, throw_bind]
  cases hrefused : r.inBlock && !r.allowKey
  · cases hblock : r.inBlock
    all_goals
      simp only [Bool.false_eq_true, if_false, if_true, inBlock_after, allow_after,
        dropPending_after, bind_map_left, map_bind, take_after]
      rfl
  · rfl

@[simp] theorem readValue_after : (r.after ts n).readValue = after ts n <$> r.readValue := by
  have hfind : ((r.after ts n).pending.find? fun k => k.flowLevel = (r.after ts n).flowLevel) =
      (r.pending.find? fun k => k.flowLevel = r.flowLevel).map (PendingKey.after ts.length n) := by
    simp only [after, List.find?_map]
    rfl
  simp only [readValue, hfind]
  cases r.pending.find? fun k => k.flowLevel = r.flowLevel with
  | none =>
      simp only [Option.map_none, inBlock_after, allowKey_after, cursor_after, column_after,
        size_tokens_after, Nat.add_comm ts.length, indentTo_after, throw_bind]
      cases hrefused : r.inBlock && !r.allowKey
      · cases hblock : r.inBlock
        all_goals
          simp only [Bool.false_eq_true, if_false, if_true, inBlock_after, allow_after,
            dropPending_after, bind_map_left, map_bind, take_after]
          rfl
      · rfl
  | some k =>
      -- the state with the token of the key put in
      let r' : TokenReader := { r with
        pending := r.pending.filter fun j => j.flowLevel != r.flowLevel
        tokens := (r.tokens.toList.take k.tokenIndex ++
          Token.key :: r.tokens.toList.drop k.tokenIndex).toArray
        allowKey := false }
      have hput : { r.after ts n with
          pending := (r.after ts n).pending.filter fun j => j.flowLevel != (r.after ts n).flowLevel
          tokens := ((r.after ts n).tokens.toList.take (k.tokenIndex + ts.length) ++
            Token.key :: (r.after ts n).tokens.toList.drop (k.tokenIndex + ts.length)).toArray
          allowKey := false } = r'.after ts n := by
        rw [(pending_after (q := fun j => j.flowLevel != r.flowLevel) fun j => rfl).2, insert_after]
        rfl
      simp only [Option.map_some, PendingKey.after, hput]
      rw [inBlock_after, indentTo_after]
      cases r'.inBlock
      · exact congrArg _ (take_after 1 .value)
      · exact congrArg _ (take_after 1 .value)

theorem readContent_after {read : Cursor → Result (Token × Cursor)}
    (hread : ∀ c, read (c.after n) = afterAt n <$> read c) :
    (r.after ts n).readContent read = after ts n <$> r.readContent read := by
  simp only [readContent, notePending_after, bind_map_left, map_bind]
  refine bind_congr fun r => ?_
  simp only [cursor_after, hread, bind_map_left, fst_afterAt, snd_afterAt, push_after]
  rfl

@[simp] theorem readBlockScalar_after (folded : Bool) :
    (r.after ts n).readBlockScalar folded = after ts n <$> r.readBlockScalar folded := by
  simp only [readBlockScalar, allow_after, dropPending_after, bind_map_left, map_bind]
  refine bind_congr fun r => ?_
  simp only [cursor_after, indent_after, readBlock_after, bind_map_left, fst_afterAt, snd_afterAt,
    push_after]
  rfl

@[simp] theorem readPlainScalar_after :
    (r.after ts n).readPlainScalar = after ts n <$> r.readPlainScalar := by
  simp only [readPlainScalar, notePending_after, bind_map_left, map_bind]
  refine bind_congr fun r => ?_
  simp only [cursor_after, indent_after, inBlock_after, readPlain_after, push_after]
  rfl

theorem ite_map {β : Type} {p : Prop} [Decidable p] {f : α → β} {x y : Result α} {x' y' : Result β}
    (hx : x' = f <$> x) (hy : y' = f <$> y) :
    (if p then x' else y') = f <$> if p then x else y := by
  split <;> assumption

theorem readContent_readName_after (token : Text → Token) :
    (r.after ts n).readContent (fun c => do
        let (name, c) ← readName c
        return (token name, c)) = after ts n <$> r.readContent (fun c => do
          let (name, c) ← readName c
          return (token name, c)) :=
  readContent_after fun c => by simp

@[simp] theorem readAt_after (ch : CodePoint) (rest : Text) :
    (r.after ts n).readAt ch rest = after ts n <$> r.readAt ch rest := by
  have hmarker (t : Token) :
      (do return (← (r.after ts n).atDocumentLevel).take 3 t) =
        after ts n <$> (do return (← r.atDocumentLevel).take 3 t) := by
    rw [atDocumentLevel_after, bind_map_left, map_bind]
    exact bind_congr fun r => congrArg _ (take_after 3 t)
  unfold readAt
  refine ite_map ?_ <| ite_map (hmarker _) <| ite_map (hmarker _) <|
    ite_map (openFlow_after _) <| ite_map (openFlow_after _) <| ite_map (closeFlow_after _) <|
    ite_map (closeFlow_after _) <| ite_map readFlowEntry_after <| ite_map readBlockEntry_after <|
    ite_map readKey_after <| ite_map readValue_after <|
    ite_map (readContent_readName_after .alias) <| ite_map (readContent_readName_after .anchor) <|
    ite_map (readContent_after fun _ => readTag_after) <|
    ite_map (readBlockScalar_after _) <| ite_map (readBlockScalar_after _) <|
    ite_map (readContent_after fun c => by simp) <| ite_map readPlainScalar_after rfl
  rw [atDocumentLevel_after, bind_map_left, map_bind]
  refine bind_congr fun r => ?_
  simp only [cursor_after, readDirective_after, bind_map_left, map_bind]
  refine bind_congr fun p => ?_
  simp only [fst_afterAt, snd_afterAt, push_after]
  rfl

/-- Reading goes on in the same way wherever it stands. -/
theorem readAll_after (fuel : ℕ) : readAll fuel (r.after ts n) =
    ((ts ++ (readAll fuel r).1.toList).toArray, (readAll fuel r).2) := by
  induction fuel generalizing r with
  | zero => rfl
  | succ fuel ih =>
      simp only [readAll, cursor_after, rest_after, skipToToken_after, dropStale_after]
      cases (skipToToken (r.cursor.rest.length + 1) r).dropStale with
      | error e => rfl
      | ok r =>
          simp only [map_ok, cursor_after, column_after, unwind_after, rest_after,
            dropPending_after, readAt_after]
          cases (r.unwind r.cursor.column).cursor.rest with
          | nil => cases ((r.unwind r.cursor.column).unwind (-1)).dropPending <;> rfl
          | cons ch rest =>
              dsimp only
              cases (r.unwind r.cursor.column).readAt ch rest with
              | error e => rfl
              | ok r => exact ih

/-- Where the tokens end without a fault, more fuel changes nothing. -/
theorem readAll_add {fuel : ℕ} (h : (readAll fuel r).2 = none) (k : ℕ) :
    readAll (fuel + k) r = readAll fuel r := by
  induction fuel generalizing r with
  | zero => cases h
  | succ fuel ih =>
      rw [Nat.add_right_comm]
      simp only [readAll] at h ⊢
      cases hstale : (skipToToken (r.cursor.rest.length + 1) r).dropStale with
      | error e => rfl
      | ok r =>
          simp only [hstale] at h ⊢
          cases hrest : (r.unwind r.cursor.column).cursor.rest with
          | nil => rfl
          | cons ch rest =>
              simp only [hrest] at h ⊢
              cases hread : (r.unwind r.cursor.column).readAt ch rest with
              | error e => rfl
              | ok r =>
                  simp only [hread] at h ⊢
                  exact ih h

end TokenReader

end HelpCenter.Yaml

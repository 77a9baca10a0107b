import HelpCenter.Proofs.Except
import HelpCenter.Proofs.Json.Strings
import HelpCenter.Proofs.Number.DecimalText
import HelpCenter.Proofs.Text.Plain

/-!
# Reading back printed JSON

What is printed reads back in normal form, over lines (`parse_pretty`) and on one line
(`parse_print`): surrogate pairs are joined, and of the members of one name the first place and the
last value remain.  Both ways of printing are layouts, which differ in the gaps between the same
signs.
-/

namespace HelpCenter.Json

/-! ## Normal form -/

mutual

/-- The value that is read from what is printed for a value. -/
def normal : Json → Json
  | .null => .null
  | .bool b => .bool b
  | .int n => .int n
  | .float x => .float x
  | .str t => .str (Text.joinPairs t)
  | .arr items => .arr (normalItems items)
  | .obj members => .obj (normalMembers [] members)

/-- The normal forms of items. -/
def normalItems : List Json → List Json
  | [] => []
  | item :: items => normal item :: normalItems items

/-- The members already read together with the normal forms of others. -/
def normalMembers (known : List (Text × Json)) : List (Text × Json) → List (Text × Json)
  | [] => known
  | (name, value) :: members =>
    normalMembers (put (Text.joinPairs name) (normal value) known) members

end

/-! ## Layouts -/

/-- The gaps that printed lists and objects have at each level. -/
structure Layout where
  /-- Behind an opening bracket. -/
  opening : ℕ → Text
  /-- Behind a comma. -/
  between : ℕ → Text
  /-- Before a closing bracket. -/
  closing : ℕ → Text
  isBlank : ∀ depth, ∀ c ∈ opening depth ++ between depth ++ closing depth, c = ' ' ∨ c = '\n'

namespace Layout

/-- All on one line. -/
def line : Layout where
  opening _ := []
  between _ := [' ']
  closing _ := []
  isBlank := by simp

/-- Each item on a line of its own. -/
def lines : Layout where
  opening depth := lineBreak (depth + 1)
  between depth := lineBreak (depth + 1)
  closing depth := lineBreak depth
  isBlank depth c hc := by
    have hline {depth : ℕ} (h : c ∈ lineBreak depth) : c = ' ' ∨ c = '\n' :=
      (List.mem_cons.1 h).symm.imp_left List.eq_of_mem_replicate
    rcases List.mem_append.1 hc with hc | hc
    · exact (List.mem_append.1 hc).elim hline hline
    · exact hline hc

mutual

/-- The value at `depth` levels. -/
def print (L : Layout) (depth : ℕ) : Json → Text
  | .arr [] => lit "[]"
  | .arr (item :: items) =>
    lit "[" ++ L.opening depth ++ (L.print (depth + 1) item ++ L.printItems depth items)
  | .obj [] => lit "\x7b\x7d"
  | .obj ((name, value) :: members) =>
    lit "\x7b" ++ L.opening depth ++ (quote name ++ (lit ": " ++
      (L.print (depth + 1) value ++ L.printMembers depth members)))
  | v => scalarText v

/-- The items after the first, and the closing bracket. -/
def printItems (L : Layout) (depth : ℕ) : List Json → Text
  | [] => L.closing depth ++ lit "]"
  | item :: items =>
    lit "," ++ L.between depth ++ (L.print (depth + 1) item ++ L.printItems depth items)

/-- The members after the first, and the closing brace. -/
def printMembers (L : Layout) (depth : ℕ) : List (Text × Json) → Text
  | [] => L.closing depth ++ lit "\x7d"
  | (name, value) :: members =>
    lit "," ++ L.between depth ++ (quote name ++ (lit ": " ++
      (L.print (depth + 1) value ++ L.printMembers depth members)))

end

end Layout

mutual

theorem prettyAt_eq (depth : ℕ) (v : Json) : prettyAt depth v = Layout.lines.print depth v := by
  match v with
  | .null | .bool _ | .int _ | .float _ | .str _ | .arr [] | .obj [] => rfl
  | .arr (item :: items) => rw [prettyAt, prettyAt_eq, prettyItems_eq, Layout.print]; rfl
  | .obj ((name, value) :: members) =>
      rw [prettyAt, prettyAt_eq, prettyMembers_eq, Layout.print]
      rfl

theorem prettyItems_eq (depth : ℕ) (items : List Json) :
    prettyItems depth items = Layout.lines.printItems depth items := by
  match items with
  | [] => rfl
  | item :: items => rw [prettyItems, prettyAt_eq, prettyItems_eq, Layout.printItems]; rfl

theorem prettyMembers_eq (depth : ℕ) (members : List (Text × Json)) :
    prettyMembers depth members = Layout.lines.printMembers depth members := by
  match members with
  | [] => rfl
  | (name, value) :: members =>
      rw [prettyMembers, prettyAt_eq, prettyMembers_eq, Layout.printMembers]
      rfl

end

mutual

theorem print_eq (depth : ℕ) (v : Json) : print v = Layout.line.print depth v := by
  match v with
  | .null | .bool _ | .int _ | .float _ | .str _ | .arr [] | .obj [] => rfl
  | .arr (item :: items) =>
      rw [print, print_eq (depth + 1), printItems_eq depth, Layout.print]
      rfl
  | .obj ((name, value) :: members) =>
      rw [print, print_eq (depth + 1), printMembers_eq depth, Layout.print]
      rfl

theorem printItems_eq (depth : ℕ) (items : List Json) :
    printItems items = Layout.line.printItems depth items := by
  match items with
  | [] => rfl
  | item :: items =>
      rw [printItems, print_eq (depth + 1), printItems_eq depth, Layout.printItems]
      rfl

theorem printMembers_eq (depth : ℕ) (members : List (Text × Json)) :
    printMembers members = Layout.line.printMembers depth members := by
  match members with
  | [] => rfl
  | (name, value) :: members =>
      rw [printMembers, print_eq (depth + 1), printMembers_eq depth, Layout.printMembers]
      rfl

end

variable {L : Layout} {depth fuel : ℕ} {rest : Text}

/-! ## Gaps -/

theorem Layout.isBlank_opening (L : Layout) (depth : ℕ) :
    ∀ c ∈ L.opening depth, c = ' ' ∨ c = '\n' := by
  have h := L.isBlank depth
  rw [List.forall_mem_append, List.forall_mem_append] at h
  exact h.1.1

theorem Layout.isBlank_between (L : Layout) (depth : ℕ) :
    ∀ c ∈ L.between depth, c = ' ' ∨ c = '\n' := by
  have h := L.isBlank depth
  rw [List.forall_mem_append, List.forall_mem_append] at h
  exact h.1.2

theorem Layout.isBlank_closing (L : Layout) (depth : ℕ) :
    ∀ c ∈ L.closing depth, c = ' ' ∨ c = '\n' := by
  have h := L.isBlank depth
  rw [List.forall_mem_append] at h
  exact h.2

theorem skipGap_append {gap t : Text} (hgap : ∀ c ∈ gap, c = ' ' ∨ c = '\n')
    (ht : ∃ c r, t = c :: r ∧ isGap c = false) : skipGap (gap ++ t) = t := by
  obtain ⟨c, r, rfl, hc⟩ := ht
  unfold skipGap
  rw [List.dropWhile_append_of_pos fun d hd => ?_]
  · simp [hc]
  · rcases hgap d hd with rfl | rfl <;> rfl

theorem skipGap_quote {gap : Text} (hgap : ∀ c ∈ gap, c = ' ' ∨ c = '\n') (name s t : Text) :
    skipGap (gap ++ (quote name ++ s ++ t)) = quote name ++ s ++ t :=
  skipGap_append hgap ⟨_, name.flatMap escapeChar ++ lit "\"" ++ s ++ t, rfl, rfl⟩

theorem skipGap_cons {c : CodePoint} (hc : isGap c = false) : skipGap (c :: rest) = c :: rest := by
  simp [skipGap, hc]

/-! ## Numbers, words and strings -/

theorem readValue_number {t : Text} {v : Bool → Json} (h : ReadsAs t v) (hr : EndsNumber rest)
    (hf : 0 < fuel) : readValue fuel (t ++ rest) = .ok (v false, rest) := by
  obtain ⟨k, rfl⟩ := Nat.exists_eq_succ_of_ne_zero hf.ne'
  obtain ⟨c, r, rfl, hc⟩ := h.head
  have hne (x : CodePoint) (hx : x.isDigit = false) : c ≠ x := fun he => by simp [he, hx] at hc
  rw [List.cons_append, readValue, if_neg (hne _ rfl), if_neg (hne _ rfl), if_neg (hne _ rfl),
    if_pos hc, ← List.cons_append, h.reads false rest hr]

theorem readValue_negative {t : Text} {v : Bool → Json} (h : ReadsAs t v) (hr : EndsNumber rest)
    (hf : 0 < fuel) : readValue fuel (('-' : CodePoint) :: t ++ rest) = .ok (v true, rest) := by
  obtain ⟨k, rfl⟩ := Nat.exists_eq_succ_of_ne_zero hf.ne'
  obtain ⟨c, r, ht, hc⟩ := h.head
  have hhead : (((t ++ rest).head?.map CodePoint.isDigit).getD false) = true := by simp [ht, hc]
  rw [List.cons_append, readValue, if_neg (by decide), if_neg (by decide), if_neg (by decide),
    if_neg (by decide), if_pos (Bool.and_eq_true_iff.2 ⟨by decide, hhead⟩), h.reads true rest hr]

theorem readValue_quote (t : Text) (hf : t.length + 1 < fuel) :
    readValue fuel (quote t ++ rest) = .ok (.str (Text.joinPairs t), rest) := by
  obtain ⟨k, rfl⟩ := Nat.exists_eq_add_of_lt hf
  have h : quote t ++ rest =
      ('"' : CodePoint) :: (t.flatMap escapeChar ++ ('"' : CodePoint) :: rest) := by
    simp [quote, Text.ofString]
  rw [h, readValue, if_pos rfl, readString_escaped t (by omega)]

theorem readValue_word (word : String) {v : Json} {c : CodePoint} {r : Text}
    (h : readWord (lit word ++ rest) = .ok (v, rest)) (hw : lit word ++ rest = c :: r)
    (hc : c ≠ '"' ∧ c ≠ '[' ∧ c ≠ '\x7b' ∧ c.isDigit = false)
    (hm : (c = '-' && (r.head?.map CodePoint.isDigit).getD false) = false) (hf : 0 < fuel) :
    readValue fuel (lit word ++ rest) = .ok (v, rest) := by
  obtain ⟨k, rfl⟩ := Nat.exists_eq_succ_of_ne_zero hf.ne'
  rw [hw] at h ⊢
  rw [readValue, if_neg hc.1, if_neg hc.2.1, if_neg hc.2.2.1, if_neg (by simp [hc.2.2.2]), hm, h]
  rfl

theorem length_ofNat_le {n : ℕ} (h : digitCount n ≤ Text.maxIntegerDigits) :
    (Text.ofNat n).length ≤ Text.maxIntegerDigits := by
  rcases Nat.eq_zero_or_pos n with rfl | hn
  · decide
  · rwa [Text.length_ofNat hn]

theorem readValue_int {n : ℤ} (hn : digitCount n.natAbs ≤ Text.maxIntegerDigits)
    (hr : EndsNumber rest) (hf : 0 < fuel) :
    readValue fuel (Text.ofInt n ++ rest) = .ok (.int n, rest) := by
  have h := readsAs_ofNat (length_ofNat_le hn)
  unfold Text.ofInt
  split
  · next hneg =>
    rw [readValue_negative h hr hf, if_pos rfl, show -(n.natAbs : ℤ) = n by omega]
  · next hpos =>
    rw [readValue_number h hr hf, if_neg (by decide), show (n.natAbs : ℤ) = n by omega]

theorem floatText_finite (neg : Bool) {m e : ℕ} (h : Canonical m e) :
    floatText (.finite neg m e h) =
      (if neg then lit "-" else []) ++ magnitudeText (.finite neg m e h) :=
  toText_finite neg h

theorem readValue_float (x : Binary64) (hr : EndsNumber rest) (hf : 0 < fuel) :
    readValue fuel (floatText x ++ rest) = .ok (.float x, rest) := by
  cases x with
  | nan => exact readValue_word "NaN" rfl rfl (by decide) rfl hf
  | infinite neg =>
      cases neg with
      | false => exact readValue_word "Infinity" rfl rfl (by decide) rfl hf
      | true => exact readValue_word "-Infinity" rfl rfl (by decide) rfl hf
  | finite neg m e h =>
      obtain ⟨v, hv, hreads⟩ := readsAs_magnitudeText neg h
      rw [floatText_finite, List.append_assoc]
      cases neg with
      | false =>
          rw [if_neg (by decide), List.nil_append, readValue_number hreads hr hf, hv]
      | true =>
          rw [if_pos rfl]
          exact (readValue_negative hreads hr hf).trans (by rw [hv])

/-! ## Values -/

theorem endsNumber_gap {gap : Text} (hgap : ∀ c ∈ gap, c = ' ' ∨ c = '\n') {c : CodePoint}
    (hc : c = ',' ∨ c = ']' ∨ c = '\x7d') (rest : Text) : EndsNumber (gap ++ c :: rest) := by
  intro d s hd
  cases gap with
  | nil =>
      obtain ⟨rfl, -⟩ := List.cons.inj hd
      rcases hc with rfl | rfl | rfl <;> decide
  | cons b gap =>
      obtain ⟨rfl, -⟩ := List.cons.inj hd
      rcases hgap _ (List.mem_cons_self ..) with rfl | rfl <;> decide

theorem endsNumber_printItems (L : Layout) (depth : ℕ) (items : List Json) (rest : Text) :
    EndsNumber (L.printItems depth items ++ rest) := by
  cases items with
  | nil =>
      rw [Layout.printItems, List.append_assoc]
      exact endsNumber_gap (L.isBlank_closing depth) (.inr (.inl rfl)) rest
  | cons item items =>
      exact endsNumber_gap (List.forall_mem_nil _) (.inl rfl)
        (L.between depth ++ (L.print (depth + 1) item ++ L.printItems depth items) ++ rest)

theorem endsNumber_printMembers (L : Layout) (depth : ℕ) (members : List (Text × Json))
    (rest : Text) : EndsNumber (L.printMembers depth members ++ rest) := by
  cases members with
  | nil =>
      rw [Layout.printMembers, List.append_assoc]
      exact endsNumber_gap (L.isBlank_closing depth) (.inr (.inr rfl)) rest
  | cons member members =>
      exact endsNumber_gap (List.forall_mem_nil _) (.inl rfl) (L.between depth ++
        (quote member.1 ++ (lit ": " ++ (L.print (depth + 1) member.2 ++
          L.printMembers depth members))) ++ rest)

theorem Layout.print_int (n : ℤ) : L.print depth (.int n) = Text.ofInt n := rfl

theorem Layout.print_float (x : Binary64) : L.print depth (.float x) = floatText x := rfl

theorem Layout.print_str (t : Text) : L.print depth (.str t) = quote t := rfl

theorem solid_of_digit {t : Text} (h : ∃ c r, t = c :: r ∧ c.isDigit = true) :
    ∃ c r, t = c :: r ∧ isGap c = false ∧ c ≠ ']' := by
  obtain ⟨c, r, rfl, hc⟩ := h
  simp only [CodePoint.isDigit, CodePoint.between, Bool.and_eq_true, decide_eq_true_eq] at hc
  have h₁ : 48 ≤ c.toNat := hc.1
  have h₂ : c.toNat ≤ 57 := hc.2
  refine ⟨c, r, rfl, ?_, ?_⟩
  · simp [isGap]
    omega
  · rintro rfl
    exact absurd h₂ (by decide)

/-- A printed value starts with something that is neither a blank nor a closing bracket. -/
theorem Layout.print_head (L : Layout) (depth : ℕ) (v : Json) :
    ∃ c r, L.print depth v = c :: r ∧ isGap c = false ∧ c ≠ ']' := by
  cases v with
  | null => exact ⟨_, _, rfl, rfl, by decide⟩
  | bool b => cases b <;> exact ⟨_, _, rfl, rfl, by decide⟩
  | int n =>
      rw [Layout.print_int, Text.ofInt]
      split
      · exact ⟨_, _, rfl, rfl, by decide⟩
      · exact solid_of_digit (isWhole_ofNat n.natAbs).exists_cons
  | float x =>
      rw [Layout.print_float]
      cases x with
      | nan => exact ⟨_, _, rfl, rfl, by decide⟩
      | infinite neg => cases neg <;> exact ⟨_, _, rfl, rfl, by decide⟩
      | finite neg m e h =>
          obtain ⟨v, -, hreads⟩ := readsAs_magnitudeText neg h
          rw [floatText_finite]
          cases neg with
          | false => exact solid_of_digit hreads.head
          | true => exact ⟨_, _, rfl, rfl, by decide⟩
  | str t => exact ⟨_, _, rfl, rfl, by decide⟩
  | arr items => cases items <;> exact ⟨_, _, rfl, rfl, by decide⟩
  | obj members => cases members <;> exact ⟨_, _, rfl, rfl, by decide⟩

/-- The characters of a string take up space in what is printed. -/
theorem length_le_quote (t : Text) : t.length + 2 ≤ (quote t).length := by
  have one_le (c : CodePoint) : 1 ≤ (escapeChar c).length := by
    have h := escape_escapeChar c
    generalize escapeChar c = e at h
    cases h <;> simp [unitEscape, Text.ofString]
  have h : t.length ≤ (t.flatMap escapeChar).length := by
    induction t with
    | nil => exact Nat.le_refl _
    | cons c t ih =>
        have := one_le c
        rw [List.flatMap_cons, List.length_append, List.length_cons]
        omega
  have hquote : (lit "\"").length = 1 := rfl
  rw [quote, List.length_append, List.length_append, hquote]
  omega

theorem one_le_printItems (L : Layout) (depth : ℕ) (items : List Json) :
    1 ≤ (L.printItems depth items).length := by
  cases items <;> simp [Layout.printItems, Text.ofString]

theorem one_le_printMembers (L : Layout) (depth : ℕ) (members : List (Text × Json)) :
    1 ≤ (L.printMembers depth members).length := by
  cases members <;> simp [Layout.printMembers, Text.ofString]

-- The induction is on the fuel: a reader hands one less to the readers of what is inside, and what is
-- inside is shorter than what is around it, so that the fuel still exceeds its length.
mutual

theorem readValue_layout (L : Layout) (fuel depth : ℕ) {rest : Text} (v : Json)
    (hv : v.isPrintable = true) (hr : EndsNumber rest) (hf : (L.print depth v).length < fuel) :
    readValue fuel (L.print depth v ++ rest) = .ok (normal v, rest) := by
  match v with
  | .null => exact readValue_word "null" rfl rfl (by decide) rfl (by omega)
  | .bool true => exact readValue_word "true" rfl rfl (by decide) rfl (by omega)
  | .bool false => exact readValue_word "false" rfl rfl (by decide) rfl (by omega)
  | .int n => exact readValue_int (of_decide_eq_true hv) hr (by omega)
  | .float x => exact readValue_float x hr (by omega)
  | .str t =>
      rw [Layout.print_str] at hf ⊢
      have := length_le_quote t
      exact readValue_quote t (by omega)
  | .arr [] =>
      obtain ⟨k, rfl⟩ := Nat.exists_eq_add_of_lt hf
      rfl
  | .arr (item :: items) =>
      obtain ⟨k, rfl⟩ := Nat.exists_eq_add_of_lt hf
      rw [isPrintable, allPrintable, Bool.and_eq_true] at hv
      obtain ⟨c, r, hcr, hc, hb⟩ := L.print_head (depth + 1) item
      have htext : L.print depth (.arr (item :: items)) ++ rest =
          ('[' : CodePoint) :: (L.opening depth ++
            (L.print (depth + 1) item ++ L.printItems depth items ++ rest)) := by
        simp [Layout.print, Text.ofString]
      have hlength : (L.print (depth + 1) item ++ L.printItems depth items).length <
          (L.print depth (.arr (item :: items))).length + k := by
        simp [Layout.print, Text.ofString]
        omega
      have hitems := readItems_layout L rest item items hv.1 hv.2 hlength
      rw [htext, readValue, if_neg (by decide), if_pos rfl,
        skipGap_append (L.isBlank_opening depth)
          ⟨c, r ++ L.printItems depth items ++ rest, by simp [hcr], hc⟩]
      rw [hcr, List.cons_append, List.cons_append] at hitems ⊢
      dsimp only
      rw [if_neg hb, hitems]
      rfl
  | .obj [] =>
      obtain ⟨k, rfl⟩ := Nat.exists_eq_add_of_lt hf
      rfl
  | .obj ((name, value) :: members) =>
      obtain ⟨k, rfl⟩ := Nat.exists_eq_add_of_lt hf
      rw [isPrintable, membersPrintable, Bool.and_eq_true] at hv
      have htext : L.print depth (.obj ((name, value) :: members)) ++ rest =
          ('\x7b' : CodePoint) :: (L.opening depth ++ (quote name ++ (lit ": " ++
            (L.print (depth + 1) value ++ L.printMembers depth members)) ++ rest)) := by
        simp [Layout.print, Text.ofString]
      have hlength : (quote name ++ (lit ": " ++ (L.print (depth + 1) value ++
          L.printMembers depth members))).length <
          (L.print depth (.obj ((name, value) :: members))).length + k := by
        simp [Layout.print, Text.ofString]
        omega
      have hmembers := readMembers_layout L rest [] name value members hv.1 hv.2 hlength
      rw [htext, readValue, if_neg (by decide), if_neg (by decide), if_pos rfl,
        skipGap_quote (L.isBlank_opening depth)]
      obtain ⟨t, ht⟩ : ∃ t, quote name ++ (lit ": " ++ (L.print (depth + 1) value ++
          L.printMembers depth members)) ++ rest = ('"' : CodePoint) :: t := ⟨_, rfl⟩
      rw [ht] at hmembers ⊢
      dsimp only
      rw [if_neg (by decide), hmembers]
      rfl
termination_by fuel

theorem readItems_layout (L : Layout) {depth fuel : ℕ} (rest : Text) (item : Json)
    (items : List Json) (hi : item.isPrintable = true) (his : allPrintable items = true)
    (hf : (L.print (depth + 1) item ++ L.printItems depth items).length < fuel) :
    readItems fuel (L.print (depth + 1) item ++ L.printItems depth items ++ rest) =
      .ok (normal item :: normalItems items, rest) := by
  have hone := one_le_printItems L depth items
  rw [List.length_append] at hf
  obtain ⟨k, rfl⟩ : ∃ k, fuel = k + 1 := ⟨fuel - 1, by omega⟩
  have hvalue := readValue_layout L k (depth + 1) item hi
    (endsNumber_printItems L depth items rest) (by omega)
  rw [readItems, List.append_assoc, hvalue]
  dsimp only [bind, Except.bind]
  match items with
  | [] =>
      have htext : L.printItems depth [] ++ rest =
          L.closing depth ++ ((']' : CodePoint) :: rest) := by
        simp [Layout.printItems, Text.ofString]
      rw [htext, skipGap_append (L.isBlank_closing depth) ⟨_, _, rfl, rfl⟩]
      rfl
  | item' :: items =>
      rw [allPrintable, Bool.and_eq_true] at his
      obtain ⟨c, r, hcr, hc, -⟩ := L.print_head (depth + 1) item'
      have htext : L.printItems depth (item' :: items) ++ rest =
          (',' : CodePoint) :: (L.between depth ++
            (L.print (depth + 1) item' ++ L.printItems depth items ++ rest)) := by
        simp [Layout.printItems, Text.ofString]
      have hlength : (L.print (depth + 1) item' ++ L.printItems depth items).length < k := by
        simp [Layout.printItems, Text.ofString] at hf
        rw [List.length_append]
        omega
      have hitems := readItems_layout L rest item' items his.1 his.2 hlength
      rw [htext, skipGap_cons rfl]
      dsimp only
      rw [if_neg (by decide), if_pos rfl,
        skipGap_append (L.isBlank_between depth)
          ⟨c, r ++ L.printItems depth items ++ rest, by simp [hcr], hc⟩, hitems]
      rfl
termination_by fuel

theorem readMembers_layout (L : Layout) {depth fuel : ℕ} (rest : Text) (known : List (Text × Json))
    (name : Text) (value : Json) (members : List (Text × Json)) (hv : value.isPrintable = true)
    (hm : membersPrintable members = true)
    (hf : (quote name ++ (lit ": " ++ (L.print (depth + 1) value ++
      L.printMembers depth members))).length < fuel) :
    readMembers fuel known (quote name ++ (lit ": " ++ (L.print (depth + 1) value ++
      L.printMembers depth members)) ++ rest) =
      .ok (normalMembers known ((name, value) :: members), rest) := by
  have hone := one_le_printMembers L depth members
  have hquote := length_le_quote name
  simp only [List.length_append] at hf
  obtain ⟨k, rfl⟩ : ∃ k, fuel = k + 1 := ⟨fuel - 1, by omega⟩
  obtain ⟨c, r, hcr, hc, -⟩ := L.print_head (depth + 1) value
  have hname : quote name ++ (lit ": " ++ (L.print (depth + 1) value ++
      L.printMembers depth members)) ++ rest =
      ('"' : CodePoint) :: (name.flatMap escapeChar ++ ('"' : CodePoint) :: ((':' : CodePoint) ::
        (' ' : CodePoint) :: (L.print (depth + 1) value ++
          (L.printMembers depth members ++ rest)))) := by
    simp [quote, Text.ofString]
  have hvalue := readValue_layout L k (depth + 1) value hv
    (endsNumber_printMembers L depth members rest) (by omega)
  have hskip : skipGap ((' ' : CodePoint) :: (L.print (depth + 1) value ++
      (L.printMembers depth members ++ rest))) =
      L.print (depth + 1) value ++ (L.printMembers depth members ++ rest) := by
    rw [hcr]
    exact skipGap_cons hc
  rw [hname, readMembers]
  dsimp only
  rw [if_pos rfl, readString_escaped name (by omega)]
  dsimp only
  rw [skipGap_cons rfl]
  dsimp only
  rw [if_pos rfl, hskip, hvalue]
  dsimp only [bind, Except.bind]
  match members with
  | [] =>
      have htext : L.printMembers depth [] ++ rest =
          L.closing depth ++ (('\x7d' : CodePoint) :: rest) := by
        simp [Layout.printMembers, Text.ofString]
      rw [htext, skipGap_append (L.isBlank_closing depth) ⟨_, _, rfl, rfl⟩]
      rfl
  | (name', value') :: members =>
      rw [membersPrintable, Bool.and_eq_true] at hm
      have htext : L.printMembers depth ((name', value') :: members) ++ rest =
          (',' : CodePoint) :: (L.between depth ++ (quote name' ++ (lit ": " ++
            (L.print (depth + 1) value' ++ L.printMembers depth members)) ++ rest)) := by
        simp [Layout.printMembers, Text.ofString]
      have hlength : (quote name' ++ (lit ": " ++ (L.print (depth + 1) value' ++
          L.printMembers depth members))).length < k := by
        simp [Layout.printMembers, Text.ofString] at hf
        simp [Text.ofString]
        omega
      have hmembers := readMembers_layout L rest (put (Text.joinPairs name) (normal value) known)
        name' value' members hm.1 hm.2 hlength
      rw [htext, skipGap_cons rfl]
      dsimp only
      rw [if_neg (by decide), if_pos rfl, skipGap_quote (L.isBlank_between depth), hmembers]
      rfl
termination_by fuel

end

/-! ## Plain text -/

theorem holdsInNumbers_isPlain : HoldsInNumbers CodePoint.IsPlain where
  digit c hc := Text.isPlain_of_digits (t := [c]) (List.forall_mem_singleton.2 hc) c
    (List.mem_singleton_self c)
  sign := by decide

open Text in
theorem isPlain_floatText (x : Binary64) : IsPlain (floatText x) := by
  cases x with
  | nan => decide
  | infinite neg => cases neg <;> decide
  | finite neg m e h =>
      rw [floatText_finite]
      refine isPlain_append (by cases neg <;> decide) ?_
      unfold magnitudeText
      split
      · decide
      · exact holdsInNumbers_isPlain.render _ _

open Text in
theorem isPlain_quote (t : Text) : IsPlain (quote t) := by
  have hunit (u : ℕ) : IsPlain (unitEscape u) := isPlain_append (by decide) (isPlain_hexPadded 4 u)
  refine isPlain_append (isPlain_append (by decide) (isPlain_flatMap fun c _ => ?_)) (by decide)
  have h := escape_escapeChar c
  generalize escapeChar c = e at h
  cases h with
  | char h h' => exact isPlain_cons ⟨by omega, by omega⟩ isPlain_nil
  | letter e _ _ _ he =>
      exact isPlain_cons (by decide) (isPlain_cons ⟨by omega, by omega⟩ isPlain_nil)
  | unit => exact hunit _
  | pair => exact isPlain_append (hunit _) (hunit _)

theorem isPlain_gap {gap : Text} (hgap : ∀ c ∈ gap, c = ' ' ∨ c = '\n') : Text.IsPlain gap := by
  intro c hc
  rcases hgap c hc with rfl | rfl <;> decide

mutual

theorem isPlain_layout (L : Layout) (depth : ℕ) (v : Json) : Text.IsPlain (L.print depth v) := by
  match v with
  | .null | .arr [] | .obj [] | .bool true | .bool false =>
      simp only [Layout.print, scalarText]
      decide
  | .int n => exact Text.isPlain_ofInt n
  | .float x => exact isPlain_floatText x
  | .str t => exact isPlain_quote t
  | .arr (item :: items) =>
      rw [Layout.print]
      exact Text.isPlain_append
        (Text.isPlain_append (by decide) (isPlain_gap (L.isBlank_opening depth)))
        (Text.isPlain_append (isPlain_layout L _ item) (isPlain_printItems L depth items))
  | .obj ((name, value) :: members) =>
      rw [Layout.print]
      exact Text.isPlain_append
        (Text.isPlain_append (by decide) (isPlain_gap (L.isBlank_opening depth)))
        (Text.isPlain_append (isPlain_quote name) (Text.isPlain_append (by decide)
          (Text.isPlain_append (isPlain_layout L _ value) (isPlain_printMembers L depth members))))

theorem isPlain_printItems (L : Layout) (depth : ℕ) (items : List Json) :
    Text.IsPlain (L.printItems depth items) := by
  match items with
  | [] =>
      rw [Layout.printItems]
      exact Text.isPlain_append (isPlain_gap (L.isBlank_closing depth)) (by decide)
  | item :: items =>
      rw [Layout.printItems]
      exact Text.isPlain_append
        (Text.isPlain_append (by decide) (isPlain_gap (L.isBlank_between depth)))
        (Text.isPlain_append (isPlain_layout L _ item) (isPlain_printItems L depth items))

theorem isPlain_printMembers (L : Layout) (depth : ℕ) (members : List (Text × Json)) :
    Text.IsPlain (L.printMembers depth members) := by
  match members with
  | [] =>
      rw [Layout.printMembers]
      exact Text.isPlain_append (isPlain_gap (L.isBlank_closing depth)) (by decide)
  | (name, value) :: members =>
      rw [Layout.printMembers]
      exact Text.isPlain_append
        (Text.isPlain_append (by decide) (isPlain_gap (L.isBlank_between depth)))
        (Text.isPlain_append (isPlain_quote name) (Text.isPlain_append (by decide)
          (Text.isPlain_append (isPlain_layout L _ value) (isPlain_printMembers L depth members))))

end

theorem isPlain_prettyAt (depth : ℕ) (v : Json) : Text.IsPlain (prettyAt depth v) :=
  prettyAt_eq depth v ▸ isPlain_layout .lines depth v

/-! ## The whole text -/

/-- In either layout a value reads back in normal form. -/
theorem parse_layout (L : Layout) {v : Json} (hv : v.isPrintable = true) :
    parse (L.print 0 v) = .ok v.normal := by
  obtain ⟨c, r, hcr, hc, -⟩ := L.print_head 0 v
  have hmark : (L.print 0 v).head? ≠ some (CodePoint.ofNat 0xFEFF) := by
    intro h
    have hplain := (isPlain_layout L 0 v _ (List.mem_of_head? h)).1
    exact absurd hplain (by decide)
  have hskip : skipGap (L.print 0 v) = L.print 0 v := by
    rw [hcr]
    exact skipGap_cons hc
  have hends : EndsNumber [] := fun c r h => absurd h (by simp)
  have hvalue := readValue_layout L (2 * (L.print 0 v).length + 2) 0 v hv hends (by omega)
  rw [List.append_nil] at hvalue
  rw [parse, if_neg hmark, hskip, hvalue]
  rfl

/-- What is printed over lines reads back in normal form. -/
theorem parse_pretty {v : Json} (hv : v.isPrintable = true) : parse v.pretty = .ok v.normal := by
  rw [pretty, prettyAt_eq]
  exact parse_layout .lines hv

/-- What is printed on one line reads back in normal form. -/
theorem parse_print {v : Json} (hv : v.isPrintable = true) : parse v.print = .ok v.normal := by
  rw [print_eq 0]
  exact parse_layout .line hv

/-! ## Where objects begin and end -/

theorem getLast?_printMembers (members : List (Text × Json)) :
    (printMembers members).getLast? = some '}' := by
  induction members with
  | nil => rfl
  | cons member members ih =>
      have hne : printMembers members ≠ [] := by
        intro hnil
        rw [hnil] at ih
        cases ih
      rw [printMembers, ← ih]
      simp only [← List.append_assoc]
      exact List.getLast?_append_of_ne_nil _ hne

theorem getLast?_print_obj (members : List (Text × Json)) :
    (print (.obj members)).getLast? = some '}' := by
  cases members with
  | nil => rfl
  | cons member members =>
      have hlast := getLast?_printMembers members
      have hne : printMembers members ≠ [] := by
        intro hnil
        rw [hnil] at hlast
        cases hlast
      rw [print, ← hlast]
      simp only [← List.append_assoc]
      exact List.getLast?_append_of_ne_nil _ hne

theorem readNumber_ne_obj {neg : Bool} {t rest : Text} {members : List (Text × Json)} :
    readNumber neg t ≠ .ok (.obj members, rest) := by
  unfold readNumber
  dsimp only
  split_ifs <;> nofun

theorem readWord_ne_obj {t rest : Text} {members : List (Text × Json)} :
    readWord t ≠ .ok (.obj members, rest) := by
  intro h
  unfold readWord at h
  dsimp only at h
  split at h
  · next found hfound =>
    obtain ⟨⟨word, v⟩, hword, hv⟩ := List.exists_of_findSome?_eq_some hfound
    obtain ⟨r, -, rfl⟩ := Option.map_eq_some_iff.1 hv
    obtain rfl : v = .obj members := (Prod.mk.inj (Except.ok.inj h)).1
    simp at hword
  · cases h

theorem readValue_eq_obj {fuel : ℕ} {t rest : Text} {members : List (Text × Json)}
    (h : readValue fuel t = .ok (.obj members, rest)) : t.head? = some '{' := by
  cases fuel with
  | zero => cases h
  | succ fuel =>
      cases t with
      | nil => cases h
      | cons c t =>
          unfold readValue at h
          dsimp only at h
          by_cases hquote : c = '"'
          · rw [if_pos hquote] at h
            split at h <;> cases h
          rw [if_neg hquote] at h
          by_cases hlist : c = '['
          · rw [if_pos hlist] at h
            split at h
            · split at h
              · cases h
              · obtain ⟨x, -, hx⟩ := Except.bind_eq_ok_iff.1 h
                cases hx
            · cases h
          rw [if_neg hlist] at h
          by_cases hobj : c = '{'
          · rw [hobj]
            rfl
          rw [if_neg hobj] at h
          split_ifs at h
          · exact absurd h readNumber_ne_obj
          · exact absurd h readNumber_ne_obj
          · exact absurd h readWord_ne_obj

/-- A text that is read as an object begins with a brace. -/
theorem parse_eq_obj {t : Text} {members : List (Text × Json)} (h : parse t = .ok (.obj members)) :
    (skipGap t).head? = some '{' := by
  unfold parse at h
  split at h
  · cases h
  · obtain ⟨⟨v, rest⟩, hv, h⟩ := Except.bind_eq_ok_iff.1 h
    dsimp only at h
    split at h
    · obtain rfl := Except.ok.inj h
      exact readValue_eq_obj hv
    · cases h

end HelpCenter.Json

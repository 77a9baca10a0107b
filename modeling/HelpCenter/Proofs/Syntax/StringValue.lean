import HelpCenter.Proofs.Except
import HelpCenter.Proofs.Number.Hexadecimal
import HelpCenter.Proofs.Syntax.Walk
import HelpCenter.Proofs.Text.Utf16
import HelpCenter.Source.Unit
import HelpCenter.Syntax.StringValue

/-!
# What a string of a source stands for

Between its quotes a string is a row of pieces: characters that stand for themselves and escape
sequences.  Its value has the units of what the pieces stand for, one after the other, and no pair
of surrogates is left in it (`units_value_of_pieces`).  There is one exception: where a line is
continued behind a carriage return and the next line begins with one of the two separators, both are
taken for one line end, and the separator is lost (`Piece.hides`).
-/

namespace HelpCenter.Syntax

/-! ## Pieces -/

/-- The two separators of Unicode, which end a line and yet may stand in a string. -/
def separators : Text := [0x2028, 0x2029].map CodePoint.ofNat

/-- What ends a line. -/
def lineEnds : Text := lit "\n\r" ++ separators

/-- What means something else behind a backslash: octal digits and some letters. -/
def signs : Text := lit "01234567bfnrtvux"

/-- A control character that has a letter of its own. -/
inductive Control where
  | null
  | backspace
  | tab
  | lineFeed
  | verticalTab
  | formFeed
  | carriageReturn

/-- The letter of a control character. -/
def Control.letter : Control → CodePoint
  | .null => '0'
  | .backspace => 'b'
  | .tab => 't'
  | .lineFeed => 'n'
  | .verticalTab => 'v'
  | .formFeed => 'f'
  | .carriageReturn => 'r'

/-- The character itself. -/
def Control.char : Control → CodePoint
  | .null => CodePoint.ofNat 0
  | .backspace => CodePoint.ofNat 8
  | .tab => CodePoint.ofNat 9
  | .lineFeed => CodePoint.ofNat 10
  | .verticalTab => CodePoint.ofNat 11
  | .formFeed => CodePoint.ofNat 12
  | .carriageReturn => CodePoint.ofNat 13

/-- How the number of a code point is written. -/
inductive NumberForm where
  /-- Two digits behind an `x`. -/
  | byte
  /-- Four digits behind a `u`. -/
  | unit
  /-- Digits in braces behind a `u`. -/
  | braced

/-- Digits in their form. -/
def NumberForm.around (digits : Text) : NumberForm → Text
  | .byte => ('x' : CodePoint) :: digits
  | .unit => ('u' : CodePoint) :: digits
  | .braced => ('u' : CodePoint) :: ('\x7b' : CodePoint) :: (digits ++ [('\x7d' : CodePoint)])

/-- How many digits a form has: two, four, or any number of them. -/
def NumberForm.Admits (digits : Text) : NumberForm → Prop
  | .byte => digits.length = 2
  | .unit => digits.length = 4
  | .braced => True

/-- The digits that a form takes: two, four, or some that denote a code point. -/
def NumberForm.Takes (digits : Text) : NumberForm → Prop
  | .byte => digits.length = 2
  | .unit => digits.length = 4
  | .braced => digits ≠ [] ∧ digits.numberOfHex ≤ 0x10FFFF

instance (digits : Text) : (form : NumberForm) → Decidable (form.Takes digits)
  | .byte => inferInstanceAs (Decidable (digits.length = 2))
  | .unit => inferInstanceAs (Decidable (digits.length = 4))
  | .braced => inferInstanceAs (Decidable (digits ≠ [] ∧ digits.numberOfHex ≤ 0x10FFFF))

/-- A line end. -/
inductive LineEnd where
  | lineFeed
  | carriageReturn
  | both
  | separator (c : CodePoint) (h : c ∈ separators)

/-- The text of a line end. -/
def LineEnd.text : LineEnd → Text
  | .lineFeed => lit "\n"
  | .carriageReturn => lit "\r"
  | .both => lit "\r\n"
  | .separator c _ => [c]

/-- An escape sequence. -/
inductive EscapeSequence where
  /-- A control character by its letter. -/
  | control (k : Control)
  /-- A code point by its number. -/
  | numeric (form : NumberForm) (digits : Text) (hdigits : ∀ c ∈ digits, c.isHexDigit = true)
    (h : form.Takes digits)
  /-- A line end that is passed over. -/
  | continued (line : LineEnd)
  /-- A character that stands for itself with a backslash as well. -/
  | itself (c : CodePoint) (h : c ∉ signs ++ lineEnds)

namespace EscapeSequence

/-- What stands behind the backslash. -/
def body : EscapeSequence → Text
  | control k => [k.letter]
  | numeric form digits _ _ => form.around digits
  | continued line => line.text
  | itself c _ => [c]

/-- What an escape sequence stands for. -/
def value : EscapeSequence → Text
  | control k => [k.char]
  | numeric _ digits _ _ => [CodePoint.ofNat digits.numberOfHex]
  | continued _ => []
  | itself c _ => [c]

end EscapeSequence

/-- A piece of what stands between the quotes of a string. -/
inductive Piece where
  /-- A character that stands for itself. -/
  | raw (c : CodePoint) (h : c ∉ lit "\\\n\r")
  | escape (s : EscapeSequence)

namespace Piece

/-- The text of a piece. -/
def text : Piece → Text
  | raw c _ => [c]
  | escape s => ('\\' : CodePoint) :: s.body

/-- What a piece stands for. -/
def value : Piece → Text
  | raw c _ => [c]
  | escape s => s.value

/-- A piece can stand in front of another one unless the two are a null and a digit. -/
def allows : Piece → Piece → Bool
  | escape (.control .null), raw c _ => !c.isDigit
  | _, _ => true

/-- A carriage return that continues a line hides a separator behind it. -/
def hides : Piece → Piece → Bool
  | escape (.continued .carriageReturn), raw c _ => separators.contains c
  | _, _ => false

/-- The pieces that are not hidden by the one in front of them. -/
def seen : List Piece → List Piece
  | [] => []
  | [p] => [p]
  | p :: q :: rest => if p.hides q then p :: seen rest else p :: seen (q :: rest)

end Piece

/-! ## Escape sequences -/

variable {c : CodePoint} {t behind : Text}

theorem mem_separators_iff : c ∈ separators ↔ c.toNat = 0x2028 ∨ c.toNat = 0x2029 := by
  have heq {n : ℕ} (hn : n < 0x110000) : c = CodePoint.ofNat n ↔ c.toNat = n :=
    ⟨fun h => h ▸ CodePoint.toNat_ofNat hn,
      fun h => CodePoint.ext (h.trans (CodePoint.toNat_ofNat hn).symm)⟩
  simp [separators, heq]

theorem endsLine_iff : Escape.endsLine c = true ↔ c ∈ lineEnds := by
  have hlit : c ∈ lit "\n\r" ↔ c = '\n' ∨ c = '\r' := by
    show c ∈ [CodePoint.ofChar '\n', CodePoint.ofChar '\r'] ↔ _
    simp
  simp only [lineEnds, List.mem_append, hlit, mem_separators_iff, Escape.endsLine,
    Bool.or_eq_true, decide_eq_true_eq, beq_iff_eq]
  tauto

theorem mem_of_simple?_eq_some {d : CodePoint} (h : Escape.simple? c = some d) :
    c ∈ lit "0bfnrtv" := by
  have hletter {x : Char} (hx : c.toChar = x) (hx' : x ≠ '\uFFFD') : c = CodePoint.ofChar x := by
    have hc : c.isSurrogate = false := by
      rw [← Bool.not_eq_true]
      intro hc
      exact hx' (by rw [← hx, CodePoint.toChar, if_pos hc])
    rw [← hx, CodePoint.ofChar_toChar hc]
  unfold Escape.simple? at h
  split at h
  all_goals first
    | next hx => rw [hletter hx (by decide)]; decide
    | cases h

theorem decodeNumeric_eq {letter : CodePoint} {digits : Text}
    (htrim : Text.trimBy (fun c => c = '\x7b' || c = '\x7d') t = digits)
    (hne : digits ≠ []) (hdigits : ∀ c ∈ digits, c.isHexDigit = true)
    (hlt : digits.numberOfHex < 0x110000) :
    Escape.decodeNumeric (letter :: t) = .ok [CodePoint.ofNat digits.numberOfHex] := by
  have haddressable : Escape.isAddressable digits.numberOfHex = true := by
    simp only [Escape.isAddressable, Bool.and_eq_true, decide_eq_true_eq]
    omega
  rw [Escape.decodeNumeric, List.drop_one, List.tail_cons, htrim,
    Text.readIntegerIn?_sixteen hne hdigits]
  simp only [haddressable]
  simp [CodePoint.ofNat, CodePoint.ofNat?, hlt]

theorem NumberForm.Takes.admits {form : NumberForm} {digits : Text} (h : form.Takes digits) :
    form.Admits digits := by
  cases form with
  | byte | unit => exact h
  | braced => trivial

/-- The digits of a form denote a code point. -/
theorem NumberForm.Takes.numberOfHex_lt {form : NumberForm} {digits : Text}
    (h : form.Takes digits) : digits.numberOfHex < 0x110000 := by
  have hlt := digits.numberOfHex_lt
  cases form with
  | byte => exact (h ▸ hlt).trans (by norm_num)
  | unit => exact (h ▸ hlt).trans (by norm_num)
  | braced => exact Nat.lt_succ_of_le h.2

theorem decode_numeric (t : Text) {letter : CodePoint} (h : letter = 'x' ∨ letter = 'u') :
    Escape.decode (('\\' : CodePoint) :: letter :: t) = Escape.decodeNumeric (letter :: t) := by
  rcases h with rfl | rfl <;> rfl

theorem decode_around {form : NumberForm} {digits : Text}
    (hdigits : ∀ c ∈ digits, c.isHexDigit = true) (h : form.Takes digits) :
    Escape.decode (('\\' : CodePoint) :: form.around digits) =
      .ok [CodePoint.ofNat digits.numberOfHex] := by
  have hbrace : ∀ c ∈ digits, (c = '\x7b' || c = '\x7d') = false := by
    have hall : ∀ d ∈ hexDigits, (d = '\x7b' || d = '\x7d') = false := by decide
    exact fun c hc => hall c (CodePoint.isHexDigit_iff_mem.1 (hdigits c hc))
  have hlt := h.numberOfHex_lt
  cases form with
  | byte | unit =>
      have hne : digits ≠ [] := List.ne_nil_of_length_eq_add_one h
      rw [NumberForm.around, decode_numeric _ (by decide)]
      exact decodeNumeric_eq (Text.trimBy_of_forall hbrace) hne hdigits hlt
  | braced =>
      rw [NumberForm.around, decode_numeric _ (by decide)]
      refine decodeNumeric_eq ?_ h.1 hdigits hlt
      exact Text.trimBy_between h.1 hbrace (by decide) (by decide)

theorem decode_body (s : EscapeSequence) :
    Escape.decode (('\\' : CodePoint) :: s.body) = .ok s.value := by
  cases s with
  | control k => cases k <;> rfl
  | numeric form digits hdigits h => exact decode_around hdigits h
  | continued line =>
      cases line with
      | lineFeed | carriageReturn | both => rfl
      | separator c h =>
          have hend : Escape.endsLine c = true := endsLine_iff.2 (List.mem_append_right _ h)
          show Escape.decode [('\\' : CodePoint), c] = .ok []
          rw [Escape.decode, List.drop_one, List.tail_cons]
          dsimp only
          rw [if_pos hend]
  | itself c h =>
      rw [List.mem_append, not_or] at h
      have hend : ¬ Escape.endsLine c = true := fun hend => h.2 (endsLine_iff.1 hend)
      have hletter : ¬ (c = 'x' || c = 'u') = true := by
        simp only [Bool.or_eq_true, decide_eq_true_eq]
        rintro (rfl | rfl) <;> exact h.1 (by decide)
      have hsimple : Escape.simple? c = none := by
        have hall : ∀ d ∈ lit "0bfnrtv", d ∈ signs := by decide
        exact Option.eq_none_iff_forall_ne_some.2 fun d hd =>
          h.1 (hall c (mem_of_simple?_eq_some hd))
      show Escape.decode [('\\' : CodePoint), c] = .ok [c]
      rw [Escape.decode, List.drop_one, List.tail_cons]
      dsimp only
      rw [if_neg hend, if_neg hletter, hsimple]

/-! ## Where an escape sequence ends -/

/-- What is taken as part of a line end behind a carriage return, and behind a question mark. -/
def joining : Text := lit "\n" ++ separators

theorem any_head?_iff : behind.head?.any
    (fun d => d.is '\n' || d.toNat == 0x2028 || d.toNat == 0x2029) = true ↔
      ∃ d ∈ joining, behind.head? = some d := by
  have hmem {d : CodePoint} : (d.is '\n' || d.toNat == 0x2028 || d.toNat == 0x2029) = true ↔
      d ∈ joining := by
    simp [joining, mem_separators_iff, CodePoint.is, or_assoc, Text.ofString]
  simp only [Option.any_eq_true, hmem]
  tauto

/-- A character goes on with an escape sequence if it makes a longer one of it. -/
def EscapeSequence.GoesOn (c : CodePoint) : EscapeSequence → Prop
  | .control .null => isOctal c = true
  | .continued .carriageReturn => c ∈ joining
  | .itself d _ => d = '?' ∧ c ∈ joining
  | _ => False

theorem escapeLength_single (hoctal : isOctal c = false) (hx : c ≠ 'x') (hu : c ≠ 'u')
    (h : c = '\r' ∨ c = '?' → ∀ d ∈ joining, behind.head? ≠ some d) :
    escapeLength (c :: behind) = 1 := by
  have hjoin : ¬ ((c.is '\r' || c.is '?') && behind.head?.any
      (fun d => d.is '\n' || d.toNat == 0x2028 || d.toNat == 0x2029)) = true := by
    rw [Bool.and_eq_true, any_head?_iff]
    rintro ⟨hc, d, hd, hhead⟩
    exact h (by simpa [CodePoint.is] using hc) d hd hhead
  rw [escapeLength, if_neg (by simp [hoctal]), if_neg (by simpa [CodePoint.is] using hx),
    if_neg (by simpa [CodePoint.is] using hu), if_neg hjoin]

theorem escapeLength_around {form : NumberForm} {digits : Text}
    (hdigits : ∀ c ∈ digits, c.isHexDigit = true) (h : form.Admits digits) :
    escapeLength (form.around digits ++ behind) = (form.around digits).length := by
  cases form with
  | byte => exact (congrArg Nat.succ h).symm
  | unit =>
      obtain ⟨c, s, rfl⟩ := List.exists_cons_of_ne_nil (List.ne_nil_of_length_eq_add_one h)
      have hall : ∀ d ∈ hexDigits, d.is '\x7b' = false := by decide
      have hc := hall c (CodePoint.isHexDigit_iff_mem.1 (hdigits c (List.mem_cons_self ..)))
      show (if c.is '\x7b' then _ else 5) = _
      rw [hc, if_neg (by decide)]
      exact (congrArg Nat.succ h).symm
  | braced =>
      have htake : (digits ++ ('\x7d' : CodePoint) :: behind).takeWhile CodePoint.isHexDigit =
          digits := by
        rw [List.takeWhile_append_of_pos hdigits, List.takeWhile_cons_of_neg (by decide),
          List.append_nil]
      have hshape : NumberForm.around digits .braced ++ behind = ('u' : CodePoint) ::
          ('\x7b' : CodePoint) :: (digits ++ ('\x7d' : CodePoint) :: behind) := by
        simp [NumberForm.around]
      rw [hshape]
      show 3 + (List.takeWhile _ (digits ++ ('\x7d' : CodePoint) :: behind)).length = _
      rw [htake, NumberForm.around, List.length_cons, List.length_cons, List.length_append,
        List.length_singleton]
      omega

theorem mem_of_isOctal (h : isOctal c = true) : c ∈ signs := by
  have hlt : c.toNat < 56 := by
    rw [isOctal, CodePoint.between, Bool.and_eq_true, decide_eq_true_eq, decide_eq_true_eq] at h
    exact Nat.lt_succ_of_le h.2
  have hall : ∀ n < 56, isOctal (CodePoint.ofNat n) = true →
      CodePoint.ofNat n ∈ signs := by decide
  rw [← CodePoint.ofNat_toNat c] at h ⊢
  exact hall _ hlt h

theorem escapeLength_body {s : EscapeSequence}
    (h : ∀ c, behind.head? = some c → ¬ s.GoesOn c) :
    escapeLength (s.body ++ behind) = s.body.length := by
  cases s with
  | control k =>
      cases k with
      | null =>
          have htake : (behind.take 2).takeWhile isOctal = [] := by
            cases behind with
            | nil => rfl
            | cons c behind => exact List.takeWhile_cons_of_neg (h c rfl)
          show 1 + ((behind.take 2).takeWhile isOctal).length = 1
          rw [htake, List.length_nil]
      | _ => rfl
  | numeric form digits hdigits h' => exact escapeLength_around hdigits h'.admits
  | continued line =>
      cases line with
      | lineFeed | both => rfl
      | carriageReturn =>
          exact escapeLength_single rfl (by decide) (by decide) fun _ d hd hhead => h d hhead hd
      | separator c hc =>
          have hplain : ∀ d ∈ separators, isOctal d = false ∧ d ≠ 'x' ∧ d ≠ 'u' ∧
              ¬ (d = '\r' ∨ d = '?') := by decide
          obtain ⟨hoctal, hx, hu, hjoin⟩ := hplain c hc
          exact escapeLength_single hoctal hx hu fun hc => absurd hc hjoin
  | itself c hc =>
      rw [List.mem_append, not_or] at hc
      have hoctal : isOctal c = false := by
        rw [← Bool.not_eq_true]
        exact fun hoctal => hc.1 (mem_of_isOctal hoctal)
      have hx : c ≠ 'x' := fun hx => hc.1 (hx ▸ by decide)
      have hu : c ≠ 'u' := fun hu => hc.1 (hu ▸ by decide)
      refine escapeLength_single hoctal hx hu ?_
      rintro (rfl | rfl) d hd hhead
      · exact hc.2 (by decide)
      · exact h d hhead ⟨rfl, hd⟩

/-! ## Rows of pieces -/

theorem decodeContent_raw {t v : Text} (h : c ≠ '\\') :
    decodeContent (c :: t) = .ok v ↔ ∃ u, decodeContent t = .ok u ∧ v = c :: u := by
  rw [decodeContent, if_neg (by simpa [CodePoint.is] using h)]
  refine Except.bind_eq_ok_iff.trans ?_
  simp only [pure, Except.pure, Except.ok.injEq, eq_comm]

theorem decodeContent_escape (body : Text) {d v : Text}
    (hlength : escapeLength (body ++ behind) = body.length)
    (hd : Escape.decode (('\\' : CodePoint) :: body) = .ok d)
    (hv : decodeContent behind = .ok v) :
    decodeContent (('\\' : CodePoint) :: (body ++ behind)) = .ok (d ++ v) := by
  rw [decodeContent, if_pos (by decide)]
  dsimp only
  rw [hlength, List.take_left, List.drop_left, hd, Except.ok_bind, hv]
  rfl

/-- A separator that is taken as part of the escape sequence of a question mark stays. -/
theorem decodeContent_questionMark {v : Text} (hc : c ∈ separators)
    (hv : decodeContent (c :: behind) = .ok v) :
    decodeContent (('\\' : CodePoint) :: ('?' : CodePoint) :: c :: behind) = .ok ('?' :: v) := by
  have hplain : ∀ d ∈ separators, d ≠ '\\' ∧
      escapeLength (('?' : CodePoint) :: d :: behind) = 2 ∧
      Escape.decode [('\\' : CodePoint), ('?' : CodePoint), d] = .ok [('?' : CodePoint), d] :=
    List.forall_mem_cons.2
      ⟨⟨by decide, rfl, rfl⟩, List.forall_mem_singleton.2 ⟨by decide, rfl, rfl⟩⟩
  obtain ⟨hne, hlength, hdecode⟩ := hplain c hc
  obtain ⟨u, hu, rfl⟩ := (decodeContent_raw hne).1 hv
  exact decodeContent_escape [('?' : CodePoint), c] hlength hdecode hu

/-- A separator behind a carriage return is passed over with it. -/
theorem decodeContent_hidden {v : Text} (hc : c ∈ separators)
    (hv : decodeContent behind = .ok v) :
    decodeContent (('\\' : CodePoint) :: ('\r' : CodePoint) :: c :: behind) = .ok v := by
  have hplain : ∀ d ∈ separators, escapeLength (('\r' : CodePoint) :: d :: behind) = 2 :=
    List.forall_mem_cons.2 ⟨rfl, List.forall_mem_singleton.2 rfl⟩
  exact decodeContent_escape [('\r' : CodePoint), c] (hplain c hc) rfl hv

namespace Piece

variable {p q : Piece} {s : EscapeSequence}

theorem not_goesOn_backslash (s : EscapeSequence) : ¬ s.GoesOn '\\' := by
  unfold EscapeSequence.GoesOn
  split
  · decide
  · decide
  · exact fun h => absurd h.2 (by decide)
  · exact id

/-- A character goes on with the escape sequence in front of it only if it is hidden, or a separator
behind a question mark. -/
theorem not_goesOn_raw {h : c ∉ lit "\\\n\r"} (hallows : (escape s).allows (raw c h) = true)
    (hhides : ¬ (escape s).hides (raw c h) = true)
    (hmark : ∀ h', s = .itself '?' h' → c ∉ separators) : ¬ s.GoesOn c := by
  have hjoining (hmem : c ∈ joining) : c ∈ separators := by
    rcases List.mem_append.1 hmem with hmem | hmem
    · obtain rfl := List.mem_singleton.1 hmem
      exact absurd (by decide) h
    · exact hmem
  unfold EscapeSequence.GoesOn
  split
  · intro hoctal
    have hdigit : c.isDigit = true := by
      simp only [isOctal, CodePoint.isDigit, CodePoint.between, Bool.and_eq_true,
        decide_eq_true_eq] at hoctal ⊢
      exact ⟨hoctal.1, hoctal.2.trans (by decide)⟩
    simp [allows, hdigit] at hallows
  · exact fun hmem => hhides (List.contains_iff_mem.2 (hjoining hmem))
  · rintro ⟨rfl, hmem⟩
    exact hmark _ rfl (hjoining hmem)
  · exact id

theorem decodeContent_text_append {v : Text}
    (hstops : ∀ s, p = escape s → ∀ c, behind.head? = some c → ¬ s.GoesOn c)
    (hv : decodeContent behind = .ok v) :
    decodeContent (p.text ++ behind) = .ok (p.value ++ v) := by
  cases p with
  | raw c h =>
      have hne : c ≠ '\\' := fun hc => h (hc ▸ by decide)
      exact (decodeContent_raw hne).2 ⟨v, hv, rfl⟩
  | escape s => exact decodeContent_escape _ (escapeLength_body (hstops s rfl)) (decode_body s) hv

/-- What follows a piece is read as if it stood alone, unless it is hidden. -/
theorem decodeContent_step {v : Text} (hallows : p.allows q = true) (hhides : ¬ p.hides q = true)
    (hv : decodeContent (q.text ++ behind) = .ok v) :
    decodeContent (p.text ++ (q.text ++ behind)) = .ok (p.value ++ v) := by
  by_cases hmark : ∃ h c h', p = escape (.itself '?' h) ∧ q = raw c h' ∧ c ∈ separators
  · obtain ⟨h, c, h', rfl, rfl, hc⟩ := hmark
    exact decodeContent_questionMark hc hv
  · refine decodeContent_text_append ?_ hv
    rintro s rfl c hc
    cases q with
    | escape s' =>
        obtain rfl := Option.some.inj hc
        exact not_goesOn_backslash s
    | raw d h =>
        obtain rfl := Option.some.inj hc
        refine not_goesOn_raw hallows hhides ?_
        rintro h' rfl hd
        exact hmark ⟨h', d, h, rfl, rfl, hd⟩

theorem exists_of_hides (h : p.hides q = true) :
    ∃ c h, p = escape (.continued .carriageReturn) ∧ q = raw c h ∧ c ∈ separators := by
  unfold hides at h
  split at h
  · next c hc => exact ⟨c, hc, rfl, rfl, List.contains_iff_mem.1 h⟩
  · cases h

/-- A row of pieces is read piece by piece, without what is hidden. -/
theorem decodeContent_text {pieces : List Piece} (h : pieces.IsChain fun p q => p.allows q) :
    decodeContent (pieces.flatMap text) = .ok ((seen pieces).flatMap value) := by
  have hnil : decodeContent [] = .ok [] := by rw [decodeContent]
  fun_induction seen pieces with
  | case1 => exact hnil
  | case2 p =>
      rw [List.flatMap_singleton, List.flatMap_singleton]
      simpa using decodeContent_text_append (p := p) (by simp) hnil
  | case3 p q rest hhides ih =>
      obtain ⟨-, hrest⟩ := List.isChain_cons_cons.1 h
      obtain ⟨c, _, rfl, rfl, hc⟩ := exists_of_hides hhides
      exact decodeContent_hidden hc (ih hrest.of_cons)
  | case4 p q rest hhides ih =>
      obtain ⟨hallows, hrest⟩ := List.isChain_cons_cons.1 h
      have hv := ih hrest
      rw [List.flatMap_cons] at hv
      rw [List.flatMap_cons, List.flatMap_cons, List.flatMap_cons]
      exact decodeContent_step hallows hhides hv

/-- The units of what pieces stand for, one after the other. -/
def units (pieces : List Piece) : List ℕ := Text.units (pieces.flatMap value)

theorem units_cons (p : Piece) (pieces : List Piece) :
    units (p :: pieces) = Text.units p.value ++ units pieces := by
  rw [units, List.flatMap_cons, Text.units_append, units]

theorem length_units_seen_le (pieces : List Piece) :
    (units (seen pieces)).length ≤ (units pieces).length := by
  fun_induction seen pieces with
  | case1 | case2 p => exact Nat.le_refl _
  | case3 p q rest hhides ih =>
      simp only [units_cons, List.length_append]
      omega
  | case4 p q rest hhides ih =>
      rw [units_cons, units_cons p, List.length_append, List.length_append]
      omega

/-- Nothing is lost just if nothing is hidden. -/
theorem units_seen_eq_iff {pieces : List Piece} :
    units (seen pieces) = units pieces ↔ pieces.IsChain fun p q => ¬ p.hides q = true := by
  fun_induction seen pieces with
  | case1 => simp
  | case2 p => simp
  | case3 p q rest hhides ih =>
      obtain ⟨c, _, rfl, rfl, hc⟩ := exists_of_hides hhides
      refine iff_of_false (fun heq => ?_) fun h => (List.isChain_cons_cons.1 h).1 hhides
      have hle := length_units_seen_le rest
      have hpos := List.length_pos_iff.2 c.units_ne_nil
      have hlength := congrArg List.length heq
      simp only [units_cons, List.length_append, value, Text.units_cons] at hlength
      omega
  | case4 p q rest hhides ih =>
      rw [units_cons, units_cons p, List.append_cancel_left_eq, ih, List.isChain_cons_cons]
      exact ⟨fun h => ⟨hhides, h⟩, fun h => h.2⟩

end Piece

/-! ## The value -/

namespace Node

variable {n : Node} {quote : CodePoint} {pieces : List Piece}

theorem literal?_eq (hkind : n.kind = .string)
    (htext : n.text = quote :: (pieces.flatMap Piece.text ++ [quote]))
    (hallows : pieces.IsChain fun p q => p.allows q) :
    n.literal? = .ok (some (Text.joinPairs ((Piece.seen pieces).flatMap Piece.value))) := by
  have hquoted : n.quoted = pieces.flatMap Piece.text := by
    rw [quoted, htext, List.drop_one, List.tail_cons, List.dropLast_concat]
  have hvalue : stringValue n.quoted =
      .ok (Text.joinPairs ((Piece.seen pieces).flatMap Piece.value)) := by
    rw [hquoted, stringValue, Piece.decodeContent_text hallows]
    rfl
  simp only [literal?, hkind, hvalue, Except.ok_bind]
  rfl

/-- The value of a string has the units of what its pieces stand for and no pair of surrogates,
provided that no separator is hidden behind a carriage return; a hidden one is lost. -/
theorem units_value_of_pieces (hkind : n.kind = .string)
    (htext : n.text = quote :: (pieces.flatMap Piece.text ++ [quote]))
    (hallows : pieces.IsChain fun p q => p.allows q) :
    ∃ v, n.literal? = .ok (some v) ∧ v.IsChain Text.NoPair ∧
      v.units = Piece.units (Piece.seen pieces) ∧
      (v.units = Piece.units pieces ↔ pieces.IsChain fun p q => ¬ p.hides q = true) := by
  have hunits : (Text.joinPairs ((Piece.seen pieces).flatMap Piece.value)).units =
      Piece.units (Piece.seen pieces) := Text.units_joinPairs _
  refine ⟨_, literal?_eq hkind htext hallows, Text.isChain_joinPairs _, hunits, ?_⟩
  rw [hunits, Piece.units_seen_eq_iff]

/-- A name of pieces of all kinds. -/
def mixedPieces : List Piece := [
  .raw 'A' (by decide), .escape (.control .lineFeed), .escape (.control .null),
  .escape (.numeric .byte (lit "41") (by decide) rfl),
  .escape (.numeric .unit (lit "D83D") (by decide) rfl),
  .escape (.numeric .unit (lit "de00") (by decide) rfl),
  .escape (.numeric .braced (lit "01F600") (by decide) (by decide +kernel)),
  .escape (.numeric .unit (lit "D83D") (by decide) rfl),
  .escape (.continued .lineFeed), .escape (.itself '?' (by decide)),
  .raw (CodePoint.ofNat 0x2028) (by decide)]

/-- A source that imports a module of this name. -/
def mixedSource : Text :=
  lit "import \"A\\n\\0\\x41\\uD83D\\ude00\\u\x7b01F600\x7d\\uD83D\\\n\\?\u2028\";"

theorem exists_string_of_find {tree : Node} {t : Text}
    (h : (tree.find [.string]).map text = [t]) :
    ∃ n ∈ tree.find [.string], n.kind = .string ∧ n.text = t := by
  obtain ⟨n, hfind, htext⟩ := List.map_eq_singleton_iff.1 h
  have hn : n ∈ tree.find [.string] := hfind ▸ List.mem_singleton_self n
  exact ⟨n, hn, kind_of_mem_find hn, htext⟩

theorem find_mixedSource : ((Program.ofText .tsx mixedSource).tree.find [.string]).map text =
    [('"' : CodePoint) :: (mixedPieces.flatMap Piece.text ++ [('"' : CodePoint)])] := by
  decide +kernel

theorem units_value_of_mixedPieces : ∃ n ∈ (Program.ofText .tsx mixedSource).tree.find [.string],
    n.kind = .string ∧
    n.text = ('"' : CodePoint) :: (mixedPieces.flatMap Piece.text ++ [('"' : CodePoint)]) ∧
    (mixedPieces.IsChain fun p q => p.allows q) ∧
    ∃ v, n.literal? = .ok (some v) ∧ v.IsChain Text.NoPair ∧
      v.units = [0x41, 0xA, 0, 0x41, 0xD83D, 0xDE00, 0xD83D, 0xDE00, 0xD83D, 0x3F, 0x2028] := by
  obtain ⟨n, hn, hkind, htext⟩ := exists_string_of_find find_mixedSource
  have hallows : mixedPieces.IsChain fun p q => p.allows q := by decide
  obtain ⟨v, hv, hpair, hunits, -⟩ := units_value_of_pieces hkind htext hallows
  refine ⟨n, hn, hkind, htext, hallows, v, hv, hpair, hunits.trans ?_⟩
  decide +kernel

/-- A separator behind a line end that is passed over. -/
def hidingPieces : List Piece := [
  .raw 'a' (by decide), .escape (.continued .carriageReturn),
  .raw (CodePoint.ofNat 0x2028) (by decide), .raw 'b' (by decide)]

/-- A source that imports a module of this name. -/
def hidingSource : Text := lit "import \"a\\\r\u2028b\";\n"

theorem find_hidingSource :
    ((Program.ofText .typescript hidingSource).tree.find [.string]).map text =
    [('"' : CodePoint) :: (hidingPieces.flatMap Piece.text ++ [('"' : CodePoint)])] := by
  decide +kernel

/-- The separator is lost, although the line ends with the carriage return before it. -/
theorem not_units_value_of_hidingPieces :
    SourceUnit.ofText (lit "src/a.ts") hidingSource none =
      .ok ⟨lit "src/a.ts", hidingSource, .ofText .typescript hidingSource⟩ ∧
    ∃ n ∈ (Program.ofText .typescript hidingSource).tree.find [.string],
      n.text = ('"' : CodePoint) :: (hidingPieces.flatMap Piece.text ++ [('"' : CodePoint)]) ∧
      (hidingPieces.IsChain fun p q => p.allows q) ∧
      n.literal? = .ok (some (lit "ab")) ∧
      Text.units (lit "ab") ≠ Piece.units hidingPieces := by
  obtain ⟨n, hn, hkind, htext⟩ := exists_string_of_find find_hidingSource
  have hallows : hidingPieces.IsChain fun p q => p.allows q := by decide
  refine ⟨if_pos (by decide +kernel), n, hn, htext, hallows, ?_, by decide⟩
  exact literal?_eq hkind htext hallows

end Node

end HelpCenter.Syntax

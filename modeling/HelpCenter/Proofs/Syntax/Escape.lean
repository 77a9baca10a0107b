import HelpCenter.Proofs.Syntax.StringValue
import Mathlib.Data.List.TakeWhile

/-!
# Escape sequences that the grammars accept

Not every escape sequence that a grammar accepts is one of the language: a number in braces need not
be that of a code point, and there are octal digits.  Such a sequence stands for itself without the
backslash (`StandsFor`), and each one is decoded to what it stands for, unless it is a number in
braces beyond the range of signed words (`decode_eq_ok_iff`).  On such a number decoding fails, and
with it the reading of every string that it stands in (`Node.Spells.literal?`).
-/

namespace HelpCenter.Syntax

variable {body other rest digits v : Text} {bodies : List Text} {c : CodePoint}

/-! ## What is accepted, and what it stands for -/

/-- What is accepted behind a backslash. -/
inductive Accepted : Text → Prop
  | single (c : CodePoint) (h : c ≠ 'x' ∧ c ≠ 'u' ∧ isOctal c = false) : Accepted [c]
  | octal (digits : Text) (hdigits : ∀ c ∈ digits, isOctal c = true) (hne : digits ≠ [])
      (hlength : digits.length ≤ 3) : Accepted digits
  | numeric (form : NumberForm) (digits : Text) (hdigits : ∀ c ∈ digits, c.isHexDigit = true)
      (h : form.Admits digits) : Accepted (form.around digits)
  /-- A line end behind a carriage return, or behind a question mark. -/
  | pair (mark c : CodePoint) (hmark : mark = '\r' ∨ mark = '?') (hc : c ∈ joining) :
      Accepted [mark, c]

/-- A number in braces that is too large to be asked for as that of a code point. -/
def IsHuge (body : Text) : Prop :=
  ∃ digits : Text, (∀ c ∈ digits, c.isHexDigit = true) ∧
    body = NumberForm.around digits .braced ∧ 0x80000000 ≤ digits.numberOfHex

/-- What stands behind a backslash, and the text that the sequence stands for. -/
inductive StandsFor : Text → Text → Prop
  | known (s : EscapeSequence) : StandsFor s.body s.value
  /-- A number that no code point has. -/
  | nameless (digits : Text) (hdigits : ∀ c ∈ digits, c.isHexDigit = true)
      (h : digits = [] ∨ 0x10FFFF < digits.numberOfHex) :
      StandsFor (NumberForm.around digits .braced) (NumberForm.around digits .braced)
  | octal (digits : Text) (hdigits : ∀ c ∈ digits, isOctal c = true) (hne : digits ≠ [])
      (h : digits ≠ lit "0") : StandsFor digits digits
  | questionMark (c : CodePoint) (hc : c ∈ joining) : StandsFor ['?', c] ['?', c]
  | carriageReturn (c : CodePoint) (hc : c ∈ separators) : StandsFor ['\r', c] []

theorem exists_standsFor_single (hoctal : isOctal c = false) (hx : c ≠ 'x') (hu : c ≠ 'u') :
    ∃ v, StandsFor [c] v := by
  by_cases hline : c ∈ lineEnds
  · rcases List.mem_append.1 hline with hline | hline
    · have hcases : c = '\n' ∨ c = '\r' := by simpa [Text.ofString] using hline
      rcases hcases with rfl | rfl
      · exact ⟨_, .known (.continued .lineFeed)⟩
      · exact ⟨_, .known (.continued .carriageReturn)⟩
    · exact ⟨_, .known (.continued (.separator c hline))⟩
  by_cases hsign : c ∈ signs
  · have hcontrol : ∀ d ∈ signs, isOctal d = false → d ≠ 'x' → d ≠ 'u' →
        d = 'b' ∨ d = 'f' ∨ d = 'n' ∨ d = 'r' ∨ d = 't' ∨ d = 'v' := by decide
    rcases hcontrol c hsign hoctal hx hu with rfl | rfl | rfl | rfl | rfl | rfl
    · exact ⟨_, .known (.control .backspace)⟩
    · exact ⟨_, .known (.control .formFeed)⟩
    · exact ⟨_, .known (.control .lineFeed)⟩
    · exact ⟨_, .known (.control .carriageReturn)⟩
    · exact ⟨_, .known (.control .tab)⟩
    · exact ⟨_, .known (.control .verticalTab)⟩
  · exact ⟨_, .known (.itself c (by rw [List.mem_append, not_or]; exact ⟨hsign, hline⟩))⟩

/-- Whatever is accepted stands for a text. -/
theorem Accepted.exists_standsFor (h : Accepted body) : ∃ v, StandsFor body v := by
  cases h with
  | single c h => exact exists_standsFor_single h.2.2 h.1 h.2.1
  | octal _ hdigits hne _ =>
      by_cases hnull : body = lit "0"
      · subst hnull
        exact ⟨_, .known (.control .null)⟩
      · exact ⟨_, .octal body hdigits hne hnull⟩
  | numeric form digits hdigits h =>
      cases form with
      | byte => exact ⟨_, .known (.numeric .byte digits hdigits h)⟩
      | unit => exact ⟨_, .known (.numeric .unit digits hdigits h)⟩
      | braced =>
          by_cases hname : digits = [] ∨ 0x10FFFF < digits.numberOfHex
          · exact ⟨_, .nameless digits hdigits hname⟩
          · rw [not_or, Nat.not_lt] at hname
            exact ⟨_, .known (.numeric .braced digits hdigits hname)⟩
  | pair mark c hmark hc =>
      rcases hmark with rfl | rfl
      · rcases List.mem_append.1 hc with hc | hc
        · obtain rfl := List.mem_singleton.1 hc
          exact ⟨_, .known (.continued .both)⟩
        · exact ⟨_, .carriageReturn c hc⟩
      · exact ⟨_, .questionMark c hc⟩

/-! ## What is decoded -/

/-- The digits are read without the braces, whatever they are. -/
theorem decode_braced (hdigits : ∀ c ∈ digits, c.isHexDigit = true) (hne : digits ≠ []) :
    Escape.decode (('\\' : CodePoint) :: NumberForm.around digits .braced) =
      if 0x80000000 ≤ digits.numberOfHex then .error (.data .outOfRange)
      else if 0x10FFFF < digits.numberOfHex then .ok (NumberForm.around digits .braced)
      else .ok [CodePoint.ofNat digits.numberOfHex] := by
  have hbrace : ∀ c ∈ digits, (c = '\x7b' || c = '\x7d') = false := by
    have hall : ∀ d ∈ hexDigits, (d = '\x7b' || d = '\x7d') = false := by decide
    exact fun c hc => hall c (CodePoint.isHexDigit_iff_mem.1 (hdigits c hc))
  have htrim : Text.trimBy (fun c => c = '\x7b' || c = '\x7d')
      (('\x7b' : CodePoint) :: (digits ++ [('\x7d' : CodePoint)])) = digits :=
    Text.trimBy_between hne hbrace (by decide) (by decide)
  have haddressable : Escape.isAddressable digits.numberOfHex =
      !decide (0x80000000 ≤ digits.numberOfHex) := by
    rw [Escape.isAddressable, Bool.eq_iff_iff]
    simp only [Bool.and_eq_true, decide_eq_true_eq, Bool.not_eq_true', decide_eq_false_iff_not]
    omega
  rw [NumberForm.around, decode_numeric _ (by decide), Escape.decodeNumeric, List.drop_one,
    List.tail_cons, htrim, Text.readIntegerIn?_sixteen hne hdigits]
  dsimp only
  rw [haddressable, Bool.not_not]
  simp only [decide_eq_true_eq]
  by_cases hname : 0x10FFFF < digits.numberOfHex
  · have hnone : CodePoint.ofNat? digits.numberOfHex = none := dif_neg (by omega)
    rw [if_pos hname]
    show (if _ then _ else Except.ok ((CodePoint.ofNat? digits.numberOfHex).elim _ _)) = _
    rw [hnone]
    rfl
  · have hsome : CodePoint.ofNat? digits.numberOfHex =
        some (CodePoint.ofNat digits.numberOfHex) := by
      simp [CodePoint.ofNat, CodePoint.ofNat?, show digits.numberOfHex < 0x110000 by omega]
    rw [if_neg hname]
    show (if _ then _ else Except.ok ((CodePoint.ofNat? digits.numberOfHex).elim _ _)) = _
    rw [hsome]
    rfl

theorem decode_huge (h : IsHuge body) :
    Escape.decode (('\\' : CodePoint) :: body) = .error (.data .outOfRange) := by
  obtain ⟨digits, hdigits, rfl, hle⟩ := h
  have hne : digits ≠ [] := by
    rintro rfl
    exact absurd hle (by decide)
  rw [decode_braced hdigits hne, if_pos hle]

theorem decode_octal (hdigits : ∀ c ∈ digits, isOctal c = true) (hne : digits ≠ [])
    (h : digits ≠ lit "0") : Escape.decode (('\\' : CodePoint) :: digits) = .ok digits := by
  obtain ⟨c, s, rfl⟩ := List.exists_cons_of_ne_nil hne
  have hsigns : ∀ d ∈ signs, isOctal d = true → Escape.endsLine d = false ∧
      (d = 'x' || d = 'u') = false ∧ (d = '0' ∨ Escape.simple? d = none) := by decide
  have hc := hdigits c (List.mem_cons_self ..)
  obtain ⟨hend, hletter, hsimple⟩ := hsigns c (mem_of_isOctal hc) hc
  rw [Escape.decode, List.drop_one, List.tail_cons]
  dsimp only
  rw [hend, hletter, if_neg (by decide), if_neg (by decide)]
  rcases hsimple with rfl | hsimple
  · cases s with
    | nil => exact absurd rfl h
    | cons d s => rfl
  · rw [hsimple]

theorem StandsFor.decode_eq (h : StandsFor body v) (hsmall : ¬ IsHuge body) :
    Escape.decode (('\\' : CodePoint) :: body) = .ok v := by
  cases h with
  | known s => exact decode_body s
  | nameless digits hdigits h =>
      by_cases hne : digits = []
      · subst hne
        rfl
      · have hlt : ¬ 0x80000000 ≤ digits.numberOfHex :=
          fun hle => hsmall ⟨digits, hdigits, rfl, hle⟩
        rw [decode_braced hdigits hne, if_neg hlt, if_pos (h.resolve_left hne)]
  | octal _ hdigits hne h => exact decode_octal hdigits hne h
  | questionMark c hc => rfl
  | carriageReturn c hc => rfl

/-- Whatever is accepted is decoded to what it stands for, but for a number that is too large. -/
theorem decode_eq_ok_iff (h : Accepted body) :
    Escape.decode (('\\' : CodePoint) :: body) = .ok v ↔ StandsFor body v ∧ ¬ IsHuge body := by
  obtain ⟨u, hu⟩ := h.exists_standsFor
  constructor
  · intro hv
    have hsmall : ¬ IsHuge body := by
      intro hhuge
      rw [decode_huge hhuge] at hv
      cases hv
    rw [hu.decode_eq hsmall] at hv
    exact ⟨Except.ok.inj hv ▸ hu, hsmall⟩
  · rintro ⟨hv, hsmall⟩
    exact hv.decode_eq hsmall

/-! ## Strings -/

/-- What stands behind each backslash between the quotes of a string.  An escape sequence is as long
as it can be. -/
inductive Spells : Text → List Text → Prop
  | nil : Spells [] []
  | raw (c : CodePoint) (h : c ∉ lit "\\\n\r") {rest : Text} {bodies : List Text}
      (hrest : Spells rest bodies) : Spells (c :: rest) bodies
  | escape {body rest : Text} {bodies : List Text} (hbody : Accepted body)
      (hlongest : ∀ other, Accepted other → other <+: body ++ rest → other.length ≤ body.length)
      (hrest : Spells rest bodies) : Spells ('\\' :: (body ++ rest)) (body :: bodies)

theorem length_le_escapeLength_octal (hdigits : ∀ c ∈ digits, isOctal c = true)
    (hne : digits ≠ []) (hlength : digits.length ≤ 3) :
    digits.length ≤ escapeLength (digits ++ rest) := by
  obtain ⟨c, s, rfl⟩ := List.exists_cons_of_ne_nil hne
  obtain ⟨hc, hs⟩ := List.forall_mem_cons.1 hdigits
  have htake : (s ++ rest).take 2 = s ++ rest.take (2 - s.length) := by
    rw [List.take_append, List.take_of_length_le (Nat.le_of_succ_le_succ hlength)]
  rw [List.cons_append, escapeLength, if_pos hc, htake, List.takeWhile_append_of_pos hs,
    List.length_cons, List.length_append]
  omega

theorem escapeLength_pair {mark : CodePoint} (hmark : mark = '\r' ∨ mark = '?')
    (hc : c ∈ joining) : escapeLength ([mark, c] ++ rest) = 2 := by
  have hhead : ([c] ++ rest).head?.any
      (fun d => d.is '\n' || d.toNat == 0x2028 || d.toNat == 0x2029) = true :=
    any_head?_iff.2 ⟨c, hc, rfl⟩
  rcases hmark with rfl | rfl <;>
  · show (if _ && ([c] ++ rest).head?.any _ then 2 else 1) = 2
    rw [hhead]
    rfl

/-- No accepted escape sequence is longer than what is taken as one. -/
theorem Accepted.length_le (h : Accepted body) : body.length ≤ escapeLength (body ++ rest) := by
  cases h with
  | single c h =>
      show 1 ≤ escapeLength (c :: rest)
      rw [escapeLength]
      split_ifs <;> omega
  | octal _ hdigits hne hlength => exact length_le_escapeLength_octal hdigits hne hlength
  | numeric form digits hdigits h => exact (escapeLength_around hdigits h).ge
  | pair mark c hmark hc => exact (escapeLength_pair hmark hc).ge

theorem escapeLength_octal (hdigits : ∀ c ∈ digits, isOctal c = true) (hne : digits ≠ [])
    (hlongest : ∀ other, Accepted other → other <+: digits ++ rest →
      other.length ≤ digits.length) :
    escapeLength (digits ++ rest) ≤ digits.length := by
  obtain ⟨c, s, rfl⟩ := List.exists_cons_of_ne_nil hne
  have hc := hdigits c (List.mem_cons_self ..)
  have hrun := List.takeWhile_prefix (l := (s ++ rest).take 2) isOctal
  have hshort : (((s ++ rest).take 2).takeWhile isOctal).length ≤ 2 :=
    hrun.length_le.trans (List.length_take_le ..)
  have haccepted : Accepted (c :: ((s ++ rest).take 2).takeWhile isOctal) := by
    have hall : ∀ d ∈ ((s ++ rest).take 2).takeWhile isOctal, isOctal d = true :=
      fun d hd => List.mem_takeWhile_imp hd
    exact .octal _ (List.forall_mem_cons.2 ⟨hc, hall⟩) (List.cons_ne_nil _ _)
      (Nat.succ_le_succ hshort)
  have hle := hlongest _ haccepted
    (List.cons_prefix_cons.2 ⟨rfl, hrun.trans (List.take_prefix ..)⟩)
  rw [List.length_cons] at hle
  rw [List.cons_append, escapeLength, if_pos hc]
  omega

/-- As much is taken as an escape sequence as belongs to the longest one. -/
theorem escapeLength_accepted (h : Accepted body)
    (hlongest : ∀ other, Accepted other → other <+: body ++ rest →
      other.length ≤ body.length) : escapeLength (body ++ rest) = body.length := by
  refine Nat.le_antisymm ?_ h.length_le
  cases h with
  | single c h =>
      refine (escapeLength_single h.2.2 h.1 h.2.1 fun hmark d hd hhead => ?_).le
      obtain ⟨behind, rfl⟩ := List.head?_eq_some_iff.1 hhead
      have hle := hlongest _ (.pair c d hmark hd) ⟨behind, rfl⟩
      exact absurd hle (Nat.not_succ_le_self 1)
  | octal _ hdigits hne _ => exact escapeLength_octal hdigits hne hlongest
  | numeric form digits hdigits h => exact (escapeLength_around hdigits h).le
  | pair mark c hmark hc => exact (escapeLength_pair hmark hc).le

theorem decodeContent_accepted (hbody : Accepted body)
    (hlongest : ∀ other, Accepted other → other <+: body ++ rest →
      other.length ≤ body.length) :
    decodeContent (('\\' : CodePoint) :: (body ++ rest)) = do
      return (← Escape.decode (('\\' : CodePoint) :: body)) ++ (← decodeContent rest) := by
  rw [decodeContent, if_pos (by decide)]
  dsimp only
  rw [escapeLength_accepted hbody hlongest, List.take_left, List.drop_left]

/-- A string has a value just if no number in it is too large, and otherwise it is reported that a
number is out of range. -/
theorem Spells.decodeContent (h : Spells rest bodies) :
    ((∃ v, decodeContent rest = .ok v) ↔ ∀ body ∈ bodies, ¬ IsHuge body) ∧
      (decodeContent rest).Faults (· = .data .outOfRange) := by
  induction h with
  | nil =>
      rw [Syntax.decodeContent]
      exact ⟨by simp, Except.faults_ok _⟩
  | raw c h hrest ih =>
      have hc : c ≠ '\\' := fun hc => h (hc ▸ by decide)
      constructor
      · simp only [decodeContent_raw hc, ← ih.1]
        constructor
        · rintro ⟨_, u, hu, -⟩
          exact ⟨u, hu⟩
        · rintro ⟨u, hu⟩
          exact ⟨_, u, hu, rfl⟩
      · rw [Syntax.decodeContent, if_neg (by simpa [CodePoint.is] using hc)]
        exact ih.2.bind fun _ _ => Except.faults_ok _
  | @escape body rest bodies hbody hlongest hrest ih =>
      rw [decodeContent_accepted hbody hlongest, List.forall_mem_cons, ← ih.1]
      constructor
      · constructor
        · rintro ⟨v, hv⟩
          obtain ⟨d, hd, hv⟩ := Except.bind_eq_ok_iff.1 hv
          obtain ⟨u, hu, -⟩ := Except.bind_eq_ok_iff.1 hv
          exact ⟨((decode_eq_ok_iff hbody).1 hd).2, u, hu⟩
        · rintro ⟨hsmall, u, hu⟩
          obtain ⟨d, hd⟩ := hbody.exists_standsFor
          exact ⟨d ++ u, by rw [hd.decode_eq hsmall, hu]; rfl⟩
      · refine Except.Faults.bind ?_ fun _ _ => ih.2.bind fun _ _ => Except.faults_ok _
        intro e he
        by_cases hhuge : IsHuge body
        · rw [decode_huge hhuge] at he
          exact (Except.error.inj he).symm
        · obtain ⟨d, hd⟩ := hbody.exists_standsFor
          rw [hd.decode_eq hhuge] at he
          cases he

/-- What is taken as an escape sequence is the longest one, if it is accepted. -/
theorem Spells.cons_escape (hbody : Accepted body)
    (hlength : escapeLength (body ++ rest) = body.length) (hrest : Spells rest bodies) :
    Spells ('\\' :: (body ++ rest)) (body :: bodies) := by
  refine .escape hbody (fun other hother hprefix => ?_) hrest
  obtain ⟨behind, hbehind⟩ := hprefix
  rw [← hlength, ← hbehind]
  exact hother.length_le

namespace Node

variable {n : Node}

/-- A string between its quotes, and what stands behind each backslash in it. -/
def Spells (n : Node) (bodies : List Text) : Prop :=
  ∃ quote content, n.text = quote :: (content ++ [quote]) ∧ Syntax.Spells content bodies

theorem Spells.stringValue (h : n.Spells bodies) :
    ((∃ v, stringValue n.quoted = .ok v) ↔ ∀ body ∈ bodies, ¬ IsHuge body) ∧
      (stringValue n.quoted).Faults (· = .data .outOfRange) := by
  obtain ⟨quote, content, htext, hcontent⟩ := h
  have hquoted : n.quoted = content := by
    rw [quoted, htext, List.drop_one, List.tail_cons, List.dropLast_concat]
  obtain ⟨hiff, hfaults⟩ := hcontent.decodeContent
  rw [hquoted, Syntax.stringValue]
  refine ⟨?_, hfaults.map _⟩
  rw [← hiff]
  cases decodeContent content with
  | error e => exact iff_of_false (by rintro ⟨_, ⟨⟩⟩) (by rintro ⟨_, ⟨⟩⟩)
  | ok v => exact iff_of_true ⟨_, rfl⟩ ⟨_, rfl⟩

theorem Spells.literal? (h : n.Spells bodies) (hkind : n.kind = .string) :
    ((∃ v, n.literal? = .ok (some v)) ↔ ∀ body ∈ bodies, ¬ IsHuge body) ∧
      n.literal?.Faults (· = .data .outOfRange) := by
  obtain ⟨hiff, hfaults⟩ := h.stringValue
  have heq : n.literal? = do return some (← Syntax.stringValue n.quoted) := by
    simp only [Node.literal?, hkind]
  rw [heq, ← hiff]
  refine ⟨?_, hfaults.bind fun _ _ => Except.faults_ok _⟩
  constructor
  · rintro ⟨v, hv⟩
    obtain ⟨u, hu, -⟩ := Except.bind_eq_ok_iff.1 hv
    exact ⟨u, hu⟩
  · rintro ⟨v, hv⟩
    exact ⟨v, by rw [hv]; rfl⟩

end Node

end HelpCenter.Syntax

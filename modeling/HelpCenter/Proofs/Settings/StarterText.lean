import HelpCenter.Proofs.Yaml.Block
import HelpCenter.Proofs.Yaml.Quotes
import HelpCenter.Proofs.Yaml.Token
import HelpCenter.Settings.Starter
import Mathlib

/-!
# The document of a starter configuration

The name of the product stands between double quotes in a starter configuration, as it is.  Up to
there the text is read as far as the name's value (`readAll_beforeName`), and behind it as the other
entries (`readAll_behindName`).  A name of one line is read back if each of its characters stands for
itself between quotes (`parse_of_faithful`), and else another name is read or none
(`parse_starterText`).
-/

namespace HelpCenter

open Yaml Cursor

namespace Settings

variable {name s t : Text} {fuel : ℕ}

/-! ## The text -/

/-- A starter configuration up to the quotes around the product's name. -/
def heading : Text := lit "# Kodex configuration\n\nname: "

/-- A starter configuration behind the quotes around the product's name. -/
def closing : Text := (starterText []).drop 31

theorem starterText_eq (name : Text) :
    starterText name = heading ++ ('"' : CodePoint) :: (name ++ ('"' : CodePoint) :: closing) := by
  have hheading : lit "# Kodex configuration\n\nname: \"" = heading ++ [('"' : CodePoint)] := by
    decide +kernel
  have hrest : starterText [] =
      (heading ++ [('"' : CodePoint)]) ++ ('"' : CodePoint) :: closing := by
    decide +kernel
  unfold starterText at hrest ⊢
  rw [hheading] at hrest ⊢
  simp only [List.append_assoc, List.nil_append, List.append_cancel_left_eq] at hrest ⊢
  rw [hrest]
  rfl

theorem exists_closing : ∃ rest, closing = ('\n' : CodePoint) :: rest :=
  ⟨closing.tail, by decide +kernel⟩

theorem length_closing : 400 ≤ closing.length := by decide +kernel

/-! ## The tokens -/

/-- The entries of a starter configuration behind the product's name. -/
def starterEntries : List (Text × Block) :=
  let scan : ScanSettings := {}
  let docs : DocsSettings := {}
  let model : ModelSettings := {}
  [(lit "version", .scalar false (lit "1.0.0")),
    (lit "scan", .mapping [
      (lit "include", .sequence (scan.includes.map (.scalar false))),
      (lit "exclude", .sequence
        ((scan.excludes ++ [lit "**/__tests__/**", lit "**/__mocks__/**"]).map (.scalar false))),
      (lit "framework", .scalar true scan.framework)]),
    (lit "docs", .mapping [
      (lit "outputDir", .scalar false docs.outputDir),
      (lit "format", .scalar true docs.format),
      (lit "topics", .sequence (docs.topics.map (.scalar true)))]),
    (lit "llm", .mapping [
      (lit "provider", .scalar true model.provider),
      (lit "model", .scalar true (model.model.getD []))]),
    (lit "dashboard", .mapping [(lit "port", .scalar true (lit "3333"))])]

/-- What a starter configuration lays out for a name. -/
def starterBlock (name : Text) : Block :=
  .mapping ((lit "name", .scalar false name) :: starterEntries)

/-- The state in front of the quotes around the product's name. -/
def beforeName (rest : Text) : TokenReader where
  cursor := ⟨(' ' : CodePoint) :: ('"' : CodePoint) :: rest, 28, 2, 5⟩
  tokens := #[.blockMappingStart, .key, .scalar true (lit "name"), .value]
  flowLevel := 0
  indent := 0
  outerIndents := [-1]
  allowKey := false
  pending := []

/-- The state behind the quotes around the product's name. -/
def behindName (name : Text) (c : Cursor) : TokenReader where
  cursor := c
  tokens := #[.blockMappingStart, .key, .scalar true (lit "name"), .value, .scalar false name]
  flowLevel := 0
  indent := 0
  outerIndents := [-1]
  allowKey := false
  pending := []

/-- The first key of a starter configuration. -/
theorem readAll_heading (rest : Text) :
    TokenReader.readAll (fuel + 2) (.start (heading ++ ('"' : CodePoint) :: rest)) =
      TokenReader.readAll fuel (beforeName rest) := by
  -- in front of the key, and behind it
  let r₁ : TokenReader :=
    ⟨⟨lit "name: " ++ ('"' : CodePoint) :: rest, 23, 2, 0⟩, #[], 0, -1, [], true, []⟩
  let r₂ : TokenReader :=
    ⟨⟨lit ": " ++ ('"' : CodePoint) :: rest, 27, 2, 4⟩, #[.scalar true (lit "name")], 0, -1, [],
      false, [⟨0, 0, false, 23, 2, 0⟩]⟩
  have hskip (n : ℕ) : TokenReader.skipToToken (n + 3)
      (.start (heading ++ ('"' : CodePoint) :: rest)) = r₁ := by
    cbv
  have hlength : (TokenReader.start (heading ++ ('"' : CodePoint) :: rest)).cursor.rest.length + 1 =
      rest.length + 28 + 3 := by
    show (heading ++ ('"' : CodePoint) :: rest).length + 1 = _
    rw [List.length_append, List.length_cons, show heading.length = 29 by decide +kernel]
    omega
  have hkey : r₁.readAt 'n' (lit "ame: " ++ ('"' : CodePoint) :: rest) = .ok r₂ := by
    have hplain : r₁.readAt 'n' (lit "ame: " ++ ('"' : CodePoint) :: rest) =
        r₁.readPlainScalar := by
      have hstarts : TokenReader.startsPlain r₁.inBlock 'n'
          (lit "ame: " ++ ('"' : CodePoint) :: rest) = true := rfl
      unfold TokenReader.readAt
      rw [hstarts]
      simp [CodePoint.is, r₁]
      rfl
    rw [hplain]
    cbv
  have hcolon : r₂.readAt ':' (lit " " ++ ('"' : CodePoint) :: rest) = .ok (beforeName rest) := by
    cbv
  have hstay : TokenReader.skipToToken (r₂.cursor.rest.length + 1) r₂ = r₂ := rfl
  have hfirst : r₁.cursor.rest =
      ('n' : CodePoint) :: (lit "ame: " ++ ('"' : CodePoint) :: rest) := rfl
  have hsecond : r₂.cursor.rest =
      (':' : CodePoint) :: (lit " " ++ ('"' : CodePoint) :: rest) := rfl
  rw [TokenReader.readAll_step (by rw [hlength, hskip]) rfl rfl hfirst, hkey]
  dsimp only
  rw [TokenReader.readAll_step hstay rfl rfl hsecond, hcolon]

/-- The state at the opening quotes around the product's name. -/
def atName (rest : Text) : TokenReader :=
  { beforeName rest with cursor := ⟨('"' : CodePoint) :: rest, 29, 2, 6⟩ }

theorem readAt_atName (rest : Text) :
    (atName rest).readAt '"' rest = (atName rest).readContent fun c => do
      let (t, c) ← readQuoted '"' c
      return (.scalar false t, c) := by
  unfold TokenReader.readAt
  simp [CodePoint.is, atName, beforeName]
  rfl

theorem readContent_atName (rest : Text) :
    (atName rest).readContent (fun c => do
      let (t, c) ← readQuoted '"' c
      return (.scalar false t, c)) =
        readQuoted '"' ⟨('"' : CodePoint) :: rest, 29, 2, 6⟩ >>= fun p =>
          .ok (behindName p.1 p.2) := by
  unfold TokenReader.readContent
  have hcursor : (atName rest).cursor = ⟨('"' : CodePoint) :: rest, 29, 2, 6⟩ := rfl
  rw [show (atName rest).notePending = .ok (atName rest) from rfl, Except.ok_bind, hcursor]
  dsimp only
  cases readQuoted '"' (⟨('"' : CodePoint) :: rest, 29, 2, 6⟩ : Cursor) <;> rfl

theorem readAll_beforeName (rest : Text) :
    TokenReader.readAll (fuel + 1) (beforeName rest) =
      match readQuoted '"' ⟨('"' : CodePoint) :: rest, 29, 2, 6⟩ with
      | .error fault => (#[.blockMappingStart, .key, .scalar true (lit "name"), .value], some fault)
      | .ok (name, c) => TokenReader.readAll fuel (behindName name c) := by
  have hskip : TokenReader.skipToToken ((beforeName rest).cursor.rest.length + 1) (beforeName rest) =
      atName rest := rfl
  have hrest : (atName rest).cursor.rest = ('"' : CodePoint) :: rest := rfl
  rw [TokenReader.readAll_step hskip rfl rfl hrest, readAt_atName, readContent_atName]
  cases readQuoted '"' (⟨('"' : CodePoint) :: rest, 29, 2, 6⟩ : Cursor) <;> rfl

theorem readAll_closing :
    TokenReader.readAll 300 ⟨⟨closing.tail, 0, 3, 0⟩, #[], 0, 0, [-1], true, []⟩ =
      ((Block.entryTokens starterEntries).toArray, none) := by
  decide +kernel

/-- Behind the name and a comment stand the other entries. -/
theorem readAll_behindName {c : Cursor} (hrest : (TokenReader.lineEnd c).rest = closing)
    (hline : (TokenReader.lineEnd c).line = 2) :
    TokenReader.readAll (fuel + 300) (behindName name c) =
      ((starterBlock name).tokens.toArray, none) := by
  obtain ⟨rest, hclosing⟩ := exists_closing
  let d := TokenReader.lineEnd c
  have hd : d.rest = ('\n' : CodePoint) :: rest := hrest.trans hclosing
  -- the next line is read as it would be in front of all others
  let r : TokenReader := ⟨⟨closing.tail, 0, 3, 0⟩, #[], 0, 0, [-1], true, []⟩
  have hnext : d.next = r.cursor.after (d.index + 1) := by
    unfold Cursor.next
    rw [hd]
    simp [show isBreak '\n' = true by decide, show ('\n' : CodePoint).is '\r' = false by decide, r,
      Cursor.after, hclosing, d, hline]
  have hafter : { behindName name c with cursor := d.next, allowKey := true } =
      r.after (behindName name c).tokens.toList (d.index + 1) := by
    rw [hnext]
    rfl
  rw [TokenReader.readAll_lineEnd (hrest.trans hclosing)]
  show TokenReader.readAll (fuel + 300)
    { behindName name c with cursor := d.next, allowKey := true } = _
  rw [hafter, TokenReader.readAll_after, Nat.add_comm,
    TokenReader.readAll_add (by rw [readAll_closing]), readAll_closing]
  rfl

/-- The place of the quotes around the product's name. -/
def openingQuote (name : Text) : Cursor where
  rest := ('"' : CodePoint) :: (name ++ ('"' : CodePoint) :: closing)
  index := 29
  line := 2
  column := 6

/-- Whether YAML allows all characters of a text. -/
def IsAllowed (s : Text) : Prop := ∀ ch ∈ s, isAllowed ch = true

theorem all_isAllowed_iff : (starterText s).all isAllowed = true ↔ IsAllowed s := by
  have hheading : heading.all isAllowed = true := by decide +kernel
  have hclosing : closing.all isAllowed = true := by decide +kernel
  have hquote : isAllowed '"' = true := by decide
  rw [starterText_eq]
  simp only [List.all_append, List.all_cons, hheading, hclosing, hquote, Bool.true_and,
    Bool.and_true, List.all_eq_true, IsAllowed]

theorem tokensOf_starterText (hs : IsAllowed s) : ∃ fuel, tokensOf (starterText s) =
    match readQuoted '"' (openingQuote s) with
    | .error fault => (#[.blockMappingStart, .key, .scalar true (lit "name"), .value], some fault)
    | .ok (t, c) => TokenReader.readAll (fuel + 300) (behindName t c) := by
  obtain ⟨fuel, hfuel⟩ : ∃ fuel, (starterText s).length + 2 = fuel + 300 + 1 + 2 := by
    have := length_closing
    refine ⟨(starterText s).length + 2 - 303, ?_⟩
    rw [starterText_eq, List.length_append, List.length_cons, List.length_append, List.length_cons]
    omega
  refine ⟨fuel, ?_⟩
  unfold tokensOf
  rw [if_pos (all_isAllowed_iff.2 hs), hfuel, starterText_eq, readAll_heading, readAll_beforeName]
  rfl

/-! ## The value -/

/-- The values of the entries behind the product's name. -/
def starterValues : List (Value × Value) :=
  let scan : ScanSettings := {}
  let docs : DocsSettings := {}
  let model : ModelSettings := {}
  let text (t : Text) : Value := .str t
  [(.str (lit "version"), text (lit "1.0.0")),
    (.str (lit "scan"), .map [
      (.str (lit "include"), .list (scan.includes.map .str)),
      (.str (lit "exclude"),
        .list ((scan.excludes ++ [lit "**/__tests__/**", lit "**/__mocks__/**"]).map .str)),
      (.str (lit "framework"), text scan.framework)]),
    (.str (lit "docs"), .map [
      (.str (lit "outputDir"), text docs.outputDir),
      (.str (lit "format"), text docs.format),
      (.str (lit "topics"), .list (docs.topics.map .str))]),
    (.str (lit "llm"), .map [
      (.str (lit "provider"), text model.provider),
      (.str (lit "model"), text (model.model.getD []))]),
    (.str (lit "dashboard"), .map [(.str (lit "port"), .int 3333)])]

/-- The document that a starter configuration should hold. -/
def starterDocument (name : Text) : Document :=
  ⟨.map ((.str (lit "name"), .str name) :: starterValues), []⟩

theorem value?_starterBlock (name : Text) :
    (starterBlock name).value? = some (starterDocument name).root := by
  have hentries : Block.entryValues? ((lit "name", .scalar false name) :: starterEntries) =
      some ((.str (lit "name"), .str name) :: starterValues) := rfl
  show (Block.entryValues? ((lit "name", .scalar false name) :: starterEntries)).map Value.map = _
  rw [hentries]
  rfl

/-- A scalar that ends in front of a comment or of the end of the line is the product's name. -/
theorem parse_of_readQuoted {c : Cursor} (hs : IsAllowed s)
    (hread : readQuoted '"' (openingQuote s) = .ok (t, c))
    (hrest : (TokenReader.lineEnd c).rest = closing) (hline : (TokenReader.lineEnd c).line = 2) :
    parse (starterText s) = .ok (some (starterDocument t)) := by
  obtain ⟨fuel, htokens⟩ := tokensOf_starterText hs
  rw [hread] at htokens
  refine Block.parse_eq (htokens.trans (readAll_behindName hrest hline)) ?_ (value?_starterBlock t)
  have htokens : (starterBlock t).tokens.length ≤ 400 := by
    show (Block.entryTokens starterEntries).length + 5 ≤ 400
    decide +kernel
  have := length_closing
  rw [starterText_eq, List.length_append, List.length_cons, List.length_append, List.length_cons]
  omega

theorem parse_of_refuses {fault : Fault} (hs : IsAllowed s)
    (hread : readQuoted '"' (openingQuote s) = .error fault) :
    parse (starterText s) = .error fault := by
  obtain ⟨fuel, htokens⟩ := tokensOf_starterText hs
  rw [hread] at htokens
  unfold parse
  rw [graphOf_of_key htokens]
  rfl

/-- A scalar with something else than a comment behind it is no product's name. -/
theorem parse_of_strays {c : Cursor} {ch : CodePoint} {r : Text} (hs : IsAllowed s)
    (hread : readQuoted '"' (openingQuote s) = .ok (t, c)) (hcolumn : c.column ≠ 0)
    (hrest : (TokenReader.lineEnd c).rest = ch :: r) (hch : isBreak ch = false)
    (hend : (TokenReader.lineEnd c).column ≠ 0) :
    ∃ fault, parse (starterText s) = .error fault := by
  obtain ⟨fuel, htokens⟩ := tokensOf_starterText hs
  rw [hread] at htokens
  have hmid : (behindName t c).IsMidLine := ⟨hcolumn, rfl, rfl, rfl, rfl⟩
  unfold parse
  rcases hmid.readAll hrest hch hend with
    ⟨fault, hfault⟩ | ⟨token, more, fault?, htoken, hmore⟩
  · exact ⟨fault, by rw [graphOf_of_value (htokens.trans hfault)]; rfl⟩
  · exact ⟨.malformed, by rw [graphOf_of_more (htokens.trans hmore) htoken]; rfl⟩

/-! ## The names that are read back -/

/-- A text of which every character stands for itself between double quotes. -/
def IsFaithful (s : Text) : Prop := IsAllowed s ∧ ∀ ch ∈ s, IsVerbatim ch

instance : Decidable (IsFaithful s) :=
  inferInstanceAs (Decidable ((∀ ch ∈ s, isAllowed ch = true) ∧ ∀ ch ∈ s, IsVerbatim ch))

/-- The place behind the opening quote. -/
theorem passes_openingQuote (s : Text) :
    (openingQuote s).Passes [('"' : CodePoint)] (openingQuote s).next :=
  passes_next rfl (by decide)

theorem lineEnd_closing {c : Cursor} (hc : c.rest = closing) : TokenReader.lineEnd c = c := by
  obtain ⟨rest, hclosing⟩ := exists_closing
  exact TokenReader.lineEnd_eq (hc.trans hclosing) (by decide) (by decide)

/-- A name that is a quoted scalar as a whole is read as what it stands for. -/
theorem parse_of_quotes (hs : IsAllowed s) (h : Quotes s t) :
    parse (starterText s) = .ok (some (starterDocument t)) := by
  obtain ⟨c, hpasses, hread⟩ := h.readQuoted_eq (c := openingQuote s) (r := closing) rfl
  have hrest : c.rest = closing := hpasses.rest_eq (by simp [openingQuote])
  refine parse_of_readQuoted hs hread ?_ ?_
  · rw [lineEnd_closing hrest, hrest]
  · rw [lineEnd_closing hrest]
    exact hpasses.line

/-- A name inside which the scalar ends is cut off there, or what follows is no comment. -/
theorem parse_of_ends {s₁ s₂ : Text} (hs : IsAllowed s) (hline : ∀ ch ∈ s, isBreak ch = false)
    (h : Quotes s₁ t) (hends : s = s₁ ++ ('"' : CodePoint) :: s₂) :
    parse (starterText s) = .ok (some (starterDocument t)) ∨
      ∃ fault, parse (starterText s) = .error fault := by
  obtain ⟨rest, hclosing⟩ := exists_closing
  obtain ⟨c, hpasses, hread⟩ := h.readQuoted_eq (c := openingQuote s)
    (r := s₂ ++ ('"' : CodePoint) :: closing) (by simp [openingQuote, hends])
  have hrest : c.rest = (s₂ ++ [('"' : CodePoint)]) ++ ('\n' : CodePoint) :: rest := by
    rw [← hclosing, List.append_assoc]
    exact hpasses.rest_eq (by simp [openingQuote, hends])
  have hcolumn : 6 ≤ c.column := hpasses.column
  obtain ⟨s', hs'⟩ := TokenReader.exists_passes_lineEnd c
  have hbehind : ∀ ch ∈ s₂ ++ [('"' : CodePoint)], isBreak ch = false := by
    intro ch hch
    rcases List.mem_append.1 hch with hch | hch
    · exact hline ch (by simp [hends, hch])
    · rw [List.mem_singleton.1 hch]
      decide
  rcases TokenReader.rest_lineEnd hbehind hrest with hend | ⟨ch, r, hend, hch⟩
  · left
    exact parse_of_readQuoted hs hread (hend.trans hclosing.symm) (hs'.line.trans hpasses.line)
  · right
    have hcolumn' := hs'.column
    exact parse_of_strays hs hread (by omega) hend hch (by omega)

/-- With a name that ends with an escape sign, the quoted scalar goes on up to the next quote. -/
theorem readQuoted_of_escapes {s₁ : Text} (h : Quotes s₁ t)
    (hescapes : s = s₁ ++ [('\\' : CodePoint)]) : ∃ c rest,
      readQuoted '"' (openingQuote s) = .ok (t ++ lit "\" version: ", c) ∧
        c.rest = ('1' : CodePoint) :: rest ∧ c.column ≠ 0 := by
  -- the next quote is the one in front of the version
  obtain ⟨rest, hclosing⟩ : ∃ rest, closing =
      ('\n' : CodePoint) :: (lit "version: " ++ ('"' : CodePoint) :: ('1' : CodePoint) :: rest) :=
    ⟨closing.drop 12, by decide +kernel⟩
  have hversion : Quotes (lit "version: ") (lit "version: ") := quotes_of_verbatim (by decide)
  have hopen : (openingQuote s).next.rest =
      s₁ ++ ('\\' : CodePoint) :: ([('"' : CodePoint)] ++ closing) := by
    simpa [hescapes] using (passes_openingQuote s).rest_eq rfl
  obtain ⟨c, hname, hbody⟩ := h.quotedBody_eq ⟨'\\', _, rfl, by decide⟩ hopen
  have hc : c.rest = ('\\' : CodePoint) :: ([('"' : CodePoint)] ++ closing) := hname.rest_eq hopen
  have hquote : readEscape c = .ok ([('"' : CodePoint)], c.skip 2) :=
    (Escapes.letter rfl).readEscape_eq hc
  have hbreak : (c.skip 2).rest = closing := by
    rw [rest_skip, hc]
    rfl
  rw [hclosing] at hbreak
  have hfolded : (c.skip 2).next.rest =
      lit "version: " ++ ('"' : CodePoint) :: ('1' : CodePoint) :: rest := by
    rw [rest_next, hbreak]
    rfl
  obtain ⟨d, hkey, hrest⟩ := hversion.quotedBody_eq (goesOn_quote _) hfolded
  have hd : d.rest = ('"' : CodePoint) :: ('1' : CodePoint) :: rest := hkey.rest_eq hfolded
  refine ⟨d.next, rest, ?_, ?_, ?_⟩
  · rw [readQuoted_eq_quotedBody rfl, hbody, quotedBody_escape hc, hquote, Except.ok_bind,
      quotedBody_fold hbreak (by decide) (by decide) (by decide), hrest, quotedBody_close hd]
    rfl
  · rw [rest_next, hd]
    rfl
  · rw [column_next hd (by decide) (by decide)]
    exact Nat.succ_ne_zero _

theorem parse_of_escapes {s₁ : Text} (hs : IsAllowed s) (h : Quotes s₁ t)
    (hescapes : s = s₁ ++ [('\\' : CodePoint)]) : ∃ fault, parse (starterText s) = .error fault := by
  obtain ⟨c, rest, hread, hrest, hcolumn⟩ := readQuoted_of_escapes h hescapes
  have hstay := TokenReader.lineEnd_eq hrest (by decide) (by decide)
  have hend : (TokenReader.lineEnd c).rest = ('1' : CodePoint) :: rest := by rw [hstay, hrest]
  have hcolumn' : (TokenReader.lineEnd c).column ≠ 0 := by rwa [hstay]
  exact parse_of_strays hs hread hcolumn hend (by decide) hcolumn'

/-- A name of one line is read back, or another text is, or none. -/
theorem parse_starterText (hline : ∀ ch ∈ s, isBreak ch = false) :
    (∃ t, parse (starterText s) = .ok (some (starterDocument t)) ∧ (t = s → IsFaithful s)) ∨
      ∃ fault, parse (starterText s) = .error fault := by
  by_cases hs : IsAllowed s
  · cases extent hline with
    | @whole t h =>
      refine .inl ⟨t, parse_of_quotes hs h, ?_⟩
      rintro rfl
      exact ⟨hs, (h.length_le.2 rfl).2⟩
    | @ends s₁ s₂ t h hends =>
      refine (parse_of_ends hs hline h hends).imp_left fun hparse => ⟨t, hparse, ?_⟩
      rintro rfl
      have hle := h.length_le.1
      have hlength := congrArg List.length hends
      rw [List.length_append, List.length_cons] at hlength
      omega
    | escapes h hescapes => exact .inr (parse_of_escapes hs h hescapes)
    | refuses h =>
      obtain ⟨fault, hfault⟩ := h (openingQuote s).next closing
        ((passes_openingQuote s).rest_eq rfl)
      exact .inr ⟨fault, parse_of_refuses hs ((readQuoted_eq_quotedBody rfl).trans hfault)⟩
  · have htokens : tokensOf (starterText s) = (#[], some .malformed) := by
      unfold tokensOf
      rw [if_neg fun hall => hs (all_isAllowed_iff.1 hall)]
    refine .inr ⟨.malformed, ?_⟩
    unfold parse graphOf
    rw [htokens]
    rfl

theorem parse_of_faithful (h : IsFaithful s) :
    parse (starterText s) = .ok (some (starterDocument s)) :=
  parse_of_quotes h.1 (quotes_of_verbatim h.2)

end Settings

end HelpCenter

import HelpCenter.Proofs.Generation.Draft
import HelpCenter.Proofs.Json.Interruption
import HelpCenter.Proofs.Text.Search
import HelpCenter.Proofs.Text.Trim

/-!
# Articles in replies

An article that an author writes as a JSON object is read back, bare or in a fenced block
(`draft_of_encodes`).  The block is found whatever the article holds, since it is looked for from
both sides: neither the prose in front of it nor the prose behind it has a fence of its own.  The
reply as a whole is never an object then, but the prose in front may begin as a JSON text with an
integer that is too long to be read, and that is a failure.
-/

namespace HelpCenter.Reply

variable {c : CodePoint} {t lead tail body : Text}

/-- Three backticks. -/
def fence : Text := lit "```"

/-- The lines that open a block. -/
def openings : List Text := [lit "```json\n", lit "```\n"]

/-- The text is an object with the title, the pages and the content of the draft. -/
structure Encodes (body : Text) (d : Draft) : Prop where
  opens : body.head? = some '\x7b'
  closes : body.getLast? = some '\x7d'
  parses : ∃ members, Json.parse body = .ok (.obj members) ∧
    Json.member? (lit "title") members = some (.str d.title) ∧
    Json.member? (lit "pages") members = some (.arr (d.pages.map .str)) ∧
    Json.member? (lit "content") members = some (.str d.content)

/-- The title and the content of the draft are not blank, and the title is trimmed. -/
structure IsFilled (d : Draft) : Prop where
  title : d.title.isBlank = false
  trimmed : Text.trim d.title = d.title
  content : d.content.isBlank = false

/-! ## The end of a block -/

theorem fence_infix_of_fenceFollows (h : fenceFollows t = true) : fence <:+: t := by
  obtain ⟨rest, hrest⟩ := Option.isSome_iff_exists.1 h
  have hprefix : fence <+: t.dropWhile CodePoint.isBlank :=
    ⟨rest, (Text.eq_append_of_afterPrefix? hrest).symm⟩
  exact hprefix.isInfix.trans (List.dropWhile_suffix _).isInfix

/-- No block ends in a text without a fence. -/
theorem bodyBeforeFence?_eq_none (h : ¬ fence <:+: t) : bodyBeforeFence? t = none := by
  induction t with
  | nil => rfl
  | cons c t ih =>
      have hrest : ¬ fence <:+: t := fun hin => h (List.infix_cons hin)
      have hfollows : fenceFollows t = false :=
        Bool.eq_false_iff.2 fun hfence => hrest (fence_infix_of_fenceFollows hfence)
      rw [bodyBeforeFence?, ih hrest, hfollows, Bool.and_false]
      rfl

theorem bodyBeforeFence?_append (body : Text) (htail : ¬ fence <:+: tail) :
    bodyBeforeFence? (body ++ ('\x7d' : CodePoint) :: (lit "\n```" ++ tail)) =
      some (body ++ [('\x7d' : CodePoint)]) := by
  induction body with
  | nil =>
      have hnone : bodyBeforeFence? (lit "\n```" ++ tail) = none := by
        show bodyBeforeFence? (_ :: _ :: _ :: _ :: tail) = none
        simp only [bodyBeforeFence?, bodyBeforeFence?_eq_none htail]
        rfl
      rw [List.nil_append, bodyBeforeFence?, hnone]
      rfl
  | cons c body ih =>
      rw [List.cons_append, bodyBeforeFence?, ih]
      rfl

/-! ## The beginning of a block -/

/-- Backticks that are found too early are followed by another one. -/
theorem head?_of_afterPrefix? {rest : Text} (hlead : ¬ fence <:+: lead) (hne : lead ≠ [])
    (h : Text.afterPrefix? fence (lead ++ (fence ++ t)) = some rest) : rest.head? = some '`' := by
  have heq := Text.eq_append_of_afterPrefix? h
  have hfence : fence = [('`' : CodePoint), ('`' : CodePoint), ('`' : CodePoint)] := rfl
  rw [hfence] at heq
  rcases lead with _ | ⟨a, _ | ⟨b, _ | ⟨c, lead⟩⟩⟩
  · exact absurd rfl hne
  · simp only [List.cons_append, List.nil_append, List.cons.injEq, true_and] at heq
    rw [← heq.2]
    rfl
  · simp only [List.cons_append, List.nil_append, List.cons.injEq] at heq
    rw [← heq.2.2.2]
    rfl
  · simp only [List.cons_append, List.nil_append, List.cons.injEq] at heq
    obtain ⟨rfl, rfl, rfl, -⟩ := heq
    exact absurd ⟨[], lead, rfl⟩ hlead

theorem fencedHere?_lead (hlead : ¬ fence <:+: lead) (hne : lead ≠ []) (t : Text) :
    fencedHere? (lead ++ (fence ++ t)) = none := by
  unfold fencedHere?
  cases h : Text.afterPrefix? (lit "```") (lead ++ (fence ++ t)) with
  | none => rfl
  | some rest =>
      obtain ⟨rest', rfl⟩ := List.head?_eq_some_iff.1 (head?_of_afterPrefix? hlead hne h)
      rfl

theorem fenced?_of_here (h : fencedHere? t = some body) : fenced? t = some body := by
  cases t with
  | nil => cases h
  | cons c t => rw [fenced?, h, Option.some_or]

theorem fenced?_lead (hlead : ¬ fence <:+: lead) (t : Text) :
    fenced? (lead ++ (fence ++ t)) = fenced? (fence ++ t) := by
  induction lead with
  | nil => rfl
  | cons c lead ih =>
      have hrest : ¬ fence <:+: lead := fun hin => hlead (List.infix_cons hin)
      have hhere := fencedHere?_lead hlead (List.cons_ne_nil _ _) t
      rw [List.cons_append] at hhere ⊢
      rw [fenced?, hhere, Option.none_or, ih hrest]

theorem fencedHere?_opening {opening : Text} (hopening : opening ∈ openings)
    (htail : ¬ fence <:+: tail) (body : Text) :
    fencedHere? (opening ++ ('\x7b' : CodePoint) ::
        (body ++ ('\x7d' : CodePoint) :: (lit "\n```" ++ tail))) =
      some (('\x7b' : CodePoint) :: (body ++ [('\x7d' : CodePoint)])) := by
  have hopened : fencedHere? (opening ++ ('\x7b' : CodePoint) ::
      (body ++ ('\x7d' : CodePoint) :: (lit "\n```" ++ tail))) =
        (('\x7b' : CodePoint) :: ·) <$>
          bodyBeforeFence? (body ++ ('\x7d' : CodePoint) :: (lit "\n```" ++ tail)) := by
    simp only [openings, List.mem_cons, List.not_mem_nil, or_false] at hopening
    rcases hopening with rfl | rfl <;> rfl
  rw [hopened, bodyBeforeFence?_append body htail]
  rfl

theorem exists_eq_fence_append {opening : Text} (h : opening ∈ openings) :
    ∃ rest, opening = fence ++ rest := by
  simp only [openings, List.mem_cons, List.not_mem_nil, or_false] at h
  rcases h with rfl | rfl
  · exact ⟨lit "json\n", rfl⟩
  · exact ⟨lit "\n", rfl⟩

/-- The block that is found is the one that is there. -/
theorem fenced?_append {opening : Text} (hopening : opening ∈ openings)
    (hlead : ¬ fence <:+: lead) (htail : ¬ fence <:+: tail) (hopens : body.head? = some '\x7b')
    (hcloses : body.getLast? = some '\x7d') :
    fenced? (lead ++ (opening ++ body ++ lit "\n```") ++ tail) = some body := by
  obtain ⟨rest, rfl⟩ := List.head?_eq_some_iff.1 hopens
  obtain ⟨inner, rfl⟩ : ∃ inner, rest = inner ++ [('\x7d' : CodePoint)] := by
    obtain ⟨front, hfront⟩ := List.getLast?_eq_some_iff.1 hcloses
    cases front with
    | nil => exact absurd (List.cons.inj hfront).1 (by decide)
    | cons c front => exact ⟨front, (List.cons.inj hfront).2⟩
  have hhere := fencedHere?_opening hopening htail inner
  obtain ⟨line, rfl⟩ := exists_eq_fence_append hopening
  simp only [List.append_assoc, List.cons_append, List.nil_append] at hhere ⊢
  rw [fenced?_lead hlead, fenced?_of_here hhere]

/-! ## Reading the article -/

variable {d : Draft} {fallback : Text}

/-- The fence in a reply does not belong to any JSON. -/
theorem interrupts_opening {opening : Text} (h : opening ∈ openings) (t : Text) :
    Json.Interrupts (opening ++ t) := by
  simp only [openings, List.mem_cons, List.not_mem_nil, or_false] at h
  rcases h with rfl | rfl
  · have hline : ∀ c ∈ lit "```json", c ≠ ('"' : CodePoint) ∧ c ≠ ('\\' : CodePoint) := by decide
    exact Json.interrupts_line t rfl hline
  · have hline : ∀ c ∈ fence, c ≠ ('"' : CodePoint) ∧ c ≠ ('\\' : CodePoint) := by decide
    exact Json.interrupts_line t rfl hline

/-- The reply as a whole is read as JSON no further than to its first fence. -/
theorem parse_trim_fenced {opening : Text} (hopening : opening ∈ openings)
    (lead tail body : Text) :
    Json.parse (Text.trim (lead ++ (opening ++ body ++ lit "\n```") ++ tail)) =
      Json.parse (Text.trimLeft lead) >>= fun _ => .error .malformed := by
  have hhead : (opening ++ body ++ lit "\n```").head? = some '`' := by
    obtain ⟨line, rfl⟩ := exists_eq_fence_append hopening
    rfl
  have hend : (opening ++ body ++ lit "\n```").getLast? = some '`' := by
    rw [List.getLast?_append]
    rfl
  rw [Text.trim_append (by decide) (by decide) hhead hend]
  simp only [List.append_assoc]
  exact (interrupts_opening hopening _).parse_append _

theorem filledText?_str {t : Text} (h : t.isBlank = false) :
    filledText? (some (.str t)) = some t := by
  rw [filledText?, h, if_neg Bool.false_ne_true]

/-- Where the first object is the one that encodes the draft, the draft is read. -/
theorem draft_of_firstObject? {members : List (Text × Json)} (hd : IsFilled d)
    (hfirst : firstObject? (Text.trim t :: (fenced? t).toList) = .ok (some members))
    (htitle : Json.member? (lit "title") members = some (.str d.title))
    (hpages : Json.member? (lit "pages") members = some (.arr (d.pages.map .str)))
    (hcontent : Json.member? (lit "content") members = some (.str d.content)) :
    draft t fallback = .ok d := by
  have hall : (d.pages.map Json.str).filterMap Json.str? = d.pages := by
    simp [List.filterMap_map, Function.comp_def, Json.str?]
  unfold draft
  simp only [hfirst, Except.ok_bind, htitle, hpages, hcontent, filledText?_str hd.title,
    filledText?_str hd.content, Option.map_some, Option.getD_some, hd.trimmed, hall]
  rfl

theorem firstObject?_cons_of_malformed {ts : List Text}
    (h : Json.parse t = .error .malformed) : firstObject? (t :: ts) = firstObject? ts := by
  rw [firstObject?, h]

/-- An article that is encoded is read back, with blanks around it and in a fenced block between
prose without fences.  Only prose that is JSON up to an integer too long to be read makes the reply
unreadable. -/
theorem draft_of_encodes (hd : IsFilled d) (hbody : Encodes body d) (fallback : Text) :
    (∀ before after : Text, before.isBlank = true → after.isBlank = true →
      draft (before ++ body ++ after) fallback = .ok d) ∧
    ∀ opening ∈ openings, ∀ lead tail : Text, ¬ fence <:+: lead → ¬ fence <:+: tail →
      let reply := lead ++ (opening ++ body ++ lit "\n```") ++ tail
      (Json.parse (Text.trimLeft lead) ≠ .error .hugeInteger → draft reply fallback = .ok d) ∧
      (Json.parse (Text.trimLeft lead) = .error .hugeInteger →
        draft reply fallback = .error .unreadable ∧ Text.maxIntegerDigits < lead.length) := by
  obtain ⟨hopens, hcloses, members, hparse, htitle, hpages, hcontent⟩ := hbody
  refine ⟨fun before after hbefore hafter => ?_, fun opening hopening lead tail hlead htail => ?_⟩
  · have htrim : Text.trim (before ++ body ++ after) = body := by
      rw [Text.trim_append (by decide) (by decide) hopens hcloses, Text.trimLeft_of_isBlank hbefore,
        Text.trimRight_of_isBlank hafter, List.nil_append, List.append_nil]
    refine draft_of_firstObject? hd ?_ htitle hpages hcontent
    rw [htrim, firstObject?, hparse]
  · have hwhole := parse_trim_fenced hopening lead tail body
    have hfenced := fenced?_append hopening hlead htail hopens hcloses
    refine ⟨fun hplain => ?_, fun hhuge => ⟨?_, ?_⟩⟩
    · have hmalformed : Json.parse (Text.trim (lead ++ (opening ++ body ++ lit "\n```") ++ tail)) =
          .error .malformed := by
        rw [hwhole]
        cases hfault : Json.parse (Text.trimLeft lead) with
        | ok v => rfl
        | error fault =>
            cases fault with
            | malformed => rfl
            | hugeInteger => exact absurd hfault hplain
      refine draft_of_firstObject? hd ?_ htitle hpages hcontent
      rw [firstObject?_cons_of_malformed hmalformed, hfenced, Option.toList_some, firstObject?,
        hparse]
    · rw [hhuge] at hwhole
      exact draft_eq_error_iff.2 ⟨rfl, isBlocked_cons_iff.2 (.inl hwhole)⟩
    · exact (Json.lt_length_of_parse hhuge).trans_le (List.dropWhile_suffix _).length_le

/-! ## An article with a block of its own -/

/-- Whether the members have a text of the name. -/
def holdsText (members : List (Text × Json)) (name : String) (t : Text) : Bool :=
  match Json.member? (lit name) members with
  | some (.str s) => s = t
  | _ => false

/-- Whether the members have a list of the name with just these texts. -/
def holdsTexts (members : List (Text × Json)) (name : String) (ts : List Text) : Bool :=
  match Json.member? (lit name) members with
  | some (.arr items) => items.map Json.str? = ts.map some
  | _ => false

theorem member?_of_holdsText {members : List (Text × Json)} {name : String}
    (h : holdsText members name t = true) :
    Json.member? (lit name) members = some (.str t) := by
  unfold holdsText at h
  split at h
  · next s hs => rw [hs, of_decide_eq_true h]
  · cases h

theorem eq_map_str {items : List Json} {ts : List Text} (h : items.map Json.str? = ts.map some) :
    items = ts.map .str := by
  induction items generalizing ts with
  | nil => rw [List.map_eq_nil_iff.1 h.symm, List.map_nil]
  | cons v items ih =>
      cases ts with
      | nil => cases h
      | cons t ts =>
          obtain ⟨hv, hitems⟩ := List.cons.inj h
          rw [List.map_cons, ← ih hitems]
          cases v <;> cases hv
          rfl

theorem member?_of_holdsTexts {members : List (Text × Json)} {name : String} {ts : List Text}
    (h : holdsTexts members name ts = true) :
    Json.member? (lit name) members = some (.arr (ts.map .str)) := by
  unfold holdsTexts at h
  split at h
  · next items hitems =>
    rw [hitems, eq_map_str (of_decide_eq_true h)]
  · cases h

/-- A text whose members are found to be those of the draft encodes it. -/
theorem encodes_of_check {d : Draft} (hopens : body.head? = some '\x7b')
    (hcloses : body.getLast? = some '\x7d')
    (h : (match Json.parse body with
      | .ok (.obj members) => holdsText members "title" d.title &&
          holdsTexts members "pages" d.pages && holdsText members "content" d.content
      | _ => false) = true) : Encodes body d := by
  split at h
  · next members hmembers =>
    simp only [Bool.and_eq_true] at h
    exact ⟨hopens, hcloses, members, hmembers, member?_of_holdsText h.1.1,
      member?_of_holdsTexts h.1.2, member?_of_holdsText h.2⟩
  · cases h

/-- An article whose content has braces and a block of its own. -/
def fencedArticle : Draft where
  title := lit "Plans"
  pages := [lit "/plans"]
  content := lit "Send `\x7b\x7d`:\n```json\n\x7b\"a\": 1\x7d\n```\nDone."

/-- The article as an author may write it. -/
def fencedArticleText : Text :=
  lit "\x7b\"title\": \"Plans\", \"pages\": [\"/plans\"], " ++
    lit "\"content\": \"Send `\x7b\x7d`:\\n```json\\n\x7b\\\"a\\\": 1\x7d\\n```\\nDone.\"\x7d"

theorem encodes_fencedArticleText : Encodes fencedArticleText fencedArticle :=
  encodes_of_check (by decide) (by decide +kernel) (by decide +kernel)

theorem isFilled_fencedArticle : IsFilled fencedArticle := ⟨by decide, by decide, by decide⟩

/-- The article is read back bare, and in a block with a brace and backticks around it. -/
theorem draft_fencedArticleText :
    draft (lit " " ++ fencedArticleText ++ lit "\n") [] = .ok fencedArticle ∧
      draft (lit "A \x7b `` here: `" ++ (lit "```json\n" ++ fencedArticleText ++ lit "\n```") ++
        lit "` and \x7d.") [] = .ok fencedArticle := by
  obtain ⟨hbare, hfenced⟩ :=
    draft_of_encodes isFilled_fencedArticle encodes_fencedArticleText []
  refine ⟨hbare _ _ (by decide) (by decide), ?_⟩
  refine (hfenced (lit "```json\n") (by decide) (lit "A \x7b `` here: `") (lit "` and \x7d.")
    (by decide) (by decide)).1 fun hhuge => ?_
  exact absurd (Json.lt_length_of_parse hhuge) (by decide +kernel)

/-- Behind an integer of 4301 digits the article is not read. -/
theorem not_draft_fencedArticleText :
    Encodes fencedArticleText fencedArticle ∧ IsFilled fencedArticle ∧
      ¬ fence <:+: List.replicate 4301 ('1' : CodePoint) ∧ ¬ fence <:+: ([] : Text) ∧
      draft (List.replicate 4301 ('1' : CodePoint) ++
        (lit "```json\n" ++ fencedArticleText ++ lit "\n```") ++ []) [] = .error .unreadable := by
  refine ⟨encodes_fencedArticleText, isFilled_fencedArticle, fun hin => ?_, by decide, ?_⟩
  · have hmem : ('`' : CodePoint) ∈ List.replicate 4301 ('1' : CodePoint) :=
      hin.subset (by decide)
    exact absurd (List.eq_of_mem_replicate hmem) (by decide)
  · have hnone : (draft (List.replicate 4301 ('1' : CodePoint) ++
        (lit "```json\n" ++ fencedArticleText ++ lit "\n```") ++ []) []).toOption.isNone = true := by
      decide +kernel
    cases hdraft : draft (List.replicate 4301 ('1' : CodePoint) ++
        (lit "```json\n" ++ fencedArticleText ++ lit "\n```") ++ []) [] with
    | ok d =>
        rw [hdraft] at hnone
        cases hnone
    | error e => rw [(draft_eq_error_iff.1 hdraft).1]

end HelpCenter.Reply

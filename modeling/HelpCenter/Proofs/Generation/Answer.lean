import HelpCenter.Proofs.Generation.Backend
import HelpCenter.Proofs.Json.Extent
import HelpCenter.Proofs.Json.Normal
import HelpCenter.Proofs.Text.Encoding
import HelpCenter.Proofs.Text.Search

/-!
# What a service answers

Whatever comes back over HTTP, a question to a service ends with a fault of the generation or with
the trimmed text of the reply (`Backend.isAnswered_author_iff`).  What can come in between does not
come from the reply: an address is refused for its host or for a mark in front of it, and a number
of thousands of digits cannot be printed, neither in the question nor in the message that the time
is over.
-/

namespace HelpCenter

open Text Except

/-! ## Addresses with a scheme -/

namespace Url

variable {t path scheme tail : Text} {first : CodePoint}

/-- The address begins with a scheme and a colon. -/
def HasScheme (t : Text) : Prop :=
  ∃ first scheme tail, t = (first :: scheme) ++ (':' : CodePoint) :: tail ∧ first.isLetter = true ∧
    ∀ c ∈ scheme, isSchemeChar c = true

/-- What the program takes for a scheme, in front of the last number sign. -/
def IsNamed (url : Text) : Prop := hasScheme (beforeFragment (unwrap url)) = true

instance (url : Text) : Decidable (IsNamed url) :=
  inferInstanceAs (Decidable (hasScheme (beforeFragment (unwrap url)) = true))

/-- No character of a scheme is a sign of an address. -/
theorem ne_of_isSchemeChar {c : CodePoint} (h : isSchemeChar c = true) :
    c ≠ ':' ∧ c ≠ '/' ∧ c ≠ '#' := by
  refine ⟨?_, ?_, ?_⟩ <;>
  · rintro rfl
    exact absurd h (by decide)

theorem isSchemeChar_of_isLetter {c : CodePoint} (h : c.isLetter = true) :
    isSchemeChar c = true := by
  simp only [isSchemeChar, h, Bool.true_or]

theorem not_isBlank_of_isLetter {c : CodePoint} (h : c.isLetter = true) :
    c.isBlank = false ∧ c ≠ '<' := by
  have hlt : c.toNat < 123 := by
    simp only [CodePoint.isLetter, CodePoint.between, Bool.or_eq_true, Bool.and_eq_true,
      decide_eq_true_eq] at h
    rcases h with h | h
    · exact Nat.lt_succ_of_le h.2
    · exact (Nat.lt_succ_of_le h.2).trans (by decide)
  have hall : ∀ n < 123, (CodePoint.ofNat n).isLetter = true →
      (CodePoint.ofNat n).isBlank = false ∧ CodePoint.ofNat n ≠ '<' := by decide +kernel
  rw [← CodePoint.ofNat_toNat c] at h ⊢
  exact hall _ hlt h

/-- Neither slashes at the end nor a path behind them take the scheme away. -/
theorem HasScheme.trimRightBy_append (h : HasScheme t) (path : Text) :
    HasScheme (trimRightBy (CodePoint.is '/') t ++ path) := by
  obtain ⟨first, scheme, tail, rfl, hfirst, hscheme⟩ := h
  refine ⟨first, scheme, trimRightBy (CodePoint.is '/') tail ++ path, ?_, hfirst, hscheme⟩
  rw [Text.trimRightBy_append (by decide)]
  simp

/-- Only what is behind the colon can be cut off. -/
theorem exists_beforeFragment_append (hscheme : ('#' : CodePoint) ∉ scheme) (tail : Text) :
    ∃ behind, beforeFragment (scheme ++ (':' : CodePoint) :: tail) =
      scheme ++ (':' : CodePoint) :: behind := by
  by_cases hmem : ('#' : CodePoint) ∈ tail
  · obtain ⟨after, before, hreverse, hafter⟩ := List.eq_append_cons_of_mem (List.mem_reverse.2 hmem)
    have hsign : (scheme ++ (':' : CodePoint) :: tail).contains '#' = true := by
      simp [hmem]
    have hdrop : (scheme ++ (':' : CodePoint) :: tail).reverse.dropWhile (fun c => !c.is '#') =
        ('#' : CodePoint) :: (before ++ (':' : CodePoint) :: scheme.reverse) := by
      have hall : ∀ c ∈ after, (!c.is '#') = true := by
        intro c hc
        have hne : c ≠ '#' := fun h => hafter (h ▸ hc)
        simpa [CodePoint.is] using hne
      rw [List.reverse_append, List.reverse_cons, hreverse, List.append_assoc, List.append_assoc,
        List.dropWhile_append_of_pos hall]
      rfl
    refine ⟨before.reverse, ?_⟩
    rw [beforeFragment, if_pos hsign, hdrop]
    simp
  · have hsign : ¬ (scheme ++ (':' : CodePoint) :: tail).contains '#' = true := by
      simp only [List.contains_iff_mem, List.mem_append, List.mem_cons, not_or]
      exact ⟨hscheme, by decide, hmem⟩
    exact ⟨tail, if_neg hsign⟩

/-- The program sees a scheme in front of a colon, whatever follows. -/
theorem hasScheme_append (hfirst : first.isLetter = true)
    (hscheme : ∀ c ∈ scheme, isSchemeChar c = true) (tail : Text) :
    hasScheme (beforeFragment ((first :: scheme) ++ (':' : CodePoint) :: tail)) = true := by
  have hall : ∀ c ∈ first :: scheme, isSchemeChar c = true :=
    List.forall_mem_cons.2 ⟨isSchemeChar_of_isLetter hfirst, hscheme⟩
  have hsign : ('#' : CodePoint) ∉ first :: scheme :=
    fun h => (ne_of_isSchemeChar (hall _ h)).2.2 rfl
  obtain ⟨behind, hbehind⟩ := exists_beforeFragment_append hsign tail
  have htake : ((first :: scheme) ++ (':' : CodePoint) :: behind).takeWhile
      (fun c => !c.is '/' && !c.is ':') = first :: scheme := by
    rw [List.takeWhile_append_of_pos, List.takeWhile_cons_of_neg (by decide), List.append_nil]
    intro c hc
    obtain ⟨hcolon, hslash, -⟩ := ne_of_isSchemeChar (hall c hc)
    simp [CodePoint.is, hcolon, hslash]
  rw [hbehind, hasScheme, htake, List.drop_left]
  rfl

/-- An address is taken as it is if nothing around it or in front of it is taken off. -/
theorem unwrap_eq {last : CodePoint} (hfirst : first.isLetter = true)
    (hend : (first :: tail).getLast? = some last) (hlast : last.isBlank = false)
    (hmark : ¬ lit "URL:" <+: first :: tail) : unwrap (first :: tail) = first :: tail := by
  obtain ⟨hblank, hbracket⟩ := not_isBlank_of_isLetter hfirst
  have htrim : trim (first :: tail) = first :: tail := trim_eq_self hblank hlast rfl hend
  have hbare : first.is '<' = false := by simpa [CodePoint.is] using hbracket
  have hprefix : Text.afterPrefix? (lit "URL:") (first :: tail) = none := by
    refine Option.eq_none_iff_forall_ne_some.2 fun rest hrest => hmark ?_
    exact ⟨rest, (eq_append_of_afterPrefix? hrest).symm⟩
  rw [unwrap, htrim]
  simp only [hbare, Bool.false_and, Bool.false_eq_true, if_false, hprefix]

/-- An address with a scheme is taken for one, unless a mark in front of it is taken off. -/
theorem HasScheme.isNamed (h : HasScheme t) {last : CodePoint} (hend : t.getLast? = some last)
    (hlast : last.isBlank = false) (hmark : ¬ lit "URL:" <+: t) : IsNamed t := by
  obtain ⟨first, scheme, tail, rfl, hfirst, hscheme⟩ := h
  have hunwrap : unwrap ((first :: scheme) ++ (':' : CodePoint) :: tail) =
      (first :: scheme) ++ (':' : CodePoint) :: tail := unwrap_eq hfirst hend hlast hmark
  rw [IsNamed, hunwrap]
  exact hasScheme_append hfirst hscheme tail

end Url

/-! ## Making a call -/

namespace Inquiry

variable {q : Inquiry} {s : Service} {url : Text}

/-- The address at which a service is asked. -/
inductive Address (q : Inquiry) : Service → Text → Prop
  | anthropic : Address q .anthropic (q.baseUrl.getD [] ++ lit "/v1/messages")
  | openai : Address q .openai (q.baseUrl.getD [] ++ lit "/chat/completions")
  | google {model : Text} (h : Url.quotePath q.model = .ok model) :
      Address q .google (q.baseUrl.getD [] ++ lit "/models/" ++ model ++ lit ":generateContent")

/-- The service insists on a key, and there is none. -/
def LacksKey (q : Inquiry) (s : Service) : Prop :=
  (s = .anthropic ∨ s = .google) ∧ q.apiKey.getD [] = []

/-- What keeps a complete question from being asked. -/
inductive Blocks (q : Inquiry) (s : Service) : Prop
  /-- Nothing of a scheme is left of the address without the mark in front of it. -/
  | mark {url : Text} (hurl : q.Address s url) (hmark : lit "URL:" <+: url)
      (hunnamed : ¬ Url.IsNamed url)
  /-- The host cannot be one. -/
  | host {url : Text} (hurl : q.Address s url)
      (hhost : Url.hasGoodHost (Url.unwrap url) = false)
  /-- The limit has too many digits. -/
  | limit {n : ℤ} (hn : q.maxTokens = some n) (hlong : (Json.int n).isPrintable = false)
  /-- The temperature has too many digits. -/
  | temperature {x : Number} (hx : q.temperature = some x) (hlong : x.toJson.isPrintable = false)

/-- The numbers in what is sent can be printed. -/
def CanBePrinted (q : Inquiry) : Prop :=
  (∀ n, q.maxTokens = some n → (Json.int n).isPrintable = true) ∧
    ∀ x, q.temperature = some x → x.toJson.isPrintable = true

theorem isPrintable_temperatureMember : (∀ f ∈ q.temperatureMember, f.2.isPrintable = true) ↔
    ∀ x, q.temperature = some x → x.toJson.isPrintable = true := by
  unfold temperatureMember
  cases q.temperature <;> simp

theorem isPrintable_limitMember {name : String} :
    (∀ f ∈ q.limitMember name, f.2.isPrintable = true) ↔
      ∀ n, q.maxTokens = some n → (Json.int n).isPrintable = true := by
  unfold limitMember
  cases q.maxTokens <;> simp

/-- A limit of zero counts as none, and can be printed like the one in its place. -/
theorem isPrintable_limit :
    (Json.int ((q.maxTokens.filter (· ≠ 0)).getD 1000)).isPrintable = true ↔
      ∀ n, q.maxTokens = some n → (Json.int n).isPrintable = true := by
  cases hlimit : q.maxTokens with
  | none => exact iff_of_true (by decide +kernel) nofun
  | some n =>
      by_cases hzero : n = 0
      · subst hzero
        refine iff_of_true (by decide +kernel) ?_
        rintro _ ⟨⟩
        decide +kernel
      · simp [Option.filter, hzero]

theorem isPrintable_messages (q : Inquiry) : q.messages.isPrintable = true := by
  simp [messages, Json.isPrintable, Json.allPrintable, Json.isPrintable_ofFields]

/-- A complete question becomes a call to the address of the service. -/
theorem exists_call_eq_post (hs : s ≠ .ollama) (hkey : ¬ q.LacksKey s)
    (hmodel : ∃ model, Url.quotePath q.model = .ok model) (hbase : q.baseUrl.getD [] ≠ []) :
    ∃ url headers body, q.Address s url ∧ q.call s = q.post url headers body ∧
      ((Json.ofFields body).isPrintable = true ↔ q.CanBePrinted) := by
  have hneeded (h : s = .anthropic ∨ s = .google) : q.neededKey s = .ok (q.apiKey.getD []) :=
    neededKey_of_getD_ne_nil (fun hnil => hkey ⟨h, hnil⟩) s
  cases s with
  | ollama => exact absurd rfl hs
  | anthropic =>
      refine ⟨_, _, _, .anthropic, bind_ok (hneeded (.inl rfl)) rfl, ?_⟩
      rw [Json.isPrintable_ofFields, List.forall_mem_append, isPrintable_temperatureMember]
      simp only [List.forall_mem_cons, isPrintable_limit, isPrintable_messages, CanBePrinted]
      simp [Json.isPrintable]
  | openai =>
      have hcall : q.call .openai = q.post (q.baseUrl.getD [] ++ lit "/chat/completions") _ _ :=
        if_neg (by simpa using hbase)
      refine ⟨_, _, _, .openai, hcall, ?_⟩
      rw [Json.isPrintable_ofFields, List.forall_mem_append, List.forall_mem_append,
        isPrintable_temperatureMember, isPrintable_limitMember]
      simp only [List.forall_mem_cons, isPrintable_messages, CanBePrinted]
      simp [Json.isPrintable, and_comm]
  | google =>
      obtain ⟨model, hquote⟩ := hmodel
      refine ⟨_, _, _, .google hquote, bind_ok (hneeded (.inr rfl)) (bind_ok hquote rfl), ?_⟩
      have hconfig : (Json.ofFields (q.limitMember "maxOutputTokens" ++
          q.temperatureMember)).isPrintable = true ↔ q.CanBePrinted := by
        rw [Json.isPrintable_ofFields, List.forall_mem_append, isPrintable_temperatureMember,
          isPrintable_limitMember, CanBePrinted]
      have hcontents : (Json.arr [.ofFields [("role", .str (lit "user")),
          ("parts", .arr [.ofFields [("text", .str q.prompt)]])]]).isPrintable = true := by
        simp [Json.isPrintable, Json.allPrintable, Json.isPrintable_ofFields]
      rw [← hconfig, Json.isPrintable_ofFields, List.forall_mem_cons, and_iff_right hcontents]
      split
      · next hempty =>
        rw [List.isEmpty_iff.1 hempty]
        exact iff_of_true (List.forall_mem_nil _) rfl
      · exact List.forall_mem_singleton

theorem Address.unique {url' : Text} (h : q.Address s url) (h' : q.Address s url') :
    url = url' := by
  cases h with
  | anthropic | openai =>
      cases h'
      rfl
  | google hmodel =>
      cases h' with
      | google hmodel' => rw [Except.ok.inj (hmodel.symm.trans hmodel')]

/-- The address begins like the configured one and does not end in a blank. -/
theorem Address.hasScheme (h : q.Address s url) {base : Text} (hbase : Url.HasScheme base)
    (hq : q.baseUrl.getD [] = trimRightBy (CodePoint.is '/') base) :
    Url.HasScheme url ∧ ∃ last, url.getLast? = some last ∧ last.isBlank = false := by
  cases h with
  | anthropic | openai =>
      rw [hq]
      exact ⟨hbase.trimRightBy_append _, _, List.getLast?_append_of_ne_nil _ (by decide),
        by decide⟩
  | google hmodel =>
      rw [hq, List.append_assoc, List.append_assoc]
      refine ⟨hbase.trimRightBy_append _, 't', ?_, by decide⟩
      rw [← List.append_assoc, ← List.append_assoc]
      exact List.getLast?_append_of_ne_nil _ (by decide)

theorem exists_post_iff {headers : List (Text × Text)} {body : List (String × Json)} :
    (∃ call, q.post url headers body = .ok call) ↔ (Json.ofFields body).isPrintable = true ∧
      Url.IsNamed url ∧ Url.hasGoodHost (Url.unwrap url) = true := by
  unfold post Url.IsNamed
  dsimp only
  split
  · next h =>
      simp only [Bool.and_eq_true] at h
      exact iff_of_true ⟨_, rfl⟩ ⟨h.1.1, h.1.2, h.2⟩
  · next h =>
      simp only [Bool.and_eq_true] at h
      exact iff_of_false nofun fun h' => h ⟨⟨h'.1, h'.2.1⟩, h'.2.2⟩

theorem not_blocks_iff (hurl : q.Address s url) : ¬ q.Blocks s ↔ q.CanBePrinted ∧
    (lit "URL:" <+: url → Url.IsNamed url) ∧ Url.hasGoodHost (Url.unwrap url) = true := by
  constructor
  · intro h
    refine ⟨⟨fun n hn => ?_, fun x hx => ?_⟩, fun hmark => ?_, ?_⟩
    · by_contra hlong
      exact h (.limit hn (by simpa using hlong))
    · by_contra hlong
      exact h (.temperature hx (by simpa using hlong))
    · by_contra hunnamed
      exact h (.mark hurl hmark hunnamed)
    · by_contra hhost
      exact h (.host hurl (by simpa using hhost))
  · rintro ⟨⟨hlimit, htemperature⟩, hnamed, hhost⟩ h
    cases h with
    | mark hurl' hmark hunnamed =>
        obtain rfl := hurl.unique hurl'
        exact hunnamed (hnamed hmark)
    | host hurl' hhost' =>
        obtain rfl := hurl.unique hurl'
        exact absurd (hhost.symm.trans hhost') nofun
    | limit hn hlong => exact absurd ((hlimit _ hn).symm.trans hlong) nofun
    | temperature hx hlong => exact absurd ((htemperature _ hx).symm.trans hlong) nofun

/-- A complete question is asked unless something keeps it from being asked. -/
theorem exists_call_iff (hs : s ≠ .ollama) (hkey : ¬ q.LacksKey s)
    (hmodel : ∃ model, Url.quotePath q.model = .ok model) {base : Text}
    (hbase : Url.HasScheme base) (hq : q.baseUrl.getD [] = trimRightBy (CodePoint.is '/') base) :
    ((∃ call, q.call s = .ok call) ↔ ¬ q.Blocks s) ∧
      (q.call s).Faults (· = .data .unreadable) := by
  have hne : q.baseUrl.getD [] ≠ [] := by
    rw [hq]
    obtain ⟨first, scheme, tail, rfl, -⟩ := hbase
    rw [trimRightBy_append (by decide)]
    exact List.cons_ne_nil _ _
  obtain ⟨url, headers, body, hurl, hcall, hprint⟩ := exists_call_eq_post hs hkey hmodel hne
  obtain ⟨hscheme, last, hend, hlast⟩ := hurl.hasScheme hbase hq
  rw [hcall]
  refine ⟨?_, fun e he => post_eq_error he⟩
  rw [exists_post_iff, not_blocks_iff hurl, hprint]
  refine and_congr_right fun _ => and_congr_left fun _ => ⟨fun h _ => h, fun h => ?_⟩
  by_cases hmark : lit "URL:" <+: url
  · exact h hmark
  · exact hscheme.isNamed hend hlast hmark

theorem call_of_blocks (hs : s ≠ .ollama) (hkey : ¬ q.LacksKey s)
    (hmodel : ∃ model, Url.quotePath q.model = .ok model) {base : Text}
    (hbase : Url.HasScheme base) (hq : q.baseUrl.getD [] = trimRightBy (CodePoint.is '/') base)
    (h : q.Blocks s) : q.call s = .error (.data .unreadable) := by
  obtain ⟨hcalled, hfaults⟩ := exists_call_iff hs hkey hmodel hbase hq
  cases hcall : q.call s with
  | error e => rw [hfaults e hcall]
  | ok call => exact absurd h (hcalled.1 ⟨call, hcall⟩)

end Inquiry

/-! ## What comes back -/

/-- What can come back over HTTP: a body, a status, or nothing.  In a body no integer is too long to
be read. -/
inductive ServiceReply.IsHttp : ServiceReply → Prop
  | body (bytes : Bytes)
      (h : ∀ text, Utf8.decode bytes = .ok text → Json.parse text ≠ .error .hugeInteger) :
      IsHttp (.body bytes)
  | status (code : ℤ) (reason : Text) (bytes : Bytes) : IsHttp (.status code reason bytes)
  | unreachable (reason : Text) : IsHttp (.unreachable reason)
  | timedOut : IsHttp .timedOut

namespace Service

variable {s : Service} {reply : Json} {found t : Text}

/-- The texts of the items that have one, one after the other. -/
inductive Gathers (IsTextOf : Json → Text → Prop) : List Json → Text → Prop
  | nil : Gathers IsTextOf [] []
  | text {item : Json} {t : Text} {items : List Json} {found : Text} (h : IsTextOf item t)
      (hitems : Gathers IsTextOf items found) : Gathers IsTextOf (item :: items) (t ++ found)
  | other {item : Json} {items : List Json} {found : Text} (h : ∀ t, ¬ IsTextOf item t)
      (hitems : Gathers IsTextOf items found) : Gathers IsTextOf (item :: items) found

/-- An object has a text as a member. -/
def HasText (name : String) (item : Json) (t : Text) : Prop := item.get? (lit name) = some (.str t)

/-- Where a reply has the text. -/
inductive Finds : Service → Json → Text → Prop
  /-- In the blocks of the kind `text`. -/
  | blocks {reply : Json} {blocks : List Json} {found : Text}
      (h : reply.get? (lit "content") = some (.arr blocks))
      (hfound : Gathers (fun block t => HasText "type" block (lit "text") ∧ HasText "text" block t)
        blocks found) : Finds .anthropic reply found
  /-- In the message of the first choice. -/
  | message {reply choice message : Json} {choices : List Json} {t : Text}
      (h : reply.get? (lit "choices") = some (.arr (choice :: choices)))
      (hmessage : choice.get? (lit "message") = some message) (ht : HasText "content" message t) :
      Finds .openai reply t
  /-- In the first choice itself, if it has no message with a text. -/
  | choice {reply choice : Json} {choices : List Json} {t : Text}
      (h : reply.get? (lit "choices") = some (.arr (choice :: choices)))
      (hnone : ∀ message t, choice.get? (lit "message") = some message →
        ¬ HasText "content" message t) (ht : HasText "text" choice t) : Finds .openai reply t
  /-- In the parts of the first candidate. -/
  | parts {reply candidate content : Json} {candidates parts : List Json} {found : Text}
      (h : reply.get? (lit "candidates") = some (.arr (candidate :: candidates)))
      (hcontent : candidate.get? (lit "content") = some content)
      (hparts : content.get? (lit "parts") = some (.arr parts))
      (hfound : Gathers (HasText "text") parts found) : Finds .google reply found

theorem textMember?_eq_some_iff {name : String} {item : Json} :
    textMember? name item = some t ↔ HasText name item t := by
  unfold textMember? HasText
  rw [Option.bind_eq_some_iff]
  constructor
  · rintro ⟨v, hv, ht⟩
    cases v with
    | str u => exact hv.trans (congrArg (some ∘ Json.str) (Option.some.inj ht))
    | _ => cases ht
  · exact fun h => ⟨_, h, rfl⟩

theorem gathers_filterMap {IsTextOf : Json → Text → Prop} {read : Json → Option Text}
    (h : ∀ item t, read item = some t ↔ IsTextOf item t) (items : List Json) :
    Gathers IsTextOf items (items.filterMap read).flatten := by
  induction items with
  | nil => exact .nil
  | cons item items ih =>
      cases hread : read item with
      | none =>
          rw [List.filterMap_cons_none hread]
          exact .other (fun t ht => absurd (hread.symm.trans ((h item t).2 ht)) nofun) ih
      | some t =>
          rw [List.filterMap_cons_some hread]
          exact .text ((h item t).1 hread) ih

theorem first?_eq_some {v : Option Json} {item : Json} (h : first? v = some item) :
    ∃ items, v = some (.arr (item :: items)) := by
  unfold first? at h
  split at h
  · next items =>
      obtain ⟨rest, rfl⟩ := List.head?_eq_some_iff.1 h
      exact ⟨rest, rfl⟩
  · cases h

/-- What is taken out of a reply is found in it, unless it is empty. -/
theorem finds_content (hne : s.content reply ≠ []) : s.Finds reply (s.content reply) := by
  revert hne
  unfold content
  dsimp only
  split
  · split
    · next blocks hblocks =>
        intro _
        refine .blocks hblocks (gathers_filterMap (fun block t => ?_) blocks)
        rw [Option.ite_none_right_eq_some, textMember?_eq_some_iff, textMember?_eq_some_iff]
    · exact absurd rfl
  · split
    · next choice hchoice =>
        obtain ⟨choices, hchoices⟩ := first?_eq_some hchoice
        cases hread : (choice.get? (lit "message")).bind (textMember? "content") with
        | some t =>
            obtain ⟨message, hmessage, ht⟩ := Option.bind_eq_some_iff.1 hread
            exact fun _ => .message hchoices hmessage (textMember?_eq_some_iff.1 ht)
        | none =>
            have hnone (message : Json) (t : Text) (hm : choice.get? (lit "message") = some message)
                (ht : HasText "content" message t) : False := by
              rw [hm, Option.bind_some, textMember?_eq_some_iff.2 ht] at hread
              cases hread
            cases ht : textMember? "text" choice with
            | some t =>
                exact fun _ => .choice hchoices hnone (textMember?_eq_some_iff.1 ht)
            | none => exact absurd rfl
    · exact absurd rfl
  · split
    · next parts hparts =>
        intro _
        obtain ⟨content, hcontent, hparts⟩ := Option.bind_eq_some_iff.1 hparts
        obtain ⟨candidate, hcandidate, hcontent⟩ := Option.bind_eq_some_iff.1 hcontent
        obtain ⟨candidates, hcandidates⟩ := first?_eq_some hcandidate
        exact .parts hcandidates hcontent hparts
          (gathers_filterMap (fun _ _ => textMember?_eq_some_iff) parts)
    · exact absurd rfl
  · exact absurd rfl

/-- The text can be used: it is what the reply has, trimmed, and says something. -/
structure IsUsable (s : Service) (reply : ServiceReply) (t : Text) : Prop where
  found : ∃ bytes text members found, reply = .body bytes ∧ Utf8.decode bytes = .ok text ∧
    Json.parse text = .ok (.obj members) ∧ s.Finds (.obj members) found ∧ t = trim found
  ne_nil : t ≠ []
  noBlankFirst : ∀ c, t.head? = some c → c.isBlank = false
  noBlankLast : ∀ c, t.getLast? = some c → c.isBlank = false

/-- A reply ends with a fault of the generation or with a usable text. -/
def IsAnswered (s : Service) (reply : ServiceReply) (x : Except Failure Text) : Prop :=
  (∃ fault, x = .error (.generation fault)) ∨ ∃ t, x = .ok t ∧ s.IsUsable reply t

theorem isAnswered_neededText {bytes : Bytes} {text : Text} {members : List (Text × Json)}
    (htext : Utf8.decode bytes = .ok text) (hparse : Json.parse text = .ok (.obj members)) :
    s.IsAnswered (.body bytes) (s.neededText (s.content (.obj members))) := by
  unfold neededText
  split
  · exact .inl ⟨_, rfl⟩
  · next hblank =>
      refine .inr ⟨_, rfl, ?_⟩
      have hne : s.content (.obj members) ≠ [] := by
        intro hnil
        rw [hnil] at hblank
        exact hblank rfl
      exact {
        found := ⟨bytes, text, members, _, rfl, htext, hparse, finds_content hne, rfl⟩
        ne_nil := by
          intro hnil
          rw [← isBlank_trim_eq, hnil] at hblank
          exact hblank rfl
        noBlankFirst := fun _ => isBlank_of_head?_trim
        noBlankLast := fun _ => isBlank_of_getLast?_trim }

theorem isAnswered_body {bytes : Bytes} (q : Inquiry)
    (h : ∀ text, Utf8.decode bytes = .ok text → Json.parse text ≠ .error .hugeInteger) :
    s.IsAnswered (.body bytes) (s.text q (.body bytes)) := by
  show s.IsAnswered (.body bytes) (s.object bytes >>= fun reply => s.neededText (s.content reply))
  unfold object
  cases htext : Utf8.decode bytes with
  | error e => exact .inl ⟨_, rfl⟩
  | ok text =>
      dsimp only [Except.map]
      cases hparse : Json.parse text with
      | error fault =>
          cases fault with
          | hugeInteger => exact absurd hparse (h text htext)
          | malformed => exact .inl ⟨_, rfl⟩
      | ok v =>
          cases v with
          | obj members => exact isAnswered_neededText htext hparse
          | null | bool | int | float | str | arr => exact .inl ⟨_, rfl⟩

end Service

/-! ## Questions over HTTP -/

namespace Inquiry

variable {q : Inquiry} {s : Service} {send : Call → ServiceReply}

/-- The time limit has too many digits for a message about it. -/
def HidesTime (q : Inquiry) : Prop := ∃ x, q.timeout = some x ∧ x.toJson.isPrintable = false

/-- What keeps a question over HTTP from being answered. -/
inductive Obstructs (q : Inquiry) (s : Service) (send : Call → ServiceReply) : Prop
  /-- Something keeps it from being asked. -/
  | blocked (hkey : ¬ q.LacksKey s) (h : q.Blocks s)
  /-- The time is over, and the message cannot say how much it was. -/
  | time {call : Call} (hcall : q.call s = .ok call) (hsend : send call = .timedOut)
      (h : q.HidesTime)

/-- A question ends with a fault of the generation or with a usable text of the reply to it. -/
def IsAnswered (q : Inquiry) (s : Service) (send : Call → ServiceReply)
    (x : Except Failure Text) : Prop :=
  (∃ fault, x = .error (.generation fault)) ∨
    ∃ call t, q.call s = .ok call ∧ x = .ok t ∧ s.IsUsable (send call) t

theorem exists_timeoutText (h : ¬ q.HidesTime) : ∃ seconds, q.timeoutText = .ok seconds := by
  unfold timeoutText
  split
  · next x hx =>
      have hshort : x.toJson.isPrintable = true := by
        by_contra hlong
        exact h ⟨x, hx, by simpa using hlong⟩
      exact ⟨_, if_pos hshort⟩
  · exact ⟨_, rfl⟩

theorem text_timedOut_of_hidesTime (h : q.HidesTime) :
    s.text q .timedOut = .error (.data .unreadable) := by
  obtain ⟨x, hx, hlong⟩ := h
  have htime : q.timeoutText = .error (.data .unreadable) := by
    rw [timeoutText, hx]
    exact if_neg (by simp [hlong])
  exact bind_eq_error_iff.2 (.inl htime)

/-- A question that was asked is answered, unless the time is over and cannot be told. -/
theorem isAnswered_text {reply : ServiceReply} (h : reply.IsHttp)
    (htime : reply = .timedOut → ¬ q.HidesTime) : s.IsAnswered reply (s.text q reply) := by
  cases h with
  | body bytes h => exact Service.isAnswered_body q h
  | status | unreachable => exact .inl ⟨_, rfl⟩
  | timedOut =>
      obtain ⟨seconds, hseconds⟩ := exists_timeoutText (htime rfl)
      exact .inl ⟨_, bind_ok hseconds rfl⟩

/-- A question over HTTP is answered just if nothing keeps it from being answered. -/
theorem isAnswered_iff (hs : s ≠ .ollama) (hmodel : ∃ model, Url.quotePath q.model = .ok model)
    {base : Text} (hbase : Url.HasScheme base)
    (hq : q.baseUrl.getD [] = trimRightBy (CodePoint.is '/') base)
    (hsend : ∀ call, (send call).IsHttp) {result : Except Failure Text}
    (hresult : result = q.call s >>= fun call => s.text q (send call)) :
    (q.IsAnswered s send result ↔ ¬ q.Obstructs s send) ∧
      (q.Obstructs s send → result = .error (.data .unreadable)) := by
  have hobstructs (h : q.Obstructs s send) : result = .error (.data .unreadable) := by
    cases h with
    | blocked hkey h =>
        rw [hresult]
        exact bind_eq_error_iff.2 (.inl (call_of_blocks hs hkey hmodel hbase hq h))
    | time hcall hsend h =>
        rw [hresult, hcall, ok_bind, hsend]
        exact text_timedOut_of_hidesTime h
  refine ⟨⟨fun hanswered h => ?_, fun h => ?_⟩, hobstructs⟩
  · rw [hobstructs h] at hanswered
    rcases hanswered with ⟨fault, hfault⟩ | ⟨call, t, -, ht, -⟩
    · exact absurd hfault nofun
    · exact absurd ht nofun
  · by_cases hkey : q.LacksKey s
    · have hcall := (call_eq_noApiKey_iff q s s.label).2 ⟨rfl, hkey⟩
      exact .inl ⟨_, hresult.trans (bind_eq_error_iff.2 (.inl hcall))⟩
    · obtain ⟨call, hcall⟩ :=
        (exists_call_iff hs hkey hmodel hbase hq).1.2 fun hblocks => h (.blocked hkey hblocks)
      rw [hcall, ok_bind] at hresult
      have hanswered : s.IsAnswered (send call) (s.text q (send call)) :=
        isAnswered_text (hsend call) fun htime hhides => h (.time hcall htime hhides)
      rw [hresult]
      exact hanswered.imp_right fun ⟨t, ht, husable⟩ => ⟨call, t, hcall, ht, husable⟩

end Inquiry

/-! ## Services with their options -/

/-- The texts in the options are such that a service can be reached over HTTP. -/
structure ServiceOptions.IsReachable (o : ServiceOptions) : Prop where
  model : ∀ model, o.model = some model → model.isEncodable = true
  baseUrl : ∀ base, o.baseUrl = some base → base ≠ [] → Url.HasScheme base

namespace Service

variable {s : Service} {o : ServiceOptions}

/-- What holds of the default, and of a text that is given, holds of the one that is taken. -/
theorem orDefault_ind {P : Text → Prop} {given : Option Text} {default : Text}
    (hgiven : ∀ t, given = some t → t ≠ [] → P t) (hdefault : P default) :
    P (orDefault given default) := by
  unfold orDefault
  split
  · exact hgiven _ rfl nofun
  · exact hdefault

theorem hasScheme_defaultUrl (h : s ≠ .ollama) : Url.HasScheme s.defaultUrl := by
  cases s with
  | ollama => exact absurd rfl h
  | anthropic => exact ⟨'h', lit "ttps", lit "//api.anthropic.com", by decide, by decide, by decide⟩
  | openai => exact ⟨'h', lit "ttps", lit "//api.openai.com/v1", by decide, by decide, by decide⟩
  | google =>
      exact ⟨'h', lit "ttps", lit "//generativelanguage.googleapis.com/v1beta", by decide,
        by decide, by decide⟩

theorem exists_quotePath_writer (ho : o.IsReachable) :
    ∃ model, Url.quotePath (s.writer o).model = .ok model := by
  have hencodable : (s.writer o).model.isEncodable = true := by
    have htaken : (orDefault o.model s.defaultModel).isEncodable = true :=
      orDefault_ind (P := fun t => t.isEncodable = true) (fun t ht _ => ho.model t ht)
        (by cases s <;> decide)
    cases s <;> exact htaken
  rw [Url.quotePath, show Text.toUtf8? _ = some _ from if_pos hencodable]
  exact ⟨_, rfl⟩

theorem exists_baseUrl_writer (hs : s ≠ .ollama) (ho : o.IsReachable) :
    ∃ base, Url.HasScheme base ∧ (s.writer o).baseUrl = trimRightBy (CodePoint.is '/') base := by
  refine ⟨orDefault o.baseUrl s.defaultUrl,
    orDefault_ind ho.baseUrl (hasScheme_defaultUrl hs), ?_⟩
  cases s with
  | ollama => exact absurd rfl hs
  | anthropic | openai | google => rfl

end Service

namespace Backend

/-- Whatever comes back over HTTP, a prompt is answered just if nothing obstructs the question; an
obstructed one is a failure of another kind. -/
theorem isAnswered_author_iff {s : Service} (hs : s ≠ .ollama) {o : ServiceOptions}
    (ho : o.IsReachable) {send : Call → ServiceReply} (hsend : ∀ call, (send call).IsHttp)
    (limit : Option ℤ) (prompt : Text) :
    let q := (s.writer o).inquiry prompt limit
    let result := (Backend.service (s.writer o)).author send limit prompt
    (q.IsAnswered s send result ↔ ¬ q.Obstructs s send) ∧
      (q.Obstructs s send → result = .error (.data .unreadable)) := by
  intro q result
  obtain ⟨base, hbase, hwriter⟩ := Service.exists_baseUrl_writer hs ho
  have hmodel : ∃ model, Url.quotePath q.model = .ok model := by
    have hsame : q.model = (s.writer o).model := by cases s <;> rfl
    rw [hsame]
    exact Service.exists_quotePath_writer ho
  have hq : q.baseUrl.getD [] = trimRightBy (CodePoint.is '/') base := by
    rw [← hwriter]
    cases s with
    | ollama => exact absurd rfl hs
    | anthropic | openai | google => rfl
  refine q.isAnswered_iff hs hmodel hbase hq hsend ?_
  show (q.call (s.writer o).service >>= fun call => (s.writer o).service.text q (send call)) = _
  rw [Service.service_writer]

/-- A reply with its text in two of three blocks. -/
def splitReply : Text :=
  lit "\x7b\"content\": [\x7b\"type\": \"text\", \"text\": \" Hi\"\x7d, 3, " ++
    lit "\x7b\"type\": \"text\", \"text\": \" all\\n\"\x7d]\x7d"

/-- Options with a key and an address. -/
def addressedOptions (base : Text) : ServiceOptions where
  apiKey := some (lit "k-1")
  baseUrl := some base

theorem isReachable_addressedOptions {base : Text} (h : Url.HasScheme base) :
    (addressedOptions base).IsReachable where
  model := nofun
  baseUrl := by
    rintro _ ⟨⟩ -
    exact h

/-- What the service sends, with the reply as its body. -/
def sendSplit (_ : Call) : ServiceReply := .body (splitReply.flatMap CodePoint.utf8)

theorem isHttp_sendSplit (call : Call) : (sendSplit call).IsHttp := by
  refine .body _ fun text htext hhuge => ?_
  have hencode : splitReply.toUtf8? = some (splitReply.flatMap CodePoint.utf8) :=
    if_pos (by decide)
  obtain rfl := Except.ok.inj ((decode_toUtf8? hencode).symm.trans htext)
  exact absurd (Json.lt_length_of_parse hhuge) (by decide +kernel)

/-- The two texts are put together and trimmed. -/
theorem isAnswered_author_splitReply :
    let o := addressedOptions (lit "https://h/")
    let w := Service.anthropic.writer o
    let result := (Backend.service w).author sendSplit none (lit "Hello?")
    o.IsReachable ∧ (∀ call, (sendSplit call).IsHttp) ∧ result = .ok (lit "Hi all") ∧
      (w.inquiry (lit "Hello?") none).IsAnswered .anthropic sendSplit result := by
  intro o w result
  have ho : o.IsReachable :=
    isReachable_addressedOptions ⟨'h', lit "ttps", lit "//h/", by decide, by decide, by decide⟩
  have hresult : result = .ok (lit "Hi all") := Except.toOption_eq_some_iff.1 (by decide +kernel)
  obtain ⟨hanswered, hobstructs⟩ :=
    isAnswered_author_iff (s := .anthropic) nofun ho isHttp_sendSplit none (lit "Hello?")
  refine ⟨ho, isHttp_sendSplit, hresult, hanswered.2 fun h => ?_⟩
  exact absurd (hresult.symm.trans (hobstructs h)) nofun

/-- A host with an open bracket keeps the question from being asked, whatever would be sent. -/
theorem not_isAnswered_openBracket : (addressedOptions (lit "http://[x")).IsReachable ∧
    ∀ send, let w := Service.openai.writer (addressedOptions (lit "http://[x"))
      (Backend.service w).author send none (lit "Hi") = .error (.data .unreadable) ∧
        ¬ (w.inquiry (lit "Hi") none).IsAnswered .openai send
          ((Backend.service w).author send none (lit "Hi")) := by
  have hbase : Url.HasScheme (lit "http://[x") :=
    ⟨'h', lit "ttp", lit "//[x", by decide, by decide, by decide⟩
  have ho := isReachable_addressedOptions hbase
  refine ⟨ho, fun send => ?_⟩
  intro w
  have hblocks : (w.inquiry (lit "Hi") none).Blocks .openai := .host .openai (by decide +kernel)
  have hcall : (w.inquiry (lit "Hi") none).call .openai = .error (.data .unreadable) :=
    Inquiry.call_of_blocks nofun (fun h => absurd h.1 (by decide))
      (Service.exists_quotePath_writer ho) hbase rfl hblocks
  have hresult : (Backend.service w).author send none (lit "Hi") = .error (.data .unreadable) :=
    bind_eq_error_iff.2 (.inl hcall)
  refine ⟨hresult, ?_⟩
  rw [hresult]
  rintro (⟨fault, hfault⟩ | ⟨call, t, -, ht, -⟩)
  · exact absurd hfault nofun
  · exact absurd ht nofun

end Backend

end HelpCenter

import HelpCenter.Generation.Offline
import HelpCenter.Generation.Prompt
import HelpCenter.Proofs.Article.Plan
import HelpCenter.Proofs.Generation.Reply
import HelpCenter.Proofs.Json.Normal
import HelpCenter.Proofs.Text.Case

/-!
# What the offline writer reads in a prompt

The offline writer finds in a prompt what was put into it: the article that is read from its reply
has the name of the topic as its title, and lists the pages and the first texts that the prompt
shows (`Offline.draft_reply`).

Neither a page nor a text nor the words that ask for an article go over the end of a line, so a
prompt is looked at line by line (`Shows`).
-/

namespace HelpCenter

open Text Except

namespace Offline

variable {s t line topic : Text}

/-! ## Lines -/

/-- The words that ask for an article. -/
def request : Text := lit "Generate a help article for:"

/-- The words that ask for an article and the quote in front of its topic. -/
def opening : Text := request ++ lit " \""

/-- The text asks for an article. -/
def Asks (t : Text) : Prop := opening <:+: t

instance (t : Text) : Decidable (Asks t) := inferInstanceAs (Decidable (opening <:+: t))

/-- A text that can be part of a line that does not ask for an article. -/
structure IsInline (t : Text) : Prop where
  oneLine : ('\n' : CodePoint) ∉ t
  noRequest : ¬ request <:+: t

instance (t : Text) : Decidable (IsInline t) :=
  decidable_of_iff (('\n' : CodePoint) ∉ t ∧ ¬ request <:+: t)
    ⟨fun h => ⟨h.1, h.2⟩, fun h => ⟨h.1, h.2⟩⟩

theorem request_of_asks (h : Asks t) : request <:+: t :=
  (List.prefix_append request (lit " \"")).isInfix.trans h

theorem IsInline.not_asks (h : IsInline t) : ¬ Asks t :=
  fun hasks => h.noRequest (request_of_asks hasks)

theorem asks_of_append_left (hs : ('G' : CodePoint) ∉ s) (h : Asks (s ++ t)) : Asks t :=
  infix_of_append_left (w := opening.tail) hs h

theorem asks_of_append_right (ht : ('"' : CodePoint) ∉ t) (h : Asks (s ++ t)) : Asks s :=
  infix_of_append_right (w := opening.dropLast) ht h

theorem request_of_append_right (ht : (':' : CodePoint) ∉ t) (h : Asks (s ++ t)) :
    request <:+: s :=
  infix_of_append_right (w := request.dropLast) ht (request_of_asks h)

theorem asks_of_append_cons {c : CodePoint} (hc : c ∉ opening) (h : Asks (s ++ c :: t)) :
    Asks s ∨ Asks t :=
  infix_or_infix_of_append_cons hc h

/-- The lines show just these pages and texts, and none of them asks for an article. -/
structure Shows (lines : List Text) (paths texts : List Text) : Prop where
  oneLine : ∀ line ∈ lines, ('\n' : CodePoint) ∉ line
  not_asks : ∀ line ∈ lines, ¬ Asks line
  paths : lines.filterMap page? = paths
  texts : lines.filterMap uiText? = texts

namespace Shows

variable {lines lines' paths paths' texts texts' : List Text}

theorem nil : Shows [] [] [] := ⟨nofun, nofun, rfl, rfl⟩

theorem append (h : Shows lines paths texts) (h' : Shows lines' paths' texts') :
    Shows (lines ++ lines') (paths ++ paths') (texts ++ texts') where
  oneLine := List.forall_mem_append.2 ⟨h.oneLine, h'.oneLine⟩
  not_asks := List.forall_mem_append.2 ⟨h.not_asks, h'.not_asks⟩
  paths := by rw [List.filterMap_append, h.paths, h'.paths]
  texts := by rw [List.filterMap_append, h.texts, h'.texts]

theorem flatMap {α : Type} {lines paths texts : α → List Text} {xs : List α}
    (h : ∀ x ∈ xs, Shows (lines x) (paths x) (texts x)) :
    Shows (xs.flatMap lines) (xs.flatMap paths) (xs.flatMap texts) := by
  induction xs with
  | nil => exact nil
  | cons x xs ih =>
      obtain ⟨hx, hxs⟩ := List.forall_mem_cons.1 h
      exact hx.append (ih hxs)

theorem map {α : Type} {line : α → Text} {texts : α → List Text} {xs : List α}
    (h : ∀ x ∈ xs, Shows [line x] [] (texts x)) : Shows (xs.map line) [] (xs.flatMap texts) := by
  have hall := flatMap h
  rwa [← List.map_eq_flatMap, List.flatMap_eq_nil_iff.2 fun _ _ => rfl] at hall

/-- One more line in front that shows nothing. -/
theorem cons (hline : ('\n' : CodePoint) ∉ line) (hasks : ¬ Asks line)
    (hpage : page? line = none) (htext : uiText? line = none) (h : Shows lines paths texts) :
    Shows (line :: lines) paths texts where
  oneLine := List.forall_mem_cons.2 ⟨hline, h.oneLine⟩
  not_asks := List.forall_mem_cons.2 ⟨hasks, h.not_asks⟩
  paths := by rw [List.filterMap_cons_none hpage, h.paths]
  texts := by rw [List.filterMap_cons_none htext, h.texts]

end Shows

/-! ## What is told about a feature -/

theorem uiText?_eq_some {kind value : Text} (hkind : kind ≠ [])
    (hword : ∀ c ∈ kind, c.isWord = true) (hvalue : value ≠ []) :
    uiText? (lit "      - [" ++ kind ++ lit "] \"" ++ value ++ lit "\"") = some value := by
  have htake : (kind ++ (lit "] \"" ++ (value ++ lit "\""))).takeWhile CodePoint.isWord = kind := by
    rw [List.takeWhile_append_of_pos hword]
    show kind ++ List.takeWhile CodePoint.isWord ((']' : CodePoint) :: _) = kind
    rw [List.takeWhile_cons_of_neg (by decide +kernel), List.append_nil]
  have hlength : 2 ≤ (value ++ lit "\"").length := by
    rw [List.length_append]
    exact Nat.succ_le_succ (List.length_pos_iff.2 hvalue)
  simp only [uiText?, List.append_assoc, afterPrefix?_append, Option.bind_eq_bind,
    Option.bind_some, htake, List.drop_left]
  rw [Option.ite_none_right_eq_some]
  refine ⟨?_, congrArg some List.dropLast_concat⟩
  simp only [Bool.and_eq_true, decide_eq_true_eq]
  exact ⟨⟨by simpa using hkind, hlength⟩, List.getLast?_concat ..⟩

theorem shows_uiText {kind value : Text} (hkind : kind ≠ [])
    (hword : ∀ c ∈ kind, c.isWord = true) (hvalue : value ≠ []) (h : IsInline value) :
    Shows [lit "      - [" ++ kind ++ lit "] \"" ++ value ++ lit "\""] [] [value] := by
  have hnotMem {c : CodePoint} (hc : c.isWord = false) : c ∉ kind :=
    fun hmem => absurd ((hword c hmem).symm.trans hc) nofun
  refine ⟨List.forall_mem_singleton.2 ?_, List.forall_mem_singleton.2 fun hasks => ?_, rfl, ?_⟩
  · simp only [List.mem_append, not_or]
    exact ⟨⟨⟨⟨by decide, hnotMem (by decide +kernel)⟩, by decide⟩, h.oneLine⟩, by decide⟩
  · rw [List.append_assoc, List.append_assoc, List.append_assoc] at hasks
    have hasks := asks_of_append_left (by decide) hasks
    rcases asks_of_append_cons (c := ']') (t := lit " \"" ++ (value ++ lit "\"")) (by decide)
      hasks with hasks | hasks
    · exact absurd ((request_of_asks hasks).subset (by decide : (':' : CodePoint) ∈ request))
        (hnotMem (by decide +kernel))
    · have hasks := asks_of_append_left (by decide) hasks
      exact h.noRequest (request_of_append_right (by decide) hasks)
  · rw [List.filterMap_cons_some (uiText?_eq_some hkind hword hvalue), List.filterMap_nil]

theorem shows_path {path : Text} (h : IsInline path) (hslash : path.head? = some '/')
    (hblank : path.any CodePoint.isBlank = false) : Shows [lit "  - " ++ path] [path] [] := by
  refine ⟨List.forall_mem_singleton.2 ?_, List.forall_mem_singleton.2 fun hasks => ?_, ?_, rfl⟩
  · rw [List.mem_append, not_or]
    exact ⟨by decide, h.oneLine⟩
  · exact h.not_asks (asks_of_append_left (by decide) hasks)
  · have hpage : page? (lit "  - " ++ path) = some path := by
      simp only [page?, afterPrefix?_append, Option.bind_eq_bind, Option.bind_some]
      rw [if_pos (by simp [hslash, hblank])]
    rw [List.filterMap_cons_some hpage, List.filterMap_nil]

theorem shows_evidence {pattern file place : Text} (hpattern : IsInline pattern)
    (hfile : IsInline file) (hplace : ∀ c ∈ place, c ≠ '\n' ∧ c ≠ '"') :
    Shows [lit "  - " ++ pattern ++ lit " (" ++ file ++ lit ":" ++ place ++ lit ")"] [] [] := by
  refine .cons ?_ (fun hasks => ?_) ?_ rfl .nil
  · simp only [List.mem_append, not_or]
    exact ⟨⟨⟨⟨⟨⟨by decide, hpattern.oneLine⟩, by decide⟩, hfile.oneLine⟩, by decide⟩,
      fun hmem => (hplace _ hmem).1 rfl⟩, by decide⟩
  · have hparts : lit "  - " ++ pattern ++ lit " (" ++ file ++ lit ":" ++ place ++ lit ")" =
        lit "  - " ++ ((pattern ++ lit " ") ++ ('(' : CodePoint) ::
          (file ++ (lit ":" ++ place ++ lit ")"))) := by
      simp [Text.ofString]
    rw [hparts] at hasks
    rcases asks_of_append_cons (by decide) (asks_of_append_left (by decide) hasks) with h | h
    · exact hpattern.not_asks (asks_of_append_right (by decide) h)
    · refine hfile.not_asks (asks_of_append_right ?_ h)
      simp only [List.mem_append, not_or]
      exact ⟨⟨by decide, fun hmem => (hplace _ hmem).2 rfl⟩, by decide⟩
  · have hblank : (pattern ++ (lit " (" ++ (file ++ (lit ":" ++ (place ++ lit ")"))))).any
        CodePoint.isBlank = true := by
      rw [List.any_append, List.any_append, show (lit " (").any CodePoint.isBlank = true by decide]
      simp
    simp only [page?, List.append_assoc, afterPrefix?_append, Option.bind_eq_bind,
      Option.bind_some, hblank]
    simp

end Offline

/-- The texts of a page that the writer is told. -/
def Page.shownTexts (p : Page) : List Text := (p.strings.take 10).map (·.value)

namespace Offline

/-- What a page must be like for its lines to be read: its path is one, each kind of text is a
word, and no text is empty. -/
structure IsReadable (p : Page) : Prop where
  slash : p.path.head? = some '/'
  noBlank : p.path.any CodePoint.isBlank = false
  kind : ∀ s ∈ p.strings, s.kind ≠ [] ∧ ∀ c ∈ s.kind, c.isWord = true
  value : ∀ s ∈ p.strings, s.value ≠ []

instance (p : Page) : Decidable (IsReadable p) :=
  decidable_of_iff (p.path.head? = some '/' ∧ p.path.any CodePoint.isBlank = false ∧
      (∀ s ∈ p.strings, s.kind ≠ [] ∧ ∀ c ∈ s.kind, c.isWord = true) ∧
      ∀ s ∈ p.strings, s.value ≠ [])
    ⟨fun h => ⟨h.1, h.2.1, h.2.2.1, h.2.2.2⟩, fun h => ⟨h.1, h.2, h.3, h.4⟩⟩

theorem shows_page {p : Page} (h : IsReadable p) (hpath : IsInline p.path)
    (hvalue : ∀ s ∈ p.strings, IsInline s.value) :
    Shows p.contextLines [p.path] p.shownTexts := by
  have htexts : Shows ((p.strings.take Page.maxTexts).map fun s =>
      lit "      - [" ++ s.kind ++ lit "] \"" ++ s.value ++ lit "\"") [] p.shownTexts := by
    have hall := Shows.map fun s (hs : s ∈ p.strings.take Page.maxTexts) =>
      have hs := List.mem_of_mem_take hs
      shows_uiText (h.kind s hs).1 (h.kind s hs).2 (h.value s hs) (hvalue s hs)
    rwa [← List.map_eq_flatMap] at hall
  have hrest : Shows (if (p.strings.take Page.maxTexts).isEmpty then [] else
      lit "    UI Elements:" :: (p.strings.take Page.maxTexts).map fun s =>
        lit "      - [" ++ s.kind ++ lit "] \"" ++ s.value ++ lit "\"") [] p.shownTexts := by
    split
    · next hempty =>
      have hnone : p.shownTexts = [] := congrArg (List.map _) (List.isEmpty_iff.1 hempty)
      rw [hnone]
      exact .nil
    · exact .cons (by decide) (by decide +kernel) rfl rfl htexts
  exact (shows_path hpath h.slash h.noBlank).append hrest

/-- No number has a line feed or a quote. -/
theorem holdsInNumbers_inline : HoldsInNumbers fun c => c ≠ '\n' ∧ c ≠ '"' where
  digit c hc := by
    constructor <;>
    · rintro rfl
      exact absurd hc (by decide)
  sign := by decide

theorem shows_frontLines {f : Feature} (h : IsInline f.id) : Shows f.frontLines [] [] := by
  have hconfidence : ∀ c ∈ f.confidence.toDouble.toGeneralText 6, c ≠ '\n' ∧ c ≠ '"' :=
    holdsInNumbers_inline.toGeneralText (by decide) 6 _
  refine .cons ?_ ?_ rfl rfl (.cons ?_ ?_ rfl rfl (.cons (by decide) (by decide) rfl rfl .nil))
  · rw [List.mem_append, not_or]
    exact ⟨by decide, h.oneLine⟩
  · exact fun hasks => h.not_asks (asks_of_append_left (by decide) hasks)
  · rw [List.mem_append, not_or]
    exact ⟨by decide, fun hmem => (hconfidence _ hmem).1 rfl⟩
  · intro hasks
    refine (hconfidence _ ?_).2 rfl
    exact (asks_of_append_left (by decide) hasks).subset (by decide)

theorem shows_evidenceLines {f : Feature}
    (h : ∀ e ∈ f.evidence, IsInline e.pattern ∧ IsInline e.sourceFile) :
    Shows f.evidenceLines [] [] := by
  have hall := Shows.map fun e (he : e ∈ f.evidence.take Feature.maxSnippets) =>
    have hinline := h e (List.mem_of_mem_take he)
    shows_evidence hinline.1 hinline.2 (holdsInNumbers_inline.ofInt e.line)
  rwa [List.flatMap_eq_nil_iff.2 fun _ _ => rfl] at hall

/-! ## Prompts -/

/-- The lines of a prompt in front of the one that asks for an article. -/
def frontLines (product : Text) (told : List Text) : List Text :=
  [lit "You are generating user support documentation for \"" ++ product ++ lit "\".", [],
    lit "Context from the codebase:"] ++ told ++ [[]]

/-- The line that asks for an article on a topic. -/
def requestLine (name : Text) : Text := opening ++ name ++ lit "\""

/-- The lines behind the one that asks for an article. -/
def backLines (guidance : Text) : List Text :=
  (if guidance.isEmpty then [] else [[], lit "Topic guidance:", guidance]) ++
    splitOn '\n' requirements

theorem backLines_ne_nil (guidance : Text) : backLines guidance ≠ [] :=
  List.append_ne_nil_of_right_ne_nil _ (splitOn_ne_nil _ _)

/-- A prompt line by line. -/
theorem prompt_eq (c : Catalog) (product id : Text) {told : List Text} (htold : told ≠ []) :
    c.prompt product id (joinWith (lit "\n") told) = joinWith (lit "\n")
      (frontLines product told ++ requestLine (c.displayName id) :: backLines (c.guidance id)) := by
  have hback : joinWith (lit "\n") (backLines (c.guidance id)) =
      (if (c.guidance id).isEmpty then [] else
        lit "\nTopic guidance:\n" ++ c.guidance id ++ lit "\n") ++ requirements := by
    have hrequirements : joinWith (lit "\n") (splitOn '\n' requirements) = requirements :=
      joinWith_splitOn '\n' requirements
    unfold backLines
    split
    · exact hrequirements
    · rw [joinWith_append (List.cons_ne_nil _ _) (splitOn_ne_nil _ _), hrequirements]
      simp only [joinWith, List.append_assoc]
      rfl
  rw [joinWith_append (by simp [frontLines]) (List.cons_ne_nil _ _),
    joinWith_cons (backLines_ne_nil _), hback, frontLines,
    joinWith_append (by simp) (List.cons_ne_nil _ _), joinWith_append (List.cons_ne_nil _ _) htold]
  unfold Catalog.prompt
  simp only [joinWith, requestLine, List.append_assoc]
  rfl

theorem topicHere?_eq_none (h : ¬ opening <+: t) : topicHere? t = none := by
  have hnone : afterPrefix? (lit "Generate a help article for: \"") t = none :=
    Option.eq_none_iff_forall_ne_some.2 fun rest hrest =>
      h ⟨rest, (eq_append_of_afterPrefix? hrest).symm⟩
  rw [topicHere?, hnone]
  rfl

/-- Lines that do not ask for an article are passed over. -/
theorem topic?_append (hs : ¬ Asks s) (t : Text) :
    topic? (s ++ ('\n' : CodePoint) :: t) = topic? t := by
  induction s with
  | nil => rfl
  | cons c s ih =>
      have hhere : topicHere? (c :: s ++ ('\n' : CodePoint) :: t) = none :=
        topicHere?_eq_none fun h => hs (prefix_of_prefix_append_cons (by decide) h).isInfix
      have hrest : ¬ Asks s := fun h => hs (List.infix_cons h)
      rw [List.cons_append] at hhere ⊢
      rw [topic?, hhere, Option.none_or, ih hrest]

theorem topic?_request (hne : topic ≠ []) (hquote : ('"' : CodePoint) ∉ topic) (rest : Text) :
    topic? (requestLine topic ++ rest) = some topic := by
  have htake : (topic ++ (lit "\"" ++ rest)).takeWhile (fun d => !d.is '"') = topic := by
    rw [List.takeWhile_append_of_pos]
    · show topic ++ List.takeWhile _ (('"' : CodePoint) :: rest) = topic
      rw [List.takeWhile_cons_of_neg (by decide), List.append_nil]
    · intro d hd
      have hne : d ≠ '"' := fun h => hquote (h ▸ hd)
      simpa [CodePoint.is] using hne
  have hhere : topicHere? (requestLine topic ++ rest) = some topic := by
    have hafter : afterPrefix? (lit "Generate a help article for: \"") (requestLine topic ++ rest) =
        some (topic ++ (lit "\"" ++ rest)) := by
      rw [requestLine, List.append_assoc, List.append_assoc]
      exact afterPrefix?_append opening _
    rw [topicHere?, hafter, Option.bind_eq_bind, Option.bind_some, htake, if_neg]
    simp [hne, Text.ofString]
  obtain ⟨c, t, hct⟩ : ∃ c t, requestLine topic ++ rest = c :: t := ⟨_, _, rfl⟩
  rw [hct] at hhere ⊢
  rw [topic?, hhere, Option.some_or]

section Reading

variable {product name guidance : Text} {told paths texts : List Text}

theorem shows_front (hproduct : IsInline product) (h : Shows told paths texts) :
    Shows (frontLines product told) paths texts := by
  have hblank : Shows [[]] [] [] := .cons (by decide) (by decide) rfl rfl .nil
  have htold := h.append hblank
  rw [List.append_nil, List.append_nil] at htold
  rw [frontLines, List.append_assoc]
  refine .cons ?_ (fun hasks => ?_) rfl rfl
    (.cons (by decide) (by decide) rfl rfl (.cons (by decide) (by decide +kernel) rfl rfl htold))
  · simp only [List.mem_append, not_or]
    exact ⟨⟨by decide, hproduct.oneLine⟩, by decide⟩
  · rw [List.append_assoc] at hasks
    exact hproduct.noRequest (request_of_append_right (by decide)
      (asks_of_append_left (by decide) hasks))

theorem shows_back (hguidance : IsInline guidance) (hpage : page? guidance = none)
    (htext : uiText? guidance = none) : Shows (backLines guidance) [] [] := by
  have hrequirements : Shows (splitOn '\n' requirements) [] [] :=
    ⟨by decide +kernel, by decide +kernel, by decide +kernel, by decide +kernel⟩
  have hlines : Shows (if guidance.isEmpty then [] else [[], lit "Topic guidance:", guidance])
      [] [] := by
    split
    · exact .nil
    · exact .cons (by decide) (by decide) rfl rfl (.cons (by decide) (by decide) rfl rfl
        (.cons hguidance.oneLine hguidance.not_asks hpage htext .nil))
  exact hlines.append hrequirements

/-- In front of the request nothing asks for an article, and behind it nothing is shown. -/
theorem read_prompt {front back : List Text} (hfront : Shows front paths texts)
    (hne : front ≠ []) (hback : Shows back [] []) (hbackne : back ≠ []) (hname : name ≠ [])
    (hquote : ('"' : CodePoint) ∉ name) (hline : ('\n' : CodePoint) ∉ name) :
    let prompt := joinWith (lit "\n") (front ++ requestLine name :: back)
    topic? prompt = some name ∧ (splitOn '\n' prompt).filterMap page? = paths ∧
      (splitOn '\n' prompt).filterMap uiText? = texts := by
  have hrequest : ('\n' : CodePoint) ∉ requestLine name := by
    simp only [requestLine, List.mem_append, not_or]
    exact ⟨⟨by decide, hline⟩, by decide⟩
  have hall : ∀ line ∈ front ++ requestLine name :: back, ('\n' : CodePoint) ∉ line :=
    List.forall_mem_append.2
      ⟨hfront.oneLine, List.forall_mem_cons.2 ⟨hrequest, hback.oneLine⟩⟩
  have hsplit : splitOn '\n' (joinWith (lit "\n") (front ++ requestLine name :: back)) =
      front ++ requestLine name :: back :=
    splitOn_joinWith (by simp) hall
  have hasks : ¬ Asks (joinWith (lit "\n") front) := by
    intro h
    obtain ⟨line, hline, h⟩ := exists_infix_of_joinWith (c := '\n') (by decide) (by decide) h
    exact hfront.not_asks line hline h
  refine ⟨?_, ?_, ?_⟩
  · rw [joinWith_append hne (List.cons_ne_nil _ _), joinWith_cons hbackne, List.append_assoc,
      List.append_assoc]
    exact (topic?_append hasks _).trans (topic?_request hname hquote _)
  · rw [hsplit, List.filterMap_append, hfront.paths,
      List.filterMap_cons_none (show page? (requestLine name) = none from rfl), hback.paths,
      List.append_nil]
  · rw [hsplit, List.filterMap_append, hfront.texts,
      List.filterMap_cons_none (show uiText? (requestLine name) = none from rfl), hback.texts,
      List.append_nil]

end Reading

/-! ## The article -/

/-- The items of the lists in an article. -/
def listItems (content : Text) : List Text :=
  (splitOn '\n' content).filterMap (afterPrefix? (lit "- "))

section Article

variable {pages texts : List Text}

theorem filterMap_part {heading : String} (h : afterPrefix? (lit "- ") (lit heading) = none)
    (items : List Text) : (part heading items).filterMap (afterPrefix? (lit "- ")) = items := by
  unfold part
  split
  · next hempty =>
    rw [List.isEmpty_iff.1 hempty]
    rfl
  · rw [List.cons_append, List.cons_append, List.cons_append, List.filterMap_cons_none rfl,
      List.filterMap_cons_none h, List.filterMap_cons_none rfl, List.nil_append,
      List.filterMap_map]
    have hitem (t : Text) : afterPrefix? (lit "- ") (lit "- " ++ t) = some t :=
      afterPrefix?_append (lit "- ") t
    exact (List.filterMap_congr fun t _ => hitem t).trans List.filterMap_some

theorem forall_mem_part {P : Text → Prop} {heading : String} {items : List Text} (hnil : P [])
    (hheading : P (lit heading)) (hitems : ∀ t ∈ items, P (lit "- " ++ t)) :
    ∀ line ∈ part heading items, P line := by
  unfold part
  split
  · exact List.forall_mem_nil _
  · exact List.forall_mem_append.2
      ⟨by simp [hnil, hheading], List.forall_mem_map.2 hitems⟩

/-- What holds of the words of an article and of everything it is made of holds of its lines. -/
theorem forall_mem_contentLines {P : Text → Prop} (happend : ∀ s t, P s → P t → P (s ++ t))
    (hwords : ∀ s ∈ ["", "# ", "This article explains how to use ", ".", "## Where to find it", "`",
      "## What you will see", "- "], P (lit s))
    (htitle : P (capitalize topic)) (htopic : P topic) (hpages : ∀ p ∈ pages, P p)
    (htexts : ∀ t ∈ texts, P t) : ∀ line ∈ contentLines topic pages texts, P line := by
  simp only [List.forall_mem_cons] at hwords
  obtain ⟨hnil, hmark, hintro, hpoint, hplaces, htick, hseen, hdash, -⟩ := hwords
  refine List.forall_mem_append.2 ⟨List.forall_mem_append.2 ⟨?_, ?_⟩, ?_⟩
  · simp only [List.forall_mem_cons]
    exact ⟨happend _ _ hmark htitle, hnil, happend _ _ (happend _ _ hintro htopic) hpoint,
      List.forall_mem_nil _⟩
  · exact forall_mem_part hnil hplaces (List.forall_mem_map.2 fun p hp =>
      happend _ _ hdash (happend _ _ (happend _ _ htick (hpages p hp)) htick))
  · exact forall_mem_part hnil hseen fun t ht => happend _ _ hdash (htexts t ht)

/-- What the article lists are the pages and the texts. -/
theorem listItems_contentLines (htopic : ('\n' : CodePoint) ∉ topic)
    (hpages : ∀ p ∈ pages, ('\n' : CodePoint) ∉ p)
    (htexts : ∀ t ∈ texts, ('\n' : CodePoint) ∉ t) :
    listItems (joinWith (lit "\n") (contentLines topic pages texts)) =
      pages.map (fun p => lit "`" ++ p ++ lit "`") ++ texts := by
  have hall : ∀ line ∈ contentLines topic pages texts, ('\n' : CodePoint) ∉ line :=
    forall_mem_contentLines (fun s t hs ht => by simpa [hs] using ht) (by decide)
      ((recased_capitalize topic).notMem (by decide) htopic) htopic hpages htexts
  have hlines : splitOn '\n' (joinWith (lit "\n") (contentLines topic pages texts)) =
      contentLines topic pages texts := splitOn_joinWith (by simp [contentLines]) hall
  rw [listItems, hlines, contentLines, List.filterMap_append, List.filterMap_append,
    filterMap_part rfl, filterMap_part rfl]
  rfl

/-- The members of the object that an article is written as. -/
def fields (d : Draft) : List (String × Json) :=
  [("title", .str d.title), ("pages", .ofTexts d.pages), ("content", .str d.content)]

/-- An article that is printed as an object on one line is read back. -/
theorem draft_print {d : Draft} (hd : Reply.IsFilled d) (htitle : d.title.isEncodable = true)
    (hpages : ∀ p ∈ d.pages, p.isEncodable = true) (hcontent : d.content.isEncodable = true)
    (fallback : Text) : Reply.draft (Json.print (.ofFields (fields d))) fallback = .ok d := by
  have hprintable : (Json.ofFields (fields d)).isPrintable = true :=
    Json.isPrintable_ofFields.2
      (by simp [fields, Json.isPrintable, Json.ofTexts, Json.allPrintable_texts])
  have hnormal : Json.IsNormal (.ofFields (fields d)) := by
    refine Json.isNormal_ofFields (by simp [fields]) ?_
    simp only [fields, List.forall_mem_cons]
    exact ⟨Json.isNormal_str htitle,
      Json.isNormal_arr (List.forall_mem_map.2 fun p hp => Json.isNormal_str (hpages p hp)),
      Json.isNormal_str hcontent, List.forall_mem_nil _⟩
  have hparse := Json.parse_print hprintable
  rw [hnormal] at hparse
  have htrim : trim (Json.print (.ofFields (fields d))) = Json.print (.ofFields (fields d)) :=
    trim_eq_self (show CodePoint.isBlank '\x7b' = false by decide) (by decide) rfl
      (Json.getLast?_print_obj _)
  refine Reply.draft_of_firstObject? hd ?_ ((Json.member?_ofFields (fields d) "title").trans rfl)
    ((Json.member?_ofFields (fields d) "pages").trans rfl)
    ((Json.member?_ofFields (fields d) "content").trans rfl)
  rw [htrim, Reply.firstObject?, hparse]
  rfl

end Article

/-! ## From the prompt to the article -/

/-- A text in a prompt that neither breaks its line nor is taken for something else. -/
structure IsEmbedded (t : Text) : Prop extends IsInline t where
  isEncodable : t.isEncodable = true
  noPage : page? t = none
  noText : uiText? t = none

instance (t : Text) : Decidable (IsEmbedded t) :=
  decidable_of_iff (IsInline t ∧ t.isEncodable = true ∧ page? t = none ∧ uiText? t = none)
    ⟨fun h => ⟨h.1, h.2.1, h.2.2.1, h.2.2.2⟩, fun h => ⟨h.toIsInline, h.2, h.3, h.4⟩⟩

/-- The texts in a prompt about a feature. -/
def embeddedTexts (c : Catalog) (product : Text) (f : Feature) (m : CodeMap) : List Text :=
  [product, c.displayName f.id, c.guidance f.id] ++
    m.pages.flatMap (fun p => p.path :: p.strings.map (·.value)) ++
    f.evidence.flatMap fun e => [e.pattern, e.sourceFile]

/-- What is told about a feature can be read in the prompt. -/
structure IsLegible (c : Catalog) (product : Text) (f : Feature) (m : CodeMap) : Prop where
  /-- The files of a page are texts, or at least can be looked up like these. -/
  files : ∀ p ∈ m.pages, AreKeys p.sourceFiles
  readable : ∀ p ∈ m.pages, IsReadable p
  name : (c.displayName f.id).isBlank = false
  trimmed : trim (c.displayName f.id) = c.displayName f.id
  unquoted : ('"' : CodePoint) ∉ c.displayName f.id
  /-- The id is a text of the prompt as well. -/
  id : IsInline f.id
  embedded : ∀ t ∈ embeddedTexts c product f m, IsEmbedded t

variable {c : Catalog} {product : Text} {f : Feature} {m : CodeMap}

namespace IsLegible

theorem path (h : IsLegible c product f m) {p : Page} (hp : p ∈ m.pages) : IsEmbedded p.path :=
  h.embedded _ (List.mem_append_left _ (List.mem_append_right _
    (List.mem_flatMap.2 ⟨p, hp, List.mem_cons_self ..⟩)))

theorem value (h : IsLegible c product f m) {p : Page} (hp : p ∈ m.pages) {s : UiText}
    (hs : s ∈ p.strings) : IsEmbedded s.value :=
  h.embedded _ (List.mem_append_left _ (List.mem_append_right _
    (List.mem_flatMap.2 ⟨p, hp, List.mem_cons_of_mem _ (List.mem_map_of_mem hs)⟩)))

theorem evidence (h : IsLegible c product f m) {e : Evidence} (he : e ∈ f.evidence) :
    IsEmbedded e.pattern ∧ IsEmbedded e.sourceFile := by
  have hmem {t : Text} (ht : t ∈ [e.pattern, e.sourceFile]) : IsEmbedded t :=
    h.embedded _ (List.mem_append_right _ (List.mem_flatMap.2 ⟨e, he, ht⟩))
  exact ⟨hmem (by simp), hmem (by simp)⟩

theorem shown (h : IsLegible c product f m) {t : Text}
    (ht : t ∈ (m.pages.filter fun p => f.LiesOn p).flatMap Page.shownTexts) : IsEmbedded t := by
  obtain ⟨p, hp, ht⟩ := List.mem_flatMap.1 ht
  obtain ⟨s, hs, rfl⟩ := List.mem_map.1 ht
  exact h.value (List.mem_of_mem_filter hp) (List.mem_of_mem_take hs)

end IsLegible

theorem shows_context (h : IsLegible c product f m) {pages : List Page} (hsub : pages ⊆ m.pages) :
    Shows (f.frontLines ++ (if pages = [] then [] else
      lit "Relevant Pages:" :: pages.flatMap Page.contextLines ++ [[]]) ++
      lit "Code Evidence:" :: f.evidenceLines) (pages.map (·.path))
      (pages.flatMap Page.shownTexts) := by
  have hblank : Shows [[]] [] [] := .cons (by decide) (by decide) rfl rfl .nil
  have hevidence : Shows (lit "Code Evidence:" :: f.evidenceLines) [] [] :=
    .cons (by decide) (by decide +kernel) rfl rfl (shows_evidenceLines fun e he =>
      ⟨(h.evidence he).1.toIsInline, (h.evidence he).2.toIsInline⟩)
  have hpages : Shows (pages.flatMap Page.contextLines) (pages.map (·.path))
      (pages.flatMap Page.shownTexts) := by
    have hall := Shows.flatMap fun p (hp : p ∈ pages) =>
      shows_page (h.readable p (hsub hp)) (h.path (hsub hp)).toIsInline
        fun s hs => (h.value (hsub hp) hs).toIsInline
    rwa [← List.map_eq_flatMap] at hall
  have hlisted : Shows (if pages = [] then [] else
      lit "Relevant Pages:" :: pages.flatMap Page.contextLines ++ [[]]) (pages.map (·.path))
      (pages.flatMap Page.shownTexts) := by
    split
    · next hnone =>
      rw [hnone]
      exact .nil
    · have hlines := hpages.append hblank
      rw [List.append_nil, List.append_nil] at hlines
      exact .cons (by decide) (by decide +kernel) rfl rfl hlines
  have hshows := ((shows_frontLines h.id).append hlisted).append hevidence
  rwa [List.nil_append, List.nil_append, List.append_nil, List.append_nil] at hshows

/-- The reply to a prompt in which the pages and the texts are found. -/
theorem reply_eq {prompt : Text} {paths texts : List Text} (htopic : topic? prompt = some topic)
    (hpaths : (splitOn '\n' prompt).filterMap page? = paths)
    (htexts : (splitOn '\n' prompt).filterMap uiText? = texts) :
    reply prompt = Json.print (.ofFields (fields ⟨capitalize topic, firstSeen paths,
      joinWith (lit "\n") (contentLines topic (firstSeen paths) (texts.take 5))⟩)) := by
  obtain rfl := hpaths
  obtain rfl := htexts
  unfold reply
  rw [htopic]
  rfl

theorem isFilled_article {pages texts : List Text} (hname : topic.isBlank = false)
    (htrim : trim topic = topic) : Reply.IsFilled
      ⟨capitalize topic, pages, joinWith (lit "\n") (contentLines topic pages texts)⟩ := by
  obtain ⟨htitle, hblank⟩ := (recased_capitalize topic).trim htrim hname
  refine ⟨hblank, htitle, Bool.eq_false_iff.2 fun hcontent => ?_⟩
  have hhead : (joinWith (lit "\n") (contentLines topic pages texts)).head? = some '#' := rfl
  exact absurd (isBlank_iff.1 hcontent _ (List.mem_of_head? hhead)) (by decide)

/-- The offline writer reads back what a prompt tells: the capitalized name of the topic, the
relevant pages, each once, and the first texts shown on them. -/
theorem draft_reply (h : IsLegible c product f m) :
    let name := c.displayName f.id
    let listed := m.pages.filter fun p => f.LiesOn p
    m.relevantPages f = .ok listed ∧ ∃ context d, f.context m = .ok context ∧
      Reply.draft (reply (c.prompt product f.id context)) name = .ok d ∧
      d.title = capitalize name ∧ ListsOnce (listed.map (·.path)) d.pages ∧
      listItems d.content = d.pages.map (fun p => lit "`" ++ p ++ lit "`") ++
        (listed.flatMap Page.shownTexts).take 5 := by
  intro name listed
  have hsub : listed ⊆ m.pages := fun p hp => List.mem_of_mem_filter hp
  have hrelevant : m.relevantPages f = .ok listed := m.relevantPages_eq_ok h.files f
  obtain ⟨hproduct, hname, hguidance⟩ : IsEmbedded product ∧ IsEmbedded name ∧
      IsEmbedded (c.guidance f.id) := by
    refine ⟨h.embedded _ ?_, h.embedded _ ?_, h.embedded _ ?_⟩ <;>
      simp [embeddedTexts, name]
  have hne : name ≠ [] := by
    intro hnil
    have hblank := h.name
    rw [show c.displayName f.id = [] from hnil] at hblank
    cases hblank
  obtain ⟨htopic, hpaths, htexts⟩ := read_prompt
    (shows_front hproduct.toIsInline (shows_context h hsub)) (by simp [frontLines])
    (shows_back hguidance.toIsInline hguidance.noPage hguidance.noText) (backLines_ne_nil _)
    hne h.unquoted hname.oneLine
  rw [← prompt_eq c product f.id (by simp [Feature.frontLines])] at htopic hpaths htexts
  have hpath {p : Text} (hp : p ∈ firstSeen (listed.map (·.path))) : IsEmbedded p := by
    obtain ⟨page, hpage, rfl⟩ := List.mem_map.1 (mem_firstSeen.1 hp)
    exact h.path (hsub hpage)
  have hshown {t : Text} (ht : t ∈ (listed.flatMap Page.shownTexts).take 5) : IsEmbedded t :=
    h.shown (List.mem_of_mem_take ht)
  have hitems := listItems_contentLines hname.oneLine (fun p hp => (hpath hp).oneLine)
    fun t ht => (hshown ht).oneLine
  refine ⟨hrelevant, _, ⟨capitalize name, _, _⟩, Feature.context_eq hrelevant, ?_, rfl,
    listsOnce_firstSeen _, hitems⟩
  rw [reply_eq htopic hpaths htexts]
  have htitle := (recased_capitalize name).isEncodable hname.isEncodable
  refine draft_print (isFilled_article h.name h.trimmed) htitle
    (fun p hp => (hpath hp).isEncodable) (isEncodable_joinWith (by decide) ?_) name
  refine forall_mem_contentLines (P := fun t => t.isEncodable = true) (fun s t hs ht => ?_)
    (by decide) htitle hname.isEncodable (fun p hp => (hpath hp).isEncodable)
    fun t ht => (hshown ht).isEncodable
  rw [isEncodable_append, hs, ht]
  rfl

/-- A catalog with guidance on invoices. -/
def invoiceCatalog : Catalog := [{
  id := lit "billing.invoices"
  patterns := []
  confidence := .int 1
  name := some (lit "invoices & receipts")
  prompt := some (lit "Explain the filters.") }]

/-- Evidence for invoices in two files. -/
def invoiceFeature : Feature where
  id := lit "billing.invoices"
  confidence := .int 1
  evidence := [⟨lit "/invoice", lit "a.tsx", 3⟩, ⟨lit "receipt", lit "b.tsx", 7⟩]

/-- A text of the user interface. -/
def buttonText (value : String) : UiText where
  value := lit value
  sourceFile := lit "a.tsx"
  line := 1
  kind := lit "button_text"

/-- Invoices on two pages of one address, and another page between them. -/
def invoiceMap : CodeMap where
  pages := [
    { path := lit "/invoices", sourceFiles := [.str (lit "a.tsx")]
      strings := [buttonText "Pay", buttonText "Say \"yes\"", buttonText "Send ] \""] },
    { path := lit "/team", sourceFiles := [.str (lit "c.tsx")], strings := [buttonText "Invite"] },
    { path := lit "/invoices", sourceFiles := [.str (lit "b.tsx")]
      strings := [buttonText "Print", buttonText "/all", buttonText "Close"] }]

theorem isLegible_invoiceMap :
    IsLegible invoiceCatalog (lit "My \"Product\"") invoiceFeature invoiceMap where
  files := by
    show ∀ p ∈ invoiceMap.pages, ∀ v ∈ p.sourceFiles, v.isKey = true
    decide
  readable := by decide +kernel
  name := by decide +kernel
  trimmed := by decide +kernel
  unquoted := by decide
  id := by decide +kernel
  embedded := by decide +kernel

/-- The address is listed once, and of the six texts on its pages the first five. -/
theorem draft_reply_invoiceMap :
    IsLegible invoiceCatalog (lit "My \"Product\"") invoiceFeature invoiceMap ∧
    ∃ context d, invoiceFeature.context invoiceMap = .ok context ∧
      Reply.draft (reply (invoiceCatalog.prompt (lit "My \"Product\"") (lit "billing.invoices")
        context)) (lit "invoices & receipts") = .ok d ∧
      d.title = lit "Invoices & receipts" ∧
      ListsOnce [lit "/invoices", lit "/invoices"] d.pages ∧
      listItems d.content = d.pages.map (fun p => lit "`" ++ p ++ lit "`") ++
        [lit "Pay", lit "Say \"yes\"", lit "Send ] \"", lit "Print", lit "/all"] := by
  obtain ⟨-, context, d, hcontext, hd, htitle, hpages, hitems⟩ := draft_reply isLegible_invoiceMap
  have hname : invoiceCatalog.displayName invoiceFeature.id = lit "invoices & receipts" := by
    decide +kernel
  have hlisted : (invoiceMap.pages.filter fun p => invoiceFeature.LiesOn p).map (·.path) =
      [lit "/invoices", lit "/invoices"] := by decide +kernel
  have hshown : ((invoiceMap.pages.filter fun p => invoiceFeature.LiesOn p).flatMap
      Page.shownTexts).take 5 =
        [lit "Pay", lit "Say \"yes\"", lit "Send ] \"", lit "Print", lit "/all"] := by
    decide +kernel
  rw [hname] at hd htitle
  rw [hlisted] at hpages
  rw [hshown] at hitems
  exact ⟨isLegible_invoiceMap, context, d, hcontext, hd, htitle.trans (by decide +kernel), hpages,
    hitems⟩

end Offline

end HelpCenter

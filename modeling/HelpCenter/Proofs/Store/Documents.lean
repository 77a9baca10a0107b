import HelpCenter.Proofs.Files.Walk
import HelpCenter.Proofs.Store.Invariant
import HelpCenter.Proofs.Store.Refusal
import HelpCenter.Proofs.Text.Search

/-!
# Documents

Where the documents of an article are: below the directory of the documents, under names made of its
topic and its id (`documents_eq`).  Minted articles of which no id holds a slash, no two have one id
and no two have one path have documents of their own (`FiledApart.nodup`).  `Mirrors` says that the
documents in a directory are just those of some articles.
-/

namespace HelpCenter

/-! ## Names -/

namespace FilePath

theorem join_relative (p : FilePath) (names : List Text) :
    p.join ⟨[], names⟩ = ⟨p.root, p.names ++ names⟩ := rfl

theorem join_assoc (p q r : FilePath) : (p.join q).join r = p.join (q.join r) := by
  obtain ⟨root, names⟩ := q
  obtain ⟨root', names'⟩ := r
  cases root' with
  | cons c root' => rfl
  | nil =>
      cases root with
      | cons c root => rfl
      | nil => exact congrArg (FilePath.mk p.root) (List.append_assoc ..)

theorem ofText_of_notMem {name : Text} (h : ('/' : CodePoint) ∉ name) (hne : name ≠ [])
    (hdot : name ≠ lit ".") : ofText name = ⟨[], [name]⟩ := by
  have hroot : rootOf name = [] := by
    unfold rootOf
    cases name with
    | nil => rfl
    | cons c rest =>
        rw [List.mem_cons, not_or] at h
        have hc : CodePoint.is '/' c = false := decide_eq_false (Ne.symm h.1)
        rw [List.takeWhile_cons, hc]
        rfl
  unfold ofText
  rw [hroot, Text.splitOn_of_notMem h]
  simp [hne, hdot]

end FilePath

/-- What the Markdown document on a topic is named after: what stands behind the first dot, or else
the category. -/
def topicFile (topic : Text) : Text :=
  let name := (Text.cutAtFirst '.' topic).2
  if name.isEmpty then topicCategory topic else name

/-- The path of the Markdown document on a topic, seen from the directory of the documents. -/
def topicPath (topic : Text) : FilePath :=
  (FilePath.ofText (topicCategory topic)).join (.ofText (topicFile topic ++ lit ".md"))

theorem Article.markdownPath_eq (a : Article) (docs : FilePath) :
    a.markdownPath docs = docs.join (topicPath a.topic) := FilePath.join_assoc ..

/-- The names of the Markdown document on a topic without slashes, below the directory of the
documents. -/
def topicNames (topic : Text) : List Text :=
  let (category, name) := Text.cutAtFirst '.' topic
  (if category.isEmpty then [] else [category]) ++
    [(if name.isEmpty then category else name) ++ lit ".md"]

/-- The names of the JSON document for an id, below the directory of the documents. -/
def idNames (id : Text) : List Text := [lit "json", id ++ lit ".json"]

theorem ofText_extended {name : Text} (h : ('/' : CodePoint) ∉ name) {extension : String}
    (hslash : ('/' : CodePoint) ∉ lit extension) (hlength : 1 < (lit extension).length) :
    FilePath.ofText (name ++ lit extension) = ⟨[], [name ++ lit extension]⟩ := by
  have hlong : 1 < (name ++ lit extension).length := by
    rw [List.length_append]
    omega
  refine FilePath.ofText_of_notMem (by simp [h, hslash]) ?_ ?_
  all_goals
    intro heq
    rw [heq] at hlong
    exact absurd hlong (by decide)

theorem topicNames_eq (topic : Text) : topicNames topic =
    (if (topicCategory topic).isEmpty then [] else [topicCategory topic]) ++
      [topicFile topic ++ lit ".md"] := rfl

theorem topicPath_of_notMem {topic : Text} (h : ('/' : CodePoint) ∉ topic) :
    topicPath topic = ⟨[], topicNames topic⟩ := by
  obtain ⟨hdot, htopic⟩ := Text.cutAtFirst_eq '.' topic
  rw [topicNames_eq, topicPath]
  unfold topicFile topicCategory
  generalize Text.cutAtFirst '.' topic = cut at hdot htopic
  obtain ⟨category, name⟩ := cut
  have hparts : ('/' : CodePoint) ∉ category ∧ ('/' : CodePoint) ∉ name := by
    rcases htopic with htopic | ⟨htopic, hname⟩
    · rw [htopic, List.mem_append, List.mem_cons, not_or, not_or] at h
      exact ⟨h.1, h.2.2⟩
    · rw [htopic] at h
      exact ⟨h, by rw [show name = [] from hname]; exact List.not_mem_nil⟩
  have hfile : ('/' : CodePoint) ∉ (if name.isEmpty then category else name) := by
    split
    · exact hparts.1
    · exact hparts.2
  have hdir : FilePath.ofText category =
      ⟨[], if category.isEmpty then [] else [category]⟩ := by
    by_cases hempty : category = []
    · subst hempty
      rfl
    · have hne : category ≠ lit "." := by
        rintro rfl
        exact hdot (List.mem_cons_self ..)
      rw [FilePath.ofText_of_notMem hparts.1 hempty hne, if_neg (by simpa using hempty)]
  dsimp only
  rw [hdir, ofText_extended hfile (by decide) (by decide), FilePath.join_relative]

theorem eq_of_append_lit {a b : Text} {first second : String}
    (h : a ++ lit first = b ++ lit second) (hfirst : lit first ≠ []) (hsecond : lit second ≠ []) :
    (lit first).getLast? = (lit second).getLast? := by
  have hlast := congrArg List.getLast? h
  rwa [List.getLast?_append_of_ne_nil _ hfirst, List.getLast?_append_of_ne_nil _ hsecond] at hlast

/-- A Markdown document is not a JSON document. -/
theorem topicNames_ne_idNames (topic id : Text) : topicNames topic ≠ idNames id := by
  intro h
  have hlast := congrArg List.getLast? h
  unfold topicNames idNames at hlast
  dsimp only at hlast
  rw [List.getLast?_concat] at hlast
  exact absurd (eq_of_append_lit (Option.some.inj hlast) (by decide) (by decide)) (by decide)

theorem idNames_inj {id id' : Text} (h : idNames id = idNames id') : id = id' := by
  unfold idNames at h
  exact List.append_cancel_right (List.cons.inj (List.cons.inj h).2).1

theorem not_up_of_extended (name : Text) {extension : String} (h : 2 < (lit extension).length) :
    name ++ lit extension ≠ lit ".." := by
  intro heq
  have hlength := congrArg List.length heq
  rw [List.length_append] at hlength
  exact absurd (hlength ▸ Nat.lt_of_lt_of_le h (Nat.le_add_left _ _)) (by decide)

theorem up_notMem_topicNames (topic : Text) : lit ".." ∉ topicNames topic := by
  have hdot := (Text.cutAtFirst_eq '.' topic).1
  unfold topicNames
  dsimp only
  rw [List.mem_append, not_or, List.mem_singleton]
  refine ⟨fun hmem => ?_, (not_up_of_extended _ (by decide)).symm⟩
  split at hmem
  · cases hmem
  · rw [← List.mem_singleton.1 hmem] at hdot
    exact hdot (List.mem_cons_self ..)

theorem topicNames_ne_nil (topic : Text) : topicNames topic ≠ [] :=
  List.append_ne_nil_of_right_ne_nil _ (List.cons_ne_nil _ _)

theorem up_notMem_idNames (id : Text) : lit ".." ∉ idNames id := by
  unfold idNames
  rw [List.mem_cons, List.mem_singleton, not_or]
  exact ⟨by decide, (not_up_of_extended _ (by decide)).symm⟩

/-- The place is that of a file `*.md` somewhere below a directory, or of a file `json/*.json`. -/
inductive IsDocument (base : Place) : Place → Prop
  | markdown (dirs : List Text) {name : Text} (h : Text.endsWith name (lit ".md") = true) :
    IsDocument base (base ++ (dirs ++ [name]))
  | json {name : Text} (h : Text.endsWith name (lit ".json") = true) :
    IsDocument base (base ++ [lit "json", name])

theorem isDocument_topicNames (base : Place) (topic : Text) :
    IsDocument base (base ++ topicNames topic) :=
  .markdown _ (Text.endsWith_append _ _)

theorem isDocument_idNames (base : Place) (id : Text) : IsDocument base (base ++ idNames id) :=
  .json (Text.endsWith_append _ _)

theorem IsDocument.exists_below {base q : Place} (h : IsDocument base q) :
    ∃ rel ≠ [], q = base ++ rel := by
  cases h with
  | markdown dirs => exact ⟨_, by simp, rfl⟩
  | json => exact ⟨_, by simp, rfl⟩

/-! ## Ids and topics that can be encoded -/

theorem isEncodable_of_topicNames {topic : Text}
    (h : ∀ name ∈ topicNames topic, name.isEncodable = true) : topic.isEncodable = true := by
  have hcut := (Text.cutAtFirst_eq '.' topic).2
  unfold topicNames at h
  rcases hsplit : Text.cutAtFirst '.' topic with ⟨category, name⟩
  rw [hsplit] at hcut h
  dsimp only at hcut h
  rw [List.forall_mem_append, List.forall_mem_singleton, Text.isEncodable_append,
    Bool.and_eq_true_iff] at h
  obtain ⟨hcategory, hfile, -⟩ := h
  rcases hcut with rfl | ⟨rfl, rfl⟩
  · have hdot : Text.isEncodable [('.' : CodePoint)] = true := by decide
    have hcategory : category.isEncodable = true := by
      cases category with
      | nil => rfl
      | cons c rest => exact hcategory _ (List.mem_singleton_self _)
    have hname : name.isEncodable = true := by
      cases name with
      | nil => rfl
      | cons c rest => exact hfile
    rw [Text.isEncodable_append, hcategory, ← List.singleton_append, Text.isEncodable_append, hdot,
      hname]
    rfl
  · exact hfile

/-- The id was made for the topic when the article was new. -/
def Article.IsMinted (a : Article) : Prop := ∃ now, a.id = newArticleId a.topic now

theorem Article.IsMinted.of_key {a b : Article} (h : a.IsMinted) (hkey : a.key = b.key) :
    b.IsMinted := by
  obtain ⟨hid, htopic⟩ := Prod.mk.inj hkey
  obtain ⟨now, hminted⟩ := h
  exact ⟨now, by rw [← hid, ← htopic, hminted]⟩

theorem hyphenated_eq_map (topic : Text) :
    hyphenated topic = topic.map fun c : CodePoint => if c = '.' then ('-' : CodePoint) else c :=
  Text.substitute_eq_map '.' '-' topic

theorem isEncodable_newArticleId (topic : Text) (now : Moment) :
    (newArticleId topic now).isEncodable = topic.isEncodable := by
  have hsuffix : Text.isEncodable (('-' : CodePoint) :: Text.ofInt now.millis) = true :=
    Text.IsPlain.isEncodable (Text.isPlain_cons (by decide) (Text.isPlain_ofInt _))
  have hhead : (lit "kb-").isEncodable = true := by decide
  have hsame : (hyphenated topic).isEncodable = topic.isEncodable := by
    rw [hyphenated_eq_map]
    unfold Text.isEncodable
    rw [List.all_map]
    congr 1
    funext c
    by_cases hc : c = '.'
    · subst hc
      rfl
    · simp [hc]
  rw [newArticleId_eq, Text.isEncodable_append, Text.isEncodable_append, hhead, hsuffix, hsame,
    Bool.and_true, Bool.true_and]

theorem mem_newArticleId {topic : Text} (now : Moment) (h : ('/' : CodePoint) ∈ topic) :
    ('/' : CodePoint) ∈ newArticleId topic now := by
  rw [newArticleId_eq, hyphenated_eq_map]
  refine List.mem_append_left _ (List.mem_append_right _ (List.mem_map.2 ⟨_, h, ?_⟩))
  decide

namespace Store

variable {s : Store} {a b : Article}

theorem root_docsDir (s : Store) : s.docsDir.root ≠ [] := by
  unfold docsDir FilePath.join
  split
  · exact List.cons_ne_nil _ _
  · next h => simpa using h

theorem markdownFile_eq (h : ('/' : CodePoint) ∉ a.topic) :
    s.markdownFile a = ⟨s.docsDir.root, s.docsDir.names ++ topicNames a.topic⟩ := by
  rw [markdownFile, Article.markdownPath_eq, topicPath_of_notMem h, FilePath.join_relative]

theorem jsonFile_eq {id : Text} (h : ('/' : CodePoint) ∉ id) :
    s.jsonFile id = ⟨s.docsDir.root, s.docsDir.names ++ idNames id⟩ := by
  have hjson : FilePath.ofText (lit "json") = ⟨[], [lit "json"]⟩ := by decide
  unfold jsonFile jsonDir
  rw [hjson, ofText_extended h (by decide) (by decide), FilePath.join_relative,
    FilePath.join_relative, List.append_assoc]
  rfl

theorem place_docsDir (s : Store) (names : List Text) :
    FilePath.place [] ⟨s.docsDir.root, names⟩ = names := by
  unfold FilePath.place
  rw [if_neg (by simpa using s.root_docsDir)]

/-- The names of the documents of an article, below their directory. -/
def documentNames (s : Store) (a : Article) : List (List Text) :=
  (if s.hasFormat "markdown" then [topicNames a.topic] else []) ++
    (if s.hasFormat "json" then [idNames a.id] else [])

/-- Documents are written in some format. -/
def WritesDocuments (s : Store) : Prop := s.hasFormat "markdown" = true ∨ s.hasFormat "json" = true

theorem WritesDocuments.exists_names (h : s.WritesDocuments) (a : Article) :
    ∃ names, names ∈ s.documentNames a := by
  unfold documentNames
  rcases h with h | h <;> rw [h]
  · exact ⟨topicNames a.topic, List.mem_append_left _ (List.mem_singleton_self _)⟩
  · exact ⟨idNames a.id, List.mem_append_right _ (List.mem_singleton_self _)⟩

theorem mem_documentNames {names : List Text} (h : names ∈ s.documentNames a) :
    names = topicNames a.topic ∨ names = idNames a.id := by
  unfold documentNames at h
  rcases List.mem_append.1 h with h | h <;> split at h
  · exact .inl (List.mem_singleton.1 h)
  · cases h
  · exact .inr (List.mem_singleton.1 h)
  · cases h

theorem isDocument_of_mem {base : Place} {names : List Text} (h : names ∈ s.documentNames a) :
    IsDocument base (base ++ names) := by
  rcases mem_documentNames h with rfl | rfl
  · exact isDocument_topicNames _ _
  · exact isDocument_idNames _ _

theorem up_notMem_of_mem {names : List Text} (h : names ∈ s.documentNames a) :
    lit ".." ∉ names := by
  rcases mem_documentNames h with rfl | rfl
  · exact up_notMem_topicNames _
  · exact up_notMem_idNames _

theorem ne_nil_of_mem {names : List Text} (h : names ∈ s.documentNames a) : names ≠ [] := by
  rcases mem_documentNames h with rfl | rfl
  · exact topicNames_ne_nil _
  · exact List.cons_ne_nil _ _

theorem documentNames_congr (h : a.key = b.key) : s.documentNames a = s.documentNames b := by
  obtain ⟨hid, htopic⟩ := Prod.mk.inj h
  unfold documentNames
  rw [hid, htopic]

/-- Neither the id nor the topic holds a slash. -/
def IsFlat (a : Article) : Prop := ('/' : CodePoint) ∉ a.id ∧ ('/' : CodePoint) ∉ a.topic

theorem documents_eq (h : IsFlat a) :
    s.documents a = (s.documentNames a).map (s.docsDir.names ++ ·) := by
  unfold documents documentNames
  rw [markdownFile_eq h.2, jsonFile_eq h.1, place_docsDir, place_docsDir, List.map_append]
  congr 1 <;> split <;> rfl

/-- The ids of the articles hold no slash and are different, and so are the paths of their
Markdown documents. -/
structure FiledApart (s : Store) (articles : List Article) : Prop where
  ids : (articles.map Article.id).Nodup
  paths : (articles.map s.markdownFile).Nodup
  slashFree : ∀ a ∈ articles, ('/' : CodePoint) ∉ a.id

/-- The ids of minted articles without slashes come from topics without slashes. -/
theorem FiledApart.isFlat {articles : List Article} (h : s.FiledApart articles)
    (hminted : ∀ a ∈ articles, a.IsMinted) : ∀ a ∈ articles, IsFlat a := by
  intro a ha
  refine ⟨h.slashFree a ha, fun hmem => h.slashFree a ha ?_⟩
  obtain ⟨now, hid⟩ := hminted a ha
  exact hid ▸ mem_newArticleId now hmem

/-- Articles with different ids have different documents, whatever the format asks for. -/
theorem FiledApart.names_ne {articles : List Article} (h : s.FiledApart articles)
    (hflat : ∀ a ∈ articles, IsFlat a) (ha : a ∈ articles) (hb : b ∈ articles) (hne : a.id ≠ b.id)
    {names : List Text} (hn : names ∈ s.documentNames a) :
    names ≠ topicNames b.topic ∧ names ≠ idNames b.id := by
  rcases mem_documentNames hn with rfl | rfl
  · refine ⟨fun heq => hne ?_, topicNames_ne_idNames _ _⟩
    have hpath : s.markdownFile a = s.markdownFile b := by
      rw [markdownFile_eq (hflat a ha).2, markdownFile_eq (hflat b hb).2, heq]
    rw [List.inj_on_of_nodup_map h.paths ha hb hpath]
  · exact ⟨(topicNames_ne_idNames _ _).symm, fun heq => hne (idNames_inj heq)⟩

theorem FiledApart.nodup {articles : List Article} (h : s.FiledApart articles)
    (hflat : ∀ a ∈ articles, IsFlat a) : (articles.flatMap s.documentNames).Nodup := by
  rw [List.nodup_flatMap]
  constructor
  · intro a _
    unfold documentNames
    split <;> split <;> simp [topicNames_ne_idNames]
  · have hids : articles.Pairwise fun a b => a.id ≠ b.id := List.pairwise_map.1 h.ids
    refine hids.imp_of_mem fun {a b} ha hb hid names hna hnb => ?_
    obtain ⟨htopic, hname⟩ := h.names_ne hflat ha hb hid hna
    exact (mem_documentNames hnb).elim htopic hname

/-- The directory of the documents is `base`; the state files are three files, none of them a
document. -/
structure StandsAt (s : Store) (base : Place) (t : FileTree) : Prop where
  directory : ∀ q, t.locate (s.docsDir.place []) = .ok q → q = base
  states : [s.itemsFile, s.gapsFile, s.codeMapFile].Pairwise fun p q => t.locate q ≠ t.locate p
  apart : ∀ p ∈ [s.itemsFile, s.gapsFile, s.codeMapFile], ∀ q, t.locate p = .ok q →
    ¬ IsDocument base q

theorem StandsAt.eq_base {base q : Place} {t : FileTree} (h : s.StandsAt base t)
    (hq : t.locate s.docsDir.names = .ok q) : q = base :=
  h.directory q ((congrArg t.locate (s.place_docsDir _)).trans hq)

/-- What holds of a tree in which paths still lead where they led held before. -/
theorem StandsAt.of_later {base : Place} {t t' : FileTree} (h : s.StandsAt base t')
    (hlater : ∀ {p q}, t.locate p = .ok q → t'.locate p = .ok q)
    (hitems : ∃ q, t.locate s.itemsFile = .ok q) (hgaps : ∃ q, t.locate s.gapsFile = .ok q) :
    s.StandsAt base t where
  directory q hq := h.directory q (hlater hq)
  states := by
    have apart {p q : Place} (hp : ∃ r, t.locate p = .ok r) (hne : t'.locate q ≠ t'.locate p) :
        t.locate q ≠ t.locate p := by
      obtain ⟨r, hr⟩ := hp
      intro heq
      rw [hlater hr, hlater (heq.trans hr)] at hne
      exact hne rfl
    have hstates := h.states
    simp only [List.pairwise_cons, List.forall_mem_cons] at hstates ⊢
    exact ⟨⟨apart hitems hstates.1.1, apart hitems hstates.1.2.1, nofun⟩,
      ⟨apart hgaps hstates.2.1.1, nofun⟩, nofun, .nil⟩
  apart p hp q hq := h.apart p hp q (hlater hq)

/-- The documents of an article, each with its text, if it has one. -/
def rendered (s : Store) (a : Article) : List (Place × Option Text) :=
  (if s.hasFormat "markdown" then [((s.markdownFile a).place [], a.markdown.toOption)] else []) ++
    (if s.hasFormat "json" then [((s.jsonFile a.id).place [], a.toJson.pretty?)] else [])

theorem documents_eq_map (s : Store) (a : Article) :
    s.documents a = (s.rendered a).map Prod.fst := by
  unfold documents rendered
  rw [List.map_append]
  congr 1 <;> split <;> rfl

/-- The documents below `base` are those of the articles: each of them has, in files of its own, the
documents that the format asks for, and there are no others. -/
structure Mirrors (s : Store) (base : Place) (articles : List Article) (t : FileTree) : Prop where
  found : ∀ a ∈ articles, ∀ d ∈ s.rendered a, ∃ text bytes q, d.2 = some text ∧
    text.toUtf8? = some bytes ∧ t.Holds d.1 q bytes ∧ IsDocument base q
  apart : (articles.flatMap s.documents).Pairwise fun p q => t.locate p ≠ t.locate q
  only : ∀ q e, IsDocument base q → t.entry? q = some e → e ≠ .dir →
    ∃ a ∈ articles, ∃ p ∈ s.documents a, t.locate p = .ok q

end Store

end HelpCenter

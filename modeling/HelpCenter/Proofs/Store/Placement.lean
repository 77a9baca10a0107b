import HelpCenter.Proofs.Store.Removal
import HelpCenter.Settings.Check

/-!
# Where Markdown documents go

The path of a Markdown document is made of the topic of its article and of nothing else.  A topic
that names no root and leads nowhere above the directory of the documents has its document below
that directory (`staysBelow_iff`), and topics without slashes have documents of their own unless they
are spellings of one category (`eq_or_spellings`).  What is then written or removed for one topic
changes no document of another and nothing outside the directory (`Store.keepsApart_of_topics`).
-/

namespace HelpCenter

/-! ## Paths below a directory -/

namespace FilePath

theorem names_ofText_extended (name : Text) {extension : String}
    (hslash : ('/' : CodePoint) ∉ lit extension) (hlength : 1 < (lit extension).length) :
    ∃ dirs last, (ofText (name ++ lit extension)).names = dirs ++ [last ++ lit extension] := by
  obtain ⟨pieces, last, hsplit⟩ := Text.splitOn_append_of_notMem hslash name
  unfold ofText
  rw [hsplit, List.filter_append]
  refine ⟨_, last, congrArg _ (List.filter_cons_of_pos ?_)⟩
  have hlong : 1 < (last ++ lit extension).length := by
    rw [List.length_append]
    omega
  rw [Bool.and_eq_true_iff]
  constructor
  · rw [Bool.not_eq_true', List.isEmpty_eq_false_iff]
    exact List.ne_nil_of_length_pos (Nat.zero_lt_of_lt hlong)
  · rw [bne_iff_ne]
    intro heq
    rw [heq] at hlong
    exact absurd hlong (by decide)

theorem names_join (p q : FilePath) : ∃ dirs, (p.join q).names = dirs ++ q.names := by
  unfold join
  split
  · exact ⟨p.names, rfl⟩
  · exact ⟨[], rfl⟩

theorem empty_join (p : FilePath) : join ⟨[], []⟩ p = p := by
  obtain ⟨root, names⟩ := p
  cases root with
  | nil => rfl
  | cons c root => rfl

/-- The path goes on from a directory to a place below it. -/
def IsBelow (p d : FilePath) : Prop :=
  ∃ names q, p = ⟨d.root, d.names ++ names⟩ ∧ FileTree.below? [] names = some q ∧ q ≠ []

end FilePath

/-! ## Places of topics -/

/-- The place of the Markdown document on a topic, seen from the directory of the documents; none
if the topic names a root or leads above the directory. -/
def placeOfTopic? (topic : Text) : Option Place :=
  if (topicPath topic).root.isEmpty then FileTree.below? [] (topicPath topic).names else none

/-- The document on the topic lies below the directory of the documents. -/
def StaysBelow (topic : Text) : Prop := (placeOfTopic? topic).isSome = true

instance (topic : Text) : Decidable (StaysBelow topic) :=
  inferInstanceAs (Decidable ((placeOfTopic? topic).isSome = true))

variable {topic topic' : Text} {q q' : Place}

theorem placeOfTopic?_eq_some_iff : placeOfTopic? topic = some q ↔
    topicPath topic = ⟨[], (topicPath topic).names⟩ ∧
      FileTree.below? [] (topicPath topic).names = some q := by
  unfold placeOfTopic?
  generalize topicPath topic = p
  obtain ⟨root, names⟩ := p
  cases root with
  | nil => simp
  | cons c root => simp

theorem names_topicPath (topic : Text) :
    ∃ dirs last, (topicPath topic).names = dirs ++ [last ++ lit ".md"] := by
  obtain ⟨dirs, hjoin⟩ := FilePath.names_join
    (.ofText (topicCategory topic)) (.ofText (topicFile topic ++ lit ".md"))
  obtain ⟨dirs', last, hnames⟩ := FilePath.names_ofText_extended (topicFile topic)
    (show ('/' : CodePoint) ∉ lit ".md" by decide) (by decide)
  rw [topicPath, hjoin, hnames]
  exact ⟨dirs ++ dirs', last, (List.append_assoc ..).symm⟩

theorem ne_nil_of_placeOfTopic? (h : placeOfTopic? topic = some q) : q ≠ [] := by
  obtain ⟨dirs, last, hnames⟩ := names_topicPath topic
  have hbelow := (placeOfTopic?_eq_some_iff.1 h).2
  rw [hnames, FileTree.below?_append, Option.bind_eq_some_iff] at hbelow
  obtain ⟨dir, -, hlast⟩ := hbelow
  rw [FileTree.below?, if_neg (not_up_of_extended last (by decide))] at hlast
  exact Option.some.inj hlast ▸ List.concat_ne_nil _ _

theorem isBelow_markdownPath {a : Article} (h : placeOfTopic? a.topic = some q) (docs : FilePath) :
    (a.markdownPath docs).IsBelow docs := by
  obtain ⟨hpath, hbelow⟩ := placeOfTopic?_eq_some_iff.1 h
  refine ⟨_, q, ?_, hbelow, ne_nil_of_placeOfTopic? h⟩
  rw [Article.markdownPath_eq, hpath, FilePath.join_relative]

/-- Of no other topic does the document always lie below the directory of the documents. -/
theorem staysBelow_iff (a : Article) :
    StaysBelow a.topic ↔ ∀ docs, (a.markdownPath docs).IsBelow docs := by
  constructor
  · intro h docs
    obtain ⟨q, hq⟩ := Option.isSome_iff_exists.1 h
    exact isBelow_markdownPath hq docs
  · intro h
    obtain ⟨names, q, hpath, hq, -⟩ := h ⟨[], []⟩
    rw [Article.markdownPath_eq, FilePath.empty_join] at hpath
    refine Option.isSome_iff_exists.2 ⟨q, placeOfTopic?_eq_some_iff.2 ?_⟩
    rw [hpath]
    exact ⟨rfl, hq⟩

theorem placeOfTopic?_of_notMem (h : ('/' : CodePoint) ∉ topic) :
    placeOfTopic? topic = some (topicNames topic) := by
  rw [placeOfTopic?_eq_some_iff, topicPath_of_notMem h]
  exact ⟨rfl, FileTree.below?_of_notMem (up_notMem_topicNames topic) []⟩

/-! ## Topics that share a document -/

/-- The topics whose document is named after the category itself. -/
def spellings (category : Text) : List Text :=
  [category, category ++ lit ".", category ++ lit "." ++ category]

/-- A topic is a spelling of its category, or its category and the name of its document make it up. -/
theorem topic_cases (topic : Text) :
    (topic ∈ spellings (topicCategory topic) ∧ topicFile topic = topicCategory topic) ∨
      topic = topicCategory topic ++ lit "." ++ topicFile topic := by
  have htopic := (Text.cutAtFirst_eq '.' topic).2
  unfold topicFile topicCategory
  generalize Text.cutAtFirst '.' topic = cut at htopic
  obtain ⟨category, name⟩ := cut
  dsimp only at htopic ⊢
  cases name with
  | nil =>
      refine .inl ⟨?_, rfl⟩
      rcases htopic with htopic | ⟨htopic, -⟩
      · exact htopic ▸ List.mem_cons_of_mem _ (List.mem_cons_self ..)
      · exact htopic ▸ List.mem_cons_self ..
  | cons c name =>
      rcases htopic with htopic | ⟨-, hname⟩
      · rw [List.append_assoc]
        exact .inr htopic
      · cases hname

/-- Two topics without slashes have documents of their own, or are spellings of one category. -/
theorem eq_or_spellings (h : topicNames topic = topicNames topic') :
    topic = topic' ∨ topic ∈ spellings (topicCategory topic) ∧
      topic' ∈ spellings (topicCategory topic) := by
  rw [topicNames_eq, topicNames_eq] at h
  obtain ⟨hdirs, hlast⟩ := List.append_inj' h rfl
  have hfile := List.append_cancel_right (List.singleton_inj.1 hlast)
  have hcategory : topicCategory topic = topicCategory topic' := by
    split at hdirs <;> split at hdirs
    · next h h' => rw [List.isEmpty_iff.1 h, List.isEmpty_iff.1 h']
    · cases hdirs
    · cases hdirs
    · exact List.singleton_inj.1 hdirs
  have htwice {text category : Text} (h : text = category ++ lit "." ++ category) :
      text ∈ spellings category := by
    simp [spellings, h]
  rcases topic_cases topic with ⟨hmem, hname⟩ | htopic <;>
    rcases topic_cases topic' with ⟨hmem', hname'⟩ | htopic'
  · exact .inr ⟨hmem, hcategory ▸ hmem'⟩
  · rw [← hcategory, ← hfile, hname] at htopic'
    exact .inr ⟨hmem, htwice htopic'⟩
  · rw [hfile, hname', ← hcategory] at htopic
    exact .inr ⟨htwice htopic, hcategory ▸ hmem'⟩
  · exact .inl (htopic.trans (by rw [hcategory, hfile, ← htopic']))

/-- The topics may have one document: they are spellings of one category, or one of them holds a
slash and they have the same place. -/
def MayShare (topic topic' : Text) : Prop :=
  (topic ∈ spellings (topicCategory topic) ∧ topic' ∈ spellings (topicCategory topic)) ∨
    (('/' : CodePoint) ∈ topic ∨ ('/' : CodePoint) ∈ topic') ∧
      placeOfTopic? topic = placeOfTopic? topic'

instance (topic topic' : Text) : Decidable (MayShare topic topic') :=
  inferInstanceAs (Decidable (_ ∨ _))

theorem place_ne_of_not_mayShare (hne : topic ≠ topic') (h : ¬ MayShare topic topic')
    (hq : placeOfTopic? topic = some q) (hq' : placeOfTopic? topic' = some q') : q ≠ q' := by
  rintro rfl
  refine h ?_
  by_cases hslash : ('/' : CodePoint) ∈ topic ∨ ('/' : CodePoint) ∈ topic'
  · exact .inr ⟨hslash, hq.trans hq'.symm⟩
  · rw [not_or] at hslash
    rw [placeOfTopic?_of_notMem hslash.1] at hq
    rw [placeOfTopic?_of_notMem hslash.2] at hq'
    exact .inl ((eq_or_spellings (Option.some.inj (hq.trans hq'.symm))).resolve_left hne)

/-! ## One document at a time -/

namespace Store

variable {s : Store} {a b : Article} {base : Place} {t t' : FileTree} {w : Workspace}

/-- The directory of the documents leads nowhere but to `base`, and nothing below is a link. -/
structure DocumentsAt (s : Store) (base : Place) (t : FileTree) : Prop where
  directory : ∀ q, t.locate s.docsDir.names = .ok q → q = base
  links : t.NoLinksBelow base

theorem DocumentsAt.of_extends {fs : List Place} (h : s.DocumentsAt base t')
    (hext : FileTree.Extends t t' fs) : s.DocumentsAt base t where
  directory q hq := h.directory q (hext.locate hq)
  links rel hrel target htarget := h.links rel hrel target (hext.fixed htarget nofun)

theorem place_markdownFile (hq : placeOfTopic? a.topic = some q) :
    (s.markdownFile a).place [] = s.docsDir.names ++ (topicPath a.topic).names := by
  rw [markdownFile, Article.markdownPath_eq, (placeOfTopic?_eq_some_iff.1 hq).1,
    FilePath.join_relative, place_docsDir]

theorem DocumentsAt.eq_of_locate (h : s.DocumentsAt base t) (hq : placeOfTopic? a.topic = some q)
    {r : Place} (hr : t.locate ((s.markdownFile a).place []) = .ok r) : r = base ++ q := by
  rw [place_markdownFile hq] at hr
  exact FileTree.eq_append_of_walk_of_below h.directory h.links
    (placeOfTopic?_eq_some_iff.1 hq).2 (ne_nil_of_placeOfTopic? hq) hr

/-- If the documents are at `base` in the later tree, they were so before, and what has changed is
only at the place `q`. -/
def Confines (s : Store) (base q : Place) (t t' : FileTree) : Prop :=
  s.DocumentsAt base t' → s.DocumentsAt base t ∧ FileTree.ChangesOnly q t t'

instance (s : Store) (base q : Place) : IsPreorder FileTree (s.Confines base q) where
  refl t h := ⟨h, FileTree.changesOnly_refl q t⟩
  trans _ _ _ h h' hafter := by
    obtain ⟨hmid, hchanges'⟩ := h' hafter
    obtain ⟨hbefore, hchanges⟩ := h hmid
    exact ⟨hbefore, hchanges.trans hchanges'⟩

theorem confines_of_extends {fs : List Place} (hext : FileTree.Extends t t' fs)
    (hq : placeOfTopic? a.topic = some q) (hfs : ∀ f ∈ fs, f = (s.markdownFile a).place []) :
    s.Confines base (base ++ q) t t' := by
  intro h
  refine ⟨h.of_extends hext, hext.changesOnly fun f hf r hr => ?_⟩
  rw [hfs f hf] at hr
  exact h.eq_of_locate hq hr

theorem respects_writeDocument (hq : placeOfTopic? a.topic = some q)
    (text : Except DataFault Text) :
    Action.Respects (s.Confines base (base ++ q)) (writeDocument (s.markdownFile a) text) := by
  have hdirs : Action.Respects (s.Confines base (base ++ q))
      (Action.makeDirs ((s.markdownFile a).parent.place [])) :=
    Action.respects_changeFiles fun _ _ h =>
      confines_of_extends (FileTree.extends_makeDirs h) hq nofun
  refine hdirs.bind fun _ => ?_
  cases text with
  | error fault => exact Action.respects_throw _
  | ok text =>
      exact Action.respects_writeText fun _ _ _ _ h =>
        confines_of_extends (FileTree.extends_write h).1 hq fun _ => List.mem_singleton.1

theorem respects_writeMarkdown (hq : placeOfTopic? a.topic = some q) :
    Action.Respects (s.Confines base (base ++ q)) (s.writeMarkdown a) := by
  unfold writeMarkdown
  split
  · exact respects_writeDocument hq _
  · exact Action.respects_pure ()

/-- Where no documents are written as JSON, writing the documents of an article is writing the
Markdown document. -/
theorem respects_writeDocs (hformat : s.hasFormat "json" = false)
    (hq : placeOfTopic? a.topic = some q) :
    Action.Respects (s.Confines base (base ++ q)) (s.writeDocs a) := by
  rw [writeDocs_eq]
  refine Action.Respects.onFileFault ((respects_writeMarkdown hq).bind fun _ => ?_)
  rw [writeRecord, hformat]
  exact Action.respects_pure ()

theorem changesOnly_removeDocument (h : s.DocumentsAt base w.files)
    (hq : placeOfTopic? a.topic = some q) :
    FileTree.ChangesOnly (base ++ q) w.files
      ((removeDocument (s.markdownFile a)).perform w).2.files := by
  have hdrops : ∀ w', (removeDocument (s.markdownFile a)).perform w = (.ok (), w') → _ := fun _ =>
    drops_of_removeDocument h.directory h.links (placeOfTopic?_eq_some_iff.1 hq).2
      (ne_nil_of_placeOfTopic? hq) (place_markdownFile hq)
  unfold removeDocument Action.removeFile at hdrops ⊢
  rw [Action.perform_onFileFault_snd]
  obtain ⟨e, hw, -⟩ | ⟨t, hw, -⟩ :=
    Action.changeFiles_cases ((s.markdownFile a).place []) _ w
  · rw [hw]
    exact FileTree.changesOnly_refl _ _
  · rw [hw]
    exact (hdrops _ (Action.perform_onFileFault_ok _ hw)).changesOnly

/-- The action does something with the Markdown document of an article and nothing else. -/
inductive HandlesMarkdown (s : Store) (a : Article) : Action Unit → Prop
  | write : HandlesMarkdown s a (s.writeMarkdown a)
  | writeDocs (h : s.hasFormat "json" = false) : HandlesMarkdown s a (s.writeDocs a)
  | remove : HandlesMarkdown s a (removeDocument (s.markdownFile a))

theorem HandlesMarkdown.changesOnly {act : Action Unit} (hact : s.HandlesMarkdown a act)
    (hq : placeOfTopic? a.topic = some q) (hbefore : s.DocumentsAt base w.files)
    (hafter : s.DocumentsAt base (act.perform w).2.files) :
    FileTree.ChangesOnly (base ++ q) w.files (act.perform w).2.files := by
  cases hact with
  | write => exact (respects_writeMarkdown hq w hafter).2
  | writeDocs hformat => exact (respects_writeDocs hformat hq w hafter).2
  | remove => exact changesOnly_removeDocument hbefore hq

/-- The Markdown documents of two articles lie below the directory of the documents, under two
paths.  Writing or removing the first one, with success or without, changes only one place, which is
below the directory and to which the path of the second does not lead. -/
structure KeepsApart (s : Store) (a b : Article) : Prop where
  first : (s.markdownFile a).IsBelow s.docsDir
  second : (s.markdownFile b).IsBelow s.docsDir
  ne : s.markdownFile a ≠ s.markdownFile b
  changes : ∀ (base : Place) (w : Workspace) (act : Action Unit), s.HandlesMarkdown a act →
    s.DocumentsAt base w.files → s.DocumentsAt base (act.perform w).2.files →
      ∃ q, base <+: q ∧ q ≠ base ∧ FileTree.ChangesOnly q w.files (act.perform w).2.files ∧
        ∀ t ∈ [w.files, (act.perform w).2.files], t.locate ((s.markdownFile b).place []) ≠ .ok q

/-- Articles on different topics below the directory of the documents keep apart, unless the topics
may share a document. -/
theorem keepsApart_of_topics (s : Store) {a b : Article} (ha : StaysBelow a.topic)
    (hb : StaysBelow b.topic) (hne : a.topic ≠ b.topic) (hshare : ¬ MayShare a.topic b.topic) :
    s.KeepsApart a b := by
  obtain ⟨q, hq⟩ := Option.isSome_iff_exists.1 ha
  obtain ⟨q', hq'⟩ := Option.isSome_iff_exists.1 hb
  have hplaces : q ≠ q' := place_ne_of_not_mayShare hne hshare hq hq'
  refine ⟨isBelow_markdownPath hq _, isBelow_markdownPath hq' _, fun heq => hplaces ?_, ?_⟩
  · have hpath := congrArg (FilePath.place []) heq
    rw [place_markdownFile hq, place_markdownFile hq'] at hpath
    have hnames := List.append_cancel_left hpath
    have hbelow := (placeOfTopic?_eq_some_iff.1 hq).2
    rw [hnames, (placeOfTopic?_eq_some_iff.1 hq').2] at hbelow
    exact (Option.some.inj hbelow).symm
  · intro base w act hact hbefore hafter
    refine ⟨base ++ q, List.prefix_append .., fun h => ?_, hact.changesOnly hq hbefore hafter,
      fun t ht hlocate => ?_⟩
    · exact ne_nil_of_placeOfTopic? hq (List.append_right_eq_self.1 h)
    · have ht : s.DocumentsAt base t := by
        rcases List.mem_pair.1 ht with rfl | rfl
        · exact hbefore
        · exact hafter
      exact hplaces (List.append_cancel_left (ht.eq_of_locate hq' hlocate))

/-- Two guides on disk, and notes that do not belong to the knowledge base. -/
def guideWorkspace : Workspace where
  files := ⟨[([lit "notes.md"], .file []), ([lit ".kodex"], .dir),
    ([lit ".kodex", lit "docs"], .dir), ([lit ".kodex", lit "docs", lit "guide"], .dir),
    ([lit ".kodex", lit "docs", lit "guide", lit "start"], .dir),
    ([lit ".kodex", lit "docs", lit "guide", lit "start.md"], .file []),
    ([lit ".kodex", lit "docs", lit "guide", lit "setup.md"], .file [])]⟩
  now := ⟨0⟩

/-- The document on one guide is removed, that on the other one stays. -/
theorem keepsApart_guides :
    let s : Store := { root := [] }
    let a : Article := { id := lit "kb-1", topic := lit "guide.start" }
    let b : Article := { id := lit "kb-2", topic := lit "guide.start/../setup" }
    let base := [lit ".kodex", lit "docs"]
    let w := ((removeDocument (s.markdownFile a)).perform guideWorkspace).2
    (StaysBelow a.topic ∧ StaysBelow b.topic ∧ a.topic ≠ b.topic ∧ ¬ MayShare a.topic b.topic) ∧
      s.KeepsApart a b ∧ s.DocumentsAt base guideWorkspace.files ∧ s.DocumentsAt base w.files ∧
        w.files.entry? (base ++ topicNames a.topic) = none ∧
          w.files.read ((s.markdownFile b).place []) = .ok [] := by
  intro s a b base w
  have hgood : StaysBelow a.topic ∧ StaysBelow b.topic ∧ a.topic ≠ b.topic ∧
      ¬ MayShare a.topic b.topic := by decide
  obtain ⟨ha, hb, hne, hshare⟩ := hgood
  have checks : (∀ t ∈ [guideWorkspace.files, w.files], t.locate s.docsDir.names = .ok base ∧
      ∀ e ∈ t.entries, e.2 = .dir ∨ e.2 = .file []) ∧
      w.files.entry? (base ++ topicNames a.topic) = none ∧
        w.files.read ((s.markdownFile b).place []) = .ok [] := by decide +kernel
  obtain ⟨htrees, hgone, hstays⟩ := checks
  have hdocuments : ∀ t ∈ [guideWorkspace.files, w.files], s.DocumentsAt base t := by
    intro t ht
    obtain ⟨hlocate, hentries⟩ := htrees t ht
    refine ⟨fun q hq => Except.ok.inj (hq.symm.trans hlocate),
      FileTree.noLinksBelow_of_entries (fun e he target hlink => ?_) base⟩
    rcases hentries e he with hentry | hentry <;> rw [hentry] at hlink <;> cases hlink
  exact ⟨⟨ha, hb, hne, hshare⟩, keepsApart_of_topics s ha hb hne hshare, hdocuments _ (by simp),
    hdocuments _ (by simp), hgone, hstays⟩

/-- Settings with topics of which two have one document and one leads out of the directory. -/
def crossedSettings : Settings where
  root := []
  docs := {
    topics := [lit "guide", lit "guide/a"]
    customTopics := [lit "guide.a/b", lit "guide/a.b", lit "guide../../../../notes"].map
      fun id => { id, patterns := [lit "zebra"] } }

/-- The settings pass all checks; yet two topics have one path, and a document is the notes, which
are lost with it. -/
theorem not_keepsApart_crossed :
    let s := ofSettings crossedSettings
    let topics := crossedSettings.docs.customTopics.map CustomTopic.id
    crossedSettings.check = .ok () ∧
      (∃ a b : Article, a.topic ∈ topics ∧ b.topic ∈ topics ∧ a.topic ≠ b.topic ∧
        s.markdownFile a = s.markdownFile b) ∧
      ∃ a : Article, a.topic ∈ topics ∧ ¬ (s.markdownFile a).IsBelow s.docsDir ∧
        FileTree.entry? guideWorkspace.files [lit "notes.md"] = some (.file []) ∧
          FileTree.entry? ((removeDocument (s.markdownFile a)).perform guideWorkspace).2.files
            [lit "notes.md"] = none := by
  intro s topics
  refine ⟨by decide +kernel, ?_, { id := lit "kb-3", topic := lit "guide../../../../notes" },
    by decide, ?_, by decide, by decide +kernel⟩
  · exact ⟨{ id := lit "kb-1", topic := lit "guide.a/b" },
      { id := lit "kb-2", topic := lit "guide/a.b" }, by decide, by decide, by decide, by decide⟩
  · rintro ⟨names, q, hpath, hq, -⟩
    have hnames : s.docsDir.names ++ [lit "guide", lit "..", lit "..", lit "..", lit "notes.md"] =
        s.docsDir.names ++ names := congrArg FilePath.names hpath
    rw [← List.append_cancel_left hnames] at hq
    cases hq

end Store

end HelpCenter

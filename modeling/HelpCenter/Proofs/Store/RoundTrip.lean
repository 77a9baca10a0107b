import HelpCenter.Proofs.Article.RoundTrip
import HelpCenter.Proofs.Store.Load
import HelpCenter.Proofs.Workspace.Files

/-!
# Loading what was saved

Saving writes the three state files and then the documents.  If the state files lead to different
places and no document leads to one of them, each state file still holds what was written to it,
and loading gives back the knowledge base (`load_save`).  The names of the documents come from ids
and topics, so a document can lead anywhere.
-/

namespace HelpCenter

open Json
open FileTree (Extends)

/-- All records of the knowledge base have fields of the declared types. -/
structure KnowledgeBase.IsTyped (k : KnowledgeBase) : Prop where
  articles : ∀ a ∈ k.articles, a.IsTyped
  gaps : ∀ g ∈ k.gaps, g.IsTyped
  codeMap : ∀ m, k.codeMap = some m → m.IsTyped
  info : k.info.IsTyped

namespace Store

variable {s : Store} {file : Place} {w w' : Workspace} {t : FileTree}

/-! ## Writing -/

/-- The documents of an article. -/
def documents (s : Store) (a : Article) : List Place :=
  (if s.hasFormat "markdown" then [(s.markdownFile a).place []] else []) ++
    (if s.hasFormat "json" then [(s.jsonFile a.id).place []] else [])

/-- The text of a file, written as it is printed. -/
def HoldsJson (file : Place) (v : Json) (t : FileTree) : Prop :=
  ∃ bytes q, v.pretty.toUtf8? = some bytes ∧ t.Holds file q bytes

theorem writeJson_eq_ok {v : Json} {x : Unit} (h : (writeJson file v).perform w = (.ok x, w')) :
    Extends w.files w'.files [file] ∧ Action.checkNames file = .ok () ∧ v.isPrintable = true ∧
      HoldsJson file v w'.files := by
  unfold writeJson pretty? at h
  split at h
  · next text htext =>
    split at htext
    · next hv =>
      obtain rfl := Option.some.inj htext
      obtain ⟨hext, hnames, hbytes⟩ := Action.writeText_eq_ok h
      exact ⟨hext, hnames, hv, hbytes⟩
    · cases htext
  · cases h

theorem writeState_eq_ok {v : Json} {x : Unit} (h : (writeState file v).perform w = (.ok x, w')) :
    Extends w.files w'.files [file] ∧ Action.checkNames file = .ok () ∧ v.isPrintable = true ∧
      HoldsJson file v w'.files := by
  obtain ⟨u, w₁, h₁, h₂⟩ := Action.perform_bind_eq_ok (Action.onFileFault_eq_ok h)
  obtain ⟨hext, hrest⟩ := writeJson_eq_ok h₂
  exact ⟨(Action.writes_makeDirs _ _ _ _ h₁).trans hext, hrest⟩

theorem writes_writeJson (file : Place) (v : Json) : Action.Writes (writeJson file v) [file] :=
  fun _ _ _ h => (writeJson_eq_ok h).1

theorem writes_writeDocument (file : FilePath) (text : Except DataFault Text) :
    Action.Writes (writeDocument file text) [file.place []] := by
  refine (Action.writes_makeDirs _).bind fun _ => ?_
  cases text with
  | ok text => exact Action.writes_writeText _ text
  | error fault => exact fun _ _ _ h => by cases h

/-- Writes the document of an article as Markdown, if documents are written so. -/
def writeMarkdown (s : Store) (a : Article) : Action Unit :=
  if s.hasFormat "markdown" then writeDocument (s.markdownFile a) a.markdown else pure ()

/-- Writes the document of an article as JSON, if documents are written so. -/
def writeRecord (s : Store) (a : Article) : Action Unit :=
  if s.hasFormat "json" then do
    Action.makeDirs (s.jsonDir.place [])
    writeJson ((s.jsonFile a.id).place []) a.toJson
  else pure ()

theorem writeDocs_eq (s : Store) (a : Article) :
    s.writeDocs a = Action.onFileFault (.store ∘ .docsUnwritable a.id)
      (s.writeMarkdown a >>= fun _ => s.writeRecord a) := by
  unfold writeDocs writeMarkdown
  by_cases hmarkdown : s.hasFormat "markdown" = true
  · simp only [hmarkdown, if_true]
    rfl
  · simp only [hmarkdown, if_false, Bool.false_eq_true]
    rfl

theorem writes_writeDocs (s : Store) (a : Article) :
    Action.Writes (s.writeDocs a) (s.documents a) := by
  rw [writeDocs_eq]
  refine Action.Writes.onFileFault (Action.Writes.bind ?_ fun _ => ?_)
  · unfold writeMarkdown
    split
    · exact writes_writeDocument _ _
    · exact Action.writes_pure ()
  · unfold writeRecord
    split
    · exact (Action.writes_makeDirs _).bind fun _ => writes_writeJson _ _
    · exact Action.writes_pure ()

/-! ## Saving -/

/-- The value in the file of the articles. -/
def itemsJson (k : KnowledgeBase) : Json := .ofFields [
  ("items", .arr (k.articles.map Article.toJson)), ("meta", k.info.toJson)]

/-- The value in the file of the questions. -/
def gapsJson (k : KnowledgeBase) : Json := .ofFields [("gaps", .arr (k.gaps.map Gap.toJson))]

/-- Saves the code map, if there is one. -/
def saveMap (s : Store) (k : KnowledgeBase) : Action Unit :=
  match k.codeMap with
  | some m => s.saveCodeMap m
  | none => pure ()

/-- What saving does after the questions are written. -/
def saveOthers (s : Store) (k : KnowledgeBase) : Action Unit := do
  s.saveMap k
  k.articles.forM s.writeDocs

/-- What saving does after the articles are written. -/
def saveRest (s : Store) (k : KnowledgeBase) : Action Unit := do
  writeState s.gapsFile (gapsJson k)
  s.saveOthers k

theorem save_eq (s : Store) (k : KnowledgeBase) :
    s.save k = writeState s.itemsFile (itemsJson k) >>= fun _ => s.saveRest k := by
  unfold save saveRest saveOthers saveMap
  cases k.codeMap <;> rfl

/-- The file of the code map, if there is one to save. -/
def mapFiles (s : Store) (k : KnowledgeBase) : List Place :=
  if k.codeMap.isSome then [s.codeMapFile] else []

theorem writes_saveMap (s : Store) (k : KnowledgeBase) :
    Action.Writes (s.saveMap k) (s.mapFiles k) := by
  unfold saveMap mapFiles
  cases k.codeMap with
  | none => exact Action.writes_pure ()
  | some m => exact fun _ _ _ h => (writeState_eq_ok h).1

theorem writes_save (s : Store) (k : KnowledgeBase) : Action.Writes (s.save k)
    ([s.itemsFile] ++ ([s.gapsFile] ++ (s.mapFiles k ++ k.articles.flatMap s.documents))) := by
  have state (file : Place) (v : Json) : Action.Writes (writeState file v) [file] :=
    fun _ _ _ h => (writeState_eq_ok h).1
  rw [save_eq]
  exact (state _ _).bind fun _ => (state _ _).bind fun _ => (writes_saveMap s k).bind fun _ =>
    Action.writes_forM s.writes_writeDocs k.articles

/-- A file that is not written to afterwards still holds its value. -/
theorem HoldsJson.extends {t' : FileTree} {v : Json} {fs : List Place} (h : HoldsJson file v t)
    (hext : Extends t t' fs) (hfs : ∀ f ∈ fs, t'.locate f ≠ t'.locate file) :
    HoldsJson file v t' := by
  obtain ⟨bytes, q, hb, hq⟩ := h
  obtain ⟨c, hc, hsame⟩ := hext.keeps hq
  rw [hsame fun f hf => by rw [← hc.locate]; exact hfs f hf] at hc
  exact ⟨bytes, q, hb, hc⟩

/-- The state files lead to different places, and no document of an article leads to one. -/
structure Apart (s : Store) (k : KnowledgeBase) (t : FileTree) : Prop where
  states : [s.itemsFile, s.gapsFile, s.codeMapFile].Pairwise fun p q => t.locate q ≠ t.locate p
  documents : ∀ a ∈ k.articles, ∀ d ∈ s.documents a,
    ∀ p ∈ [s.itemsFile, s.gapsFile, s.codeMapFile], t.locate d ≠ t.locate p

/-- The file can be asked for and holds the text of a value that can be printed. -/
structure Saved (file : Place) (v : Json) (t : FileTree) : Prop where
  names : Action.checkNames file = .ok ()
  printable : v.isPrintable = true
  holds : HoldsJson file v t

/-- After a success each state file holds what was written to it. -/
theorem save_eq_ok {k : KnowledgeBase} {x : Unit}
    (h : (s.save k).perform w = (.ok x, w')) (hapart : s.Apart k w'.files) :
    Saved s.itemsFile (itemsJson k) w'.files ∧ Saved s.gapsFile (gapsJson k) w'.files ∧
      ∀ m, k.codeMap = some m → Saved s.codeMapFile m.toJson w'.files := by
  rw [save_eq] at h
  obtain ⟨_, w₁, h₁, h⟩ := Action.perform_bind_eq_ok h
  obtain ⟨_, w₂, h₂, h⟩ := Action.perform_bind_eq_ok h
  obtain ⟨_, w₃, h₃, h₄⟩ := Action.perform_bind_eq_ok h
  obtain ⟨-, names₁, printable₁, holds₁⟩ := writeState_eq_ok h₁
  obtain ⟨ext₂, names₂, printable₂, holds₂⟩ := writeState_eq_ok h₂
  have ext₃ := writes_saveMap s k _ _ _ h₃
  have ext₄ := Action.writes_forM s.writes_writeDocs k.articles _ _ _ h₄
  have hstates := hapart.states
  simp only [List.pairwise_cons, List.forall_mem_cons, List.not_mem_nil, false_implies,
    implies_true, and_true, List.Pairwise.nil] at hstates
  have docs {p : Place} (hp : p ∈ [s.itemsFile, s.gapsFile, s.codeMapFile]) :
      ∀ f ∈ k.articles.flatMap s.documents, w'.files.locate f ≠ w'.files.locate p := fun f hf => by
    obtain ⟨a, ha, hf⟩ := List.mem_flatMap.1 hf
    exact hapart.documents a ha f hf p hp
  have map {p : Place} (hp : w'.files.locate s.codeMapFile ≠ w'.files.locate p) :
      ∀ f ∈ s.mapFiles k, w'.files.locate f ≠ w'.files.locate p := fun f hf => by
    unfold mapFiles at hf
    split at hf
    · rwa [List.mem_singleton.1 hf]
    · cases hf
  refine ⟨⟨names₁, printable₁, holds₁.extends (ext₂.trans (ext₃.trans ext₄)) ?_⟩,
    ⟨names₂, printable₂, holds₂.extends (ext₃.trans ext₄) ?_⟩, fun m hm => ?_⟩
  · exact List.forall_mem_append.2 ⟨List.forall_mem_singleton.2 hstates.1.1,
      List.forall_mem_append.2 ⟨map hstates.1.2, docs (p := s.itemsFile) (by simp)⟩⟩
  · exact List.forall_mem_append.2 ⟨map hstates.2, docs (p := s.gapsFile) (by simp)⟩
  · rw [saveMap, hm] at h₃
    obtain ⟨-, names₃, printable₃, holds₃⟩ := writeState_eq_ok h₃
    exact ⟨names₃, printable₃, holds₃.extends ext₄ (docs (by simp))⟩

/-! ## Loading again -/

theorem read_of_holds {q : Place} {bytes : Bytes} (h : t.Holds file q bytes) :
    t.read file = .ok bytes := by
  simp [FileTree.read, FileTree.stat, h.locate, h.entry, bind, Except.bind, pure, Except.pure]

theorem readText_of_holds {q : Place} {bytes : Bytes} (h : t.Holds file q bytes) :
    t.readText file = match Utf8.decode bytes with
      | .ok text => .ok (Text.normalizeNewlines text)
      | .error fault => .error (.data (.notUtf8 fault)) := by
  have hread := read_of_holds h
  unfold FileTree.readText
  generalize t.read file = r at hread ⊢
  subst hread
  rfl

theorem HoldsJson.readText {v : Json} (h : HoldsJson file v t) :
    t.readText file = .ok v.pretty := by
  obtain ⟨bytes, q, hb, hq⟩ := h
  have hplain := isPlain_prettyAt 0 v
  obtain ⟨bytes', hb', hdecode⟩ := hplain.decode
  obtain rfl : bytes = bytes' := Option.some.inj (hb.symm.trans hb')
  rw [readText_of_holds hq, hdecode]
  exact congrArg Except.ok hplain.normalizeNewlines

theorem Saved.stateRead {v : Json} (h : Saved file v t) (hv : IsNormal v) :
    stateRead file t = .ok (some v) := by
  unfold Store.stateRead
  rw [h.names]
  simp only [bind, Except.bind, h.holds.readText, stateOf, parse_pretty h.printable]
  rw [hv]

/-- Records that are read back from the objects written for them are all in the list. -/
theorem recordsRead_ofFields {α : Type} {read : Json → Except DataFault α} {write : α → Json}
    {fields : List (String × Json)} {member : String} {xs : List α}
    (h : fields.lookup member = some (.arr (xs.map write)))
    (hobj : ∀ x, ∃ members, write x = .obj members) (hr : ∀ x ∈ xs, read (write x) = .ok x) :
    recordsRead member read (fields.map fun (n, v) => (Text.ofString n, v)) = .ok xs := by
  have hlist := list_ofFields h
  have hmap : (xs.map write).mapM (recordRead read) = .ok (xs.map some) := by
    refine Except.mapM_eq_ok_iff.2 ?_
    rw [List.forall₂_map_left_iff, List.forall₂_map_right_iff, List.forall₂_same]
    intro x hx
    obtain ⟨members, hm⟩ := hobj x
    have hread := hr x hx
    rw [hm] at hread ⊢
    rw [recordRead, hread]
    rfl
  unfold recordsRead
  rw [ofFields] at hlist
  rw [hlist]
  dsimp only
  rw [hmap]
  simp [bind, Except.bind, List.filterMap_map]

theorem KnowledgeBase.isNormal_itemsJson {k : KnowledgeBase} (hk : k.IsTyped) :
    IsNormal (itemsJson k) := by
  refine isNormal_ofFields (by simp) ?_
  simp only [List.forall_mem_cons]
  exact ⟨
    isNormal_arr (List.forall_mem_map.2 fun a ha => Article.isNormal_toJson (hk.articles a ha)),
    KnowledgeInfo.isNormal_toJson hk.info, nofun⟩

theorem KnowledgeBase.isNormal_gapsJson {k : KnowledgeBase} (hk : k.IsTyped) :
    IsNormal (gapsJson k) := by
  refine isNormal_ofFields (by simp) ?_
  simp only [List.forall_mem_cons]
  exact ⟨isNormal_arr (List.forall_mem_map.2 fun g hg => Gap.isNormal_toJson (hk.gaps g hg)), nofun⟩

theorem infoOf_itemsJson {k : KnowledgeBase} (hname : k.info.name = s.name)
    (hversion : k.info.version = s.version) : s.infoOf (itemsJson k) = k.info := by
  obtain ⟨articles, gaps, codeMap, name, version, lastScanAt, lastGenerateAt⟩ := k
  cases hname
  cases hversion
  unfold infoOf itemsJson KnowledgeInfo.toJson
  simp only [get?_ofFields]
  rfl

/-- What is loaded after a knowledge base was saved is that knowledge base. -/
theorem load_save {k : KnowledgeBase} (hk : k.IsTyped) (hmap : k.codeMap.isSome = true)
    (hname : k.info.name = s.name) (hversion : k.info.version = s.version)
    (hsave : (s.save k).perform w = (.ok (), w')) (hapart : s.Apart k w'.files)
    (later : Workspace) (hlater : later.files = w'.files) :
    (s.load.perform later).1 = .ok k := by
  obtain ⟨m, hm⟩ := Option.isSome_iff_exists.1 hmap
  obtain ⟨items, gaps, codeMap⟩ := save_eq_ok hsave hapart
  have hitems := items.stateRead (KnowledgeBase.isNormal_itemsJson hk)
  have hgaps := gaps.stateRead (KnowledgeBase.isNormal_gapsJson hk)
  have hcode := (codeMap m hm).stateRead (CodeMap.isNormal_toJson (hk.codeMap m hm))
  rw [(reads_load s later).1, hlater]
  have harticles : recordsRead "items" Article.ofJson (membersOf (some (itemsJson k))) =
      .ok k.articles :=
    recordsRead_ofFields rfl (fun _ => ⟨_, rfl⟩) fun a ha =>
      (hk.articles a ha).ofJson_toJson
  have hquestions : recordsRead "gaps" Gap.ofJson (membersOf (some (gapsJson k))) = .ok k.gaps :=
    recordsRead_ofFields rfl (fun _ => ⟨_, rfl⟩) fun g hg => (hk.gaps g hg).ofJson_toJson
  have hread : codeMapRead (some m.toJson) = .ok (some m) :=
    congrArg fitting ((hk.codeMap m hm).ofJson_toJson)
  refine Except.bind_ok hitems <| Except.bind_ok hgaps <| Except.bind_ok harticles <|
    Except.bind_ok hquestions <| Except.bind_ok (Except.bind_ok hcode hread) ?_
  have hinfo : s.infoOf (.obj (membersOf (some (itemsJson k)))) = k.info :=
    infoOf_itemsJson hname hversion
  rw [hinfo, ← hm]
  rfl

/-- A knowledge base with one article. -/
def oneArticle (id : Text) : KnowledgeBase where
  articles := [{
    id := id
    topic := lit "billing.plan-change"
    confidence := .double (.finite false 0x10000000000000 1021 (by decide)) }]
  codeMap := some {}

/-- A workspace with no files. -/
def emptyWorkspace : Workspace where
  files := .empty
  now := ⟨0⟩

theorem oneArticle_isTyped {id : Text} (h : id.isEncodable = true) : (oneArticle id).IsTyped where
  articles a ha := by
    obtain rfl := List.mem_singleton.1 ha
    exact {
      id := h, topic := rfl
      title := ⟨_, rfl, rfl⟩, content := ⟨_, rfl, rfl⟩
      pages := nofun, sourceFiles := nofun
      codeVersion := rfl, generatedAt := rfl, status := rfl, status_ne_nil := nofun
      confidence := ⟨_, rfl, rfl, by decide⟩
      lastEditedAt := .inl rfl, lastEditedBy := .inl rfl }
  gaps := nofun
  codeMap m hm := by
    obtain rfl := Option.some.inj hm
    exact {
      routes := nofun, components := nofun, pages := nofun, strings := nofun
      endpoints := nofun, features := nofun
      info := ⟨rfl, .inl rfl⟩ }
  info := ⟨rfl, rfl, .inl rfl, .inl rfl⟩

/-- What saving the knowledge base with one article gives, and the workspace after it. -/
def oneArticleSaved (id : Text) : Except Failure Unit × Workspace :=
  (({ root := [] } : Store).save (oneArticle id)).perform emptyWorkspace

theorem eq_ok_of_isSome {r : Except Failure Unit × Workspace} (h : r.1.toOption.isSome) :
    r = (.ok (), r.2) := by
  obtain ⟨_ | ⟨⟨⟩⟩, w⟩ := r
  · cases h
  · rfl

theorem load_save_oneArticle :
    (({ root := [] } : Store).load.perform (oneArticleSaved (lit "kb-1")).2).1 =
      .ok (oneArticle (lit "kb-1")) := by
  have hsave : (({ root := [] } : Store).save (oneArticle (lit "kb-1"))).perform emptyWorkspace =
      (.ok (), (oneArticleSaved (lit "kb-1")).2) :=
    eq_ok_of_isSome (r := oneArticleSaved (lit "kb-1")) (by decide +kernel)
  have hstates : ({ root := [] } : Store).Apart (oneArticle (lit "kb-1"))
      (oneArticleSaved (lit "kb-1")).2.files :=
    ⟨by decide +kernel, by decide +kernel⟩
  exact load_save (oneArticle_isTyped rfl) rfl rfl rfl hsave hstates _ rfl

/-- A document that is written over the file of the articles takes their place. -/
theorem not_load_save_wayward :
    (oneArticleSaved (lit "../../items")).1.toOption.isSome ∧
      ¬ (({ root := [] } : Store).load.perform (oneArticleSaved (lit "../../items")).2).1 =
        .ok (oneArticle (lit "../../items")) := by
  refine ⟨by decide +kernel, fun h => ?_⟩
  have hnone : ((({ root := [] } : Store).load.perform
      (oneArticleSaved (lit "../../items")).2).1.toOption.map (·.articles.length)) = some 0 := by
    decide +kernel
  rw [h] at hnone
  cases hnone

end Store

end HelpCenter

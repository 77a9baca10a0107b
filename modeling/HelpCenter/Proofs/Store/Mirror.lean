import HelpCenter.Proofs.Store.Documents
import HelpCenter.Proofs.Store.Recall

/-!
# Documents that mirror the articles

Saving writes the documents of all articles, and each is there in the end if no two files lead to
one place (`fills_writeDocs`, `SavesAt.hasDocuments`).  Nothing is removed by it, so the documents
mirror the articles as long as no article is given up: `Documented` is what the saves before have to
leave behind for that, and `Documented.saved` is the step.
-/

namespace HelpCenter

open FileTree (Extends)

namespace Action

variable {α β : Type} {w w' : Workspace} {ds es : List (Place × Option Text)}

/-- A success of the action writes each path, and in the end each holds its text if they lead to
different places. -/
def Fills (a : Action α) (ds : List (Place × Option Text)) : Prop :=
  ∀ w x w', a.perform w = (.ok x, w') → Extends w.files w'.files (ds.map Prod.fst) ∧
    ((ds.map Prod.fst).Pairwise (fun p q => w'.files.locate p ≠ w'.files.locate q) →
      ∀ d ∈ ds, ∃ text bytes q, d.2 = some text ∧ text.toUtf8? = some bytes ∧
        w'.files.Holds d.1 q bytes)

theorem fills_pure (x : α) : Fills (pure x) [] :=
  fun w _ w' h => ⟨writes_pure x w _ w' h, fun _ => nofun⟩

theorem Fills.bind {a : Action α} {f : α → Action β} (ha : Fills a ds)
    (hf : ∀ x, Fills (f x) es) : Fills (a >>= f) (ds ++ es) := by
  intro w y w' h
  obtain ⟨x, w₁, h₁, h₂⟩ := perform_bind_eq_ok h
  obtain ⟨hext₁, hfill₁⟩ := ha _ _ _ h₁
  obtain ⟨hext₂, hfill₂⟩ := hf x _ _ _ h₂
  rw [List.map_append]
  refine ⟨hext₁.trans hext₂, fun hapart => ?_⟩
  obtain ⟨hfirst, hsecond, hbetween⟩ := List.pairwise_append.1 hapart
  have hsame : ∀ p ∈ ds.map Prod.fst, w'.files.locate p = w₁.files.locate p := fun p hp => by
    obtain ⟨q, c, hq⟩ := hext₁.holds p hp
    exact hext₂.locate_eq hq
  refine List.forall_mem_append.2 ⟨fun d hd => ?_, hfill₂ hsecond⟩
  have hfirst' : (ds.map Prod.fst).Pairwise
      fun p q => w₁.files.locate p ≠ w₁.files.locate q := by
    refine hfirst.imp_of_mem fun {p q} hp hq hne => ?_
    rwa [← hsame p hp, ← hsame q hq]
  obtain ⟨text, bytes, q, htext, hbytes, hq⟩ := hfill₁ hfirst' d hd
  obtain ⟨c, hc, hkept⟩ := hext₂.keeps hq
  have hd := List.mem_map_of_mem (f := Prod.fst) hd
  rw [hkept fun f hf hfq => hbetween _ hd f hf (hc.locate.trans hfq.symm)] at hc
  exact ⟨text, bytes, q, htext, hbytes, hc⟩

theorem fills_forM {f : β → Action Unit} {g : β → List (Place × Option Text)}
    (h : ∀ x, Fills (f x) (g x)) (xs : List β) : Fills (xs.forM f) (xs.flatMap g) := by
  induction xs with
  | nil => exact fills_pure ()
  | cons x xs ih => exact (h x).bind fun _ => ih

theorem Fills.onFileFault {a : Action α} {e : FileFault → Failure} (h : Fills a ds) :
    Fills (onFileFault e a) ds :=
  fun w x w' hp => h w x w' (onFileFault_eq_ok hp)

theorem fills_makeDirs (p : Place) : Fills (makeDirs p) [] :=
  fun w x w' h => ⟨writes_makeDirs p w x w' h, fun _ => nofun⟩

theorem fills_writeText (p : Place) (text : Text) : Fills (writeText p text) [(p, some text)] := by
  intro w x w' h
  obtain ⟨hext, -, bytes, q, hbytes, hq⟩ := writeText_eq_ok h
  exact ⟨hext, fun _ => List.forall_mem_singleton.2 ⟨text, bytes, q, rfl, hbytes, hq⟩⟩

theorem fills_throw (e : Failure) : Fills (throw e : Action α) ds := fun _ _ _ h => nomatch h

end Action

open HelpCenter.Action (Fills)

namespace Store

variable {s : Store} {base : Place} {w w' : Workspace} {k : KnowledgeBase} {t t' : FileTree}

theorem fills_writeDocs (s : Store) (a : Article) : Fills (s.writeDocs a) (s.rendered a) := by
  rw [writeDocs_eq]
  refine Fills.onFileFault (Fills.bind ?_ fun _ => ?_)
  · unfold writeMarkdown
    split
    · refine (Action.fills_makeDirs _).bind fun _ => ?_
      cases a.markdown with
      | ok text => exact Action.fills_writeText _ text
      | error fault => exact Action.fills_throw _
    · exact Action.fills_pure ()
  · unfold writeRecord
    split
    · refine (Action.fills_makeDirs _).bind fun _ => ?_
      unfold writeJson
      cases a.toJson.pretty? with
      | some text => exact Action.fills_writeText _ text
      | none => exact Action.fills_throw _
    · exact Action.fills_pure ()

/-! ## Saving -/

/-- Saving the knowledge base turns the first files into the second. -/
def Turns (s : Store) (k : KnowledgeBase) (t t' : FileTree) : Prop :=
  ∃ w w', w.files = t ∧ (s.save k).perform w = (.ok (), w') ∧ w'.files = t'

theorem yields_save_bind {α : Type} {b : Action α} {now : Moment} {S : α → FileTree → Prop}
    (hb : ∀ t' now', s.Turns k t t' → Action.Quiet t' now' b (S · t')) :
    Action.Yields t now (s.save k >>= fun _ => b) S := by
  intro w ht hn x hx
  rcases hp : (s.save k >>= fun _ => b).perform w with ⟨r, w'⟩
  rw [hp] at hx
  subst hx
  obtain ⟨⟨⟩, w₁, hsave, hrest⟩ := Action.perform_bind_eq_ok hp
  exact (hb _ _ ⟨w, w₁, ht, hsave, rfl⟩).yields.of_eq_ok rfl rfl hrest

theorem Turns.extends (h : s.Turns k t t') : Extends t t'
    ([s.itemsFile] ++ ([s.gapsFile] ++ (s.mapFiles k ++ k.articles.flatMap s.documents))) := by
  obtain ⟨w, w', rfl, hsave, rfl⟩ := h
  exact writes_save s k _ _ _ hsave

theorem Turns.saved (h : s.Turns k t t') (hapart : s.Apart k t') :
    Saved s.itemsFile (itemsJson k) t' ∧ Saved s.gapsFile (gapsJson k) t' := by
  obtain ⟨w, w', -, hsave, rfl⟩ := h
  obtain ⟨hitems, hgaps, -⟩ := save_eq_ok hsave hapart
  exact ⟨hitems, hgaps⟩

/-- A knowledge base is saved whose documents can be told apart, in a tree without links below the
directory of the documents. -/
structure SavesAt (s : Store) (base : Place) (k : KnowledgeBase) (t t' : FileTree) : Prop where
  save : s.Turns k t t'
  filed : s.FiledApart k.articles
  minted : ∀ a ∈ k.articles, a.IsMinted
  stands : s.StandsAt base t'
  links : t.NoLinksBelow base

theorem place_of_locate {q : Place} {names : List Text} (hstands : s.StandsAt base t)
    (hlinks : t.NoLinksBelow base) (hn : names ∈ s.documentNames a)
    (h : t.locate (s.docsDir.names ++ names) = .ok q) : q = base ++ names := by
  exact FileTree.eq_append_of_walk (fun _ => hstands.eq_base) hlinks (ne_nil_of_mem hn)
    (up_notMem_of_mem hn) h

theorem mem_documents_iff {a : Article} {p : Place} (ha : IsFlat a) :
    p ∈ s.documents a ↔ ∃ names ∈ s.documentNames a, s.docsDir.names ++ names = p := by
  rw [documents_eq ha, List.mem_map]

namespace SavesAt

variable (h : s.SavesAt base k t t')

include h

theorem isFlat : ∀ a ∈ k.articles, IsFlat a := h.filed.isFlat h.minted

theorem noLinksBelow : t'.NoLinksBelow base := h.save.extends.noLinksBelow h.links

/-- Each document is at its place. -/
theorem placed : ∀ a ∈ k.articles, ∀ names ∈ s.documentNames a, ∃ c,
    t'.Holds (s.docsDir.names ++ names) (base ++ names) c := by
  intro a ha names hn
  have hwritten : s.docsDir.names ++ names ∈ k.articles.flatMap s.documents :=
    List.mem_flatMap.2 ⟨a, ha, (mem_documents_iff (h.isFlat a ha)).2 ⟨names, hn, rfl⟩⟩
  obtain ⟨q, c, hq⟩ := h.save.extends.holds _
    (List.mem_append_right _ (List.mem_append_right _ (List.mem_append_right _ hwritten)))
  obtain rfl := place_of_locate h.stands h.noLinksBelow hn hq.locate
  exact ⟨c, hq⟩

/-- The documents are files of their own. -/
theorem documents_apart : (k.articles.flatMap s.documents).Pairwise
    fun p q => t'.locate p ≠ t'.locate q := by
  have hdocuments : k.articles.flatMap s.documents =
      (k.articles.flatMap s.documentNames).map (s.docsDir.names ++ ·) := by
    rw [List.map_flatMap]
    exact List.flatMap_congr fun a ha => documents_eq (h.isFlat a ha)
  rw [hdocuments, List.pairwise_map]
  refine (h.filed.nodup h.isFlat).imp_of_mem fun {names names'} hn hn' hne heq => hne ?_
  obtain ⟨a, ha, hn⟩ := List.mem_flatMap.1 hn
  obtain ⟨b, hb, hn'⟩ := List.mem_flatMap.1 hn'
  obtain ⟨c, hc⟩ := h.placed a ha names hn
  obtain ⟨c', hc'⟩ := h.placed b hb names' hn'
  rw [hc.locate, hc'.locate] at heq
  exact List.append_cancel_left (Except.ok.inj heq)

/-- No document leads to a state file. -/
theorem apart : s.Apart k t' where
  states := h.stands.states
  documents a ha d hd p hp heq := by
    obtain ⟨names, hn, rfl⟩ := (mem_documents_iff (h.isFlat a ha)).1 hd
    obtain ⟨c, hc⟩ := h.placed a ha names hn
    exact h.stands.apart p hp _ (heq.symm.trans hc.locate) (isDocument_of_mem hn)

theorem stored_eq : s.stored t' = restored k.articles :=
  stored_of_saved (h.save.saved h.apart).1

/-- What is written into the documents. -/
theorem found : ∀ a ∈ k.articles, ∀ d ∈ s.rendered a, ∃ text bytes q, d.2 = some text ∧
    text.toUtf8? = some bytes ∧ t'.Holds d.1 q bytes ∧ IsDocument base q := by
  obtain ⟨w, w', rfl, hsave, rfl⟩ := h.save
  rw [save_eq] at hsave
  obtain ⟨_, w₁, -, hsave⟩ := Action.perform_bind_eq_ok hsave
  obtain ⟨_, w₂, -, hsave⟩ := Action.perform_bind_eq_ok hsave
  obtain ⟨_, w₃, -, hsave⟩ := Action.perform_bind_eq_ok hsave
  obtain ⟨-, hfill⟩ := Action.fills_forM (fills_writeDocs s) k.articles _ _ _ hsave
  have hpaths : (k.articles.flatMap s.rendered).map Prod.fst =
      k.articles.flatMap s.documents := by
    rw [List.map_flatMap]
    exact List.flatMap_congr fun a _ => (documents_eq_map s a).symm
  rw [hpaths] at hfill
  intro a ha d hd
  obtain ⟨text, bytes, q, htext, hbytes, hq⟩ :=
    hfill h.documents_apart d (List.mem_flatMap.2 ⟨a, ha, hd⟩)
  have hpath : d.1 ∈ s.documents a := documents_eq_map s a ▸ List.mem_map_of_mem hd
  obtain ⟨names, hn, hnames⟩ := (mem_documents_iff (h.isFlat a ha)).1 hpath
  rw [← hnames] at hq
  obtain rfl := place_of_locate h.stands h.noLinksBelow hn hq.locate
  exact ⟨text, bytes, _, htext, hbytes, hnames ▸ hq, isDocument_of_mem hn⟩

/-- A document that is there was there before, or it is written. -/
theorem old_or_written {q : Place} {e : Entry} (hq : IsDocument base q)
    (he : t'.entry? q = some e) (hdir : e ≠ .dir) : t.entry? q = some e ∨
      ∃ a ∈ k.articles, ∃ p ∈ s.documents a, t'.locate p = .ok q := by
  by_cases hnew : ∃ a ∈ k.articles, ∃ p ∈ s.documents a, t'.locate p = .ok q
  · exact .inr hnew
  have hothers : t'.entry? q = t.entry? q ∨
      (t.entry? q = none ∧ t'.entry? q = some .dir) := by
    refine h.save.extends.others fun f hf hfq => ?_
    have state (hf : f ∈ [s.itemsFile, s.gapsFile, s.codeMapFile]) : False :=
      h.stands.apart f hf q hfq hq
    rw [List.mem_append, List.mem_append, List.mem_append, List.mem_singleton,
      List.mem_singleton] at hf
    rcases hf with rfl | rfl | hf | hf
    · exact state (by simp)
    · exact state (by simp)
    · unfold mapFiles at hf
      split at hf
      · exact state (by simp [List.mem_singleton.1 hf])
      · cases hf
    · obtain ⟨a, ha, hf⟩ := List.mem_flatMap.1 hf
      exact hnew ⟨a, ha, f, hf, hfq⟩
  rcases hothers with hsame | ⟨-, hnewdir⟩
  · exact .inl (hsame.symm.trans he)
  · rw [he] at hnewdir
    exact absurd (Option.some.inj hnewdir) hdir

/-- Ids and topics of which the names of documents are made can be encoded. -/
theorem isEncodable (hformat : s.WritesDocuments) :
    ∀ a ∈ k.articles, a.id.isEncodable = true ∧ a.topic.isEncodable = true := by
  intro a ha
  obtain ⟨w, w', rfl, hsave, rfl⟩ := h.save
  rw [save_eq] at hsave
  obtain ⟨_, w₁, -, hsave⟩ := Action.perform_bind_eq_ok hsave
  obtain ⟨_, w₂, -, hsave⟩ := Action.perform_bind_eq_ok hsave
  obtain ⟨_, w₃, -, hsave⟩ := Action.perform_bind_eq_ok hsave
  obtain ⟨w₄, w₅, hdocs⟩ := Action.forM_eq_ok hsave a ha
  have hnames := canDocument_of_writeDocs hdocs
  obtain ⟨hid, htopic⟩ := h.isFlat a ha
  obtain ⟨now, hminted⟩ := h.minted a ha
  have hsame : a.id.isEncodable = a.topic.isEncodable := by
    rw [hminted, isEncodable_newArticleId]
  rcases hformat with hformat | hformat
  · obtain ⟨hchecked, -⟩ := hnames.markdown hformat
    rw [markdownFile_eq htopic, place_docsDir, Action.checkNames_eq_ok_iff] at hchecked
    have htopic : a.topic.isEncodable = true := isEncodable_of_topicNames fun name hname =>
      (hchecked name (List.mem_append_right _ hname)).1
    exact ⟨hsame.trans htopic, htopic⟩
  · obtain ⟨-, hchecked⟩ := hnames.record hformat
    have hchecked := hchecked.names
    rw [jsonFile_eq hid, place_docsDir, Action.checkNames_eq_ok_iff] at hchecked
    have hfile := (hchecked (a.id ++ lit ".json") (by simp [idNames])).1
    rw [Text.isEncodable_append, Bool.and_eq_true_iff] at hfile
    exact ⟨hfile.1, hsame.symm.trans hfile.1⟩

end SavesAt

/-! ## The state after a call -/

theorem forall₂_restored {articles : List Article}
    (h : ∀ a ∈ articles, ∃ x, a.readConfidence = .ok x) :
    List.Forall₂ (fun a b => Article.ofJson a.toJson.normal = .ok b) articles
      (restored articles) := by
  unfold restored
  induction articles with
  | nil => exact .nil
  | cons a articles ih =>
      obtain ⟨⟨x, hx⟩, harticles⟩ := List.forall_mem_cons.1 h
      rw [List.filterMap_cons, Article.recordOf_of_readConfidence hx]
      refine .cons ?_ (ih harticles)
      rw [Article.ofJson_normal, hx]
      rfl

/-- The documents of each article are at the places that are named after it. -/
def IsPlaced (s : Store) (base : Place) (articles : List Article) (t : FileTree) : Prop :=
  ∀ a ∈ articles, ∀ names ∈ s.documentNames a, ∃ c,
    t.Holds (s.docsDir.names ++ names) (base ++ names) c

/-- The directory of the documents is there where there are documents. -/
theorem IsPlaced.locate_docsDir {articles : List Article} (h : s.IsPlaced base articles t)
    (hformat : s.WritesDocuments)
    (hstands : s.StandsAt base t) (hne : articles ≠ []) :
    t.locate s.docsDir.names = .ok base := by
  obtain ⟨a, ha⟩ := List.exists_mem_of_ne_nil articles hne
  obtain ⟨names, hn⟩ := hformat.exists_names a
  obtain ⟨c, hc⟩ := h a ha names hn
  obtain ⟨q, links, hq, -⟩ :=
    (FileTree.locate_eq_ok_iff.1 hc.locate).of_append (ne_nil_of_mem hn) rfl
  have hlocate : t.locate s.docsDir.names = .ok q := FileTree.locate_eq_ok_iff.2 hq
  rw [hlocate, hstands.eq_base hlocate]

/-- The files hold the articles that were saved last and their documents. -/
structure HasDocuments (s : Store) (base : Place) (articles : List Article) (t : FileTree) :
    Prop where
  read : List.Forall₂ (fun a b => Article.ofJson a.toJson.normal = .ok b) articles (s.stored t)
  found : ∀ a ∈ articles, ∀ d ∈ s.rendered a, ∃ text bytes q, d.2 = some text ∧
    text.toUtf8? = some bytes ∧ t.Holds d.1 q bytes ∧ IsDocument base q
  apart : (articles.flatMap s.documents).Pairwise fun p q => t.locate p ≠ t.locate q
  filed : s.FiledApart articles
  minted : ∀ a ∈ articles, a.IsMinted
  encodable : ∀ a ∈ articles, a.id.isEncodable = true ∧ a.topic.isEncodable = true
  placed : s.IsPlaced base articles t
  directory : articles ≠ [] → t.locate s.docsDir.names = .ok base
  links : t.NoLinksBelow base

theorem SavesAt.hasDocuments (h : s.SavesAt base k t t')
    (hformat : s.WritesDocuments)
    (hread : ∀ a ∈ k.articles, ∃ x, a.readConfidence = .ok x) :
    s.HasDocuments base k.articles t' where
  read := h.stored_eq ▸ forall₂_restored hread
  found := h.found
  apart := h.documents_apart
  filed := h.filed
  minted := h.minted
  encodable := h.isEncodable hformat
  placed := h.placed
  directory := IsPlaced.locate_docsDir h.placed hformat h.stands
  links := h.noLinksBelow

variable {articles : List Article}

namespace HasDocuments

variable (h : s.HasDocuments base articles t)

include h

theorem isFlat : ∀ a ∈ articles, IsFlat a := h.filed.isFlat h.minted

/-- The articles are loaded with the ids and topics that they were saved with. -/
theorem keys : (s.stored t).map Article.key = articles.map Article.key := by
  have hkeys : List.Forall₂ (fun a b : Article => a.key = b.key) articles (s.stored t) := by
    refine List.forall₂_iff_zip.2 ⟨h.read.length_eq, fun {a b} hab => ?_⟩
    have hread := (List.forall₂_iff_zip.1 h.read).2 hab
    obtain ⟨hid, htopic⟩ := h.encodable a (List.of_mem_zip hab).1
    rw [key_of_ofJson_normal hread, Text.joinPairs_of_isEncodable hid,
      Text.joinPairs_of_isEncodable htopic]
    rfl
  have heq := List.forall₂_map_left_iff.2 (List.forall₂_map_right_iff.2 hkeys)
  exact (List.forall₂_eq_eq_eq ▸ heq).symm

theorem holds_of_mem {a : Article} (ha : a ∈ articles) {p : Place} (hp : p ∈ s.documents a) :
    ∃ q c, t.Holds p q c := by
  obtain ⟨names, hn, rfl⟩ := (mem_documents_iff (h.isFlat a ha)).1 hp
  obtain ⟨c, hc⟩ := h.placed a ha names hn
  exact ⟨_, c, hc⟩

/-- Where the documents are still there, nothing else matters but the stored articles. -/
theorem of_holds (hformat : s.WritesDocuments)
    (hstands : s.StandsAt base t') (hstored : s.stored t' = s.stored t)
    (hlinks : t'.NoLinksBelow base)
    (hholds : ∀ a ∈ articles, ∀ p ∈ s.documents a, ∀ q c, t.Holds p q c → t'.Holds p q c) :
    s.HasDocuments base articles t' := by
  have hplaced : s.IsPlaced base articles t' := by
    intro a ha names hn
    obtain ⟨c, hc⟩ := h.placed a ha names hn
    have hp := (mem_documents_iff (h.isFlat a ha)).2 ⟨names, hn, rfl⟩
    exact ⟨c, hholds a ha _ hp _ c hc⟩
  exact {
    read := hstored ▸ h.read
    found := fun a ha d hd => by
      obtain ⟨text, bytes, q, htext, hbytes, hq, hdocument⟩ := h.found a ha d hd
      have hp : d.1 ∈ s.documents a := documents_eq_map s a ▸ List.mem_map_of_mem hd
      exact ⟨text, bytes, q, htext, hbytes, hholds a ha d.1 hp q bytes hq, hdocument⟩
    apart := by
      have hsame : ∀ p ∈ articles.flatMap s.documents, t'.locate p = t.locate p := fun p hp => by
        obtain ⟨a, ha, hp⟩ := List.mem_flatMap.1 hp
        obtain ⟨q, c, hq⟩ := h.holds_of_mem ha hp
        rw [hq.locate, (hholds a ha p hp q c hq).locate]
      refine h.apart.imp_of_mem fun {p q} hp hq hne => ?_
      rwa [hsame p hp, hsame q hq]
    filed := h.filed
    minted := h.minted
    encodable := h.encodable
    placed := hplaced
    directory := hplaced.locate_docsDir hformat hstands
    links := hlinks }

end HasDocuments

/-- The files hold the articles that were saved last and their documents, and no others. -/
structure Documented (s : Store) (base : Place) (articles : List Article) (t : FileTree) : Prop
    extends s.HasDocuments base articles t where
  only : ∀ q e, IsDocument base q → t.entry? q = some e → e ≠ .dir →
    ∃ a ∈ articles, ∃ p ∈ s.documents a, t.locate p = .ok q

theorem Documented.mirrors (h : s.Documented base articles t) : s.Mirrors base articles t :=
  ⟨h.found, h.apart, h.only⟩

/-- Where nothing is stored and the directory of the documents is empty. -/
theorem documented_nil (hstored : s.stored t = [])
    (hbare : ∀ rel ≠ [], t.entry? (base ++ rel) = none) : s.Documented base [] t where
  read := by
    rw [hstored]
    exact .nil
  found := nofun
  apart := .nil
  filed := ⟨List.nodup_nil, List.nodup_nil, nofun⟩
  minted := nofun
  encodable := nofun
  placed := nofun
  directory h := absurd rfl h
  links rel hrel target htarget := by
    rw [hbare rel hrel] at htarget
    cases htarget
  only q e hq he _ := by
    obtain ⟨rel, hrel, rfl⟩ := hq.exists_below
    rw [hbare rel hrel] at he
    cases he

/-- The stored articles and what is below the directory of the documents stay as they are, and the
paths of the documents lead where they led. -/
structure Spares (s : Store) (base : Place) (articles : List Article) (t t' : FileTree) : Prop where
  stored : s.stored t' = s.stored t
  below : ∀ rel ≠ [], t'.entry? (base ++ rel) = t.entry? (base ++ rel)
  paths : ∀ p ∈ articles.flatMap s.documents, t'.locate p = t.locate p

theorem Documented.of_spares (h : s.Documented base articles t) (hformat : s.WritesDocuments)
    (hspares : s.Spares base articles t t') (hstands : s.StandsAt base t') :
    s.Documented base articles t' := by
  have hlinks : t'.NoLinksBelow base := fun rel hrel target htarget =>
    h.links rel hrel target ((hspares.below rel hrel).symm.trans htarget)
  have hpaths : ∀ a ∈ articles, ∀ p ∈ s.documents a, t'.locate p = t.locate p := fun a ha p hp =>
    hspares.paths p (List.mem_flatMap.2 ⟨a, ha, hp⟩)
  have hholds : ∀ a ∈ articles, ∀ p ∈ s.documents a, ∀ q c, t.Holds p q c → t'.Holds p q c := by
    intro a ha p hp q c hq
    obtain ⟨names, hn, rfl⟩ := (mem_documents_iff (h.isFlat a ha)).1 hp
    obtain ⟨c', hc'⟩ := h.placed a ha names hn
    obtain rfl : base ++ names = q := Except.ok.inj (hc'.locate.symm.trans hq.locate)
    exact ⟨(hpaths a ha _ hp).trans hq.locate,
      (hspares.below names (ne_nil_of_mem hn)).trans hq.entry⟩
  refine { h.toHasDocuments.of_holds hformat hstands hspares.stored hlinks hholds with only := ?_ }
  intro q e hq he hdir
  obtain ⟨rel, hrel, rfl⟩ := hq.exists_below
  obtain ⟨a, ha, p, hp, hlocate⟩ := h.only _ e hq ((hspares.below rel hrel).symm.trans he) hdir
  exact ⟨a, ha, p, hp, (hpaths a ha p hp).trans hlocate⟩

/-- A document that is there after saving is one of an article that was there before, or it is
written. -/
theorem Documented.old_or_written (h : s.Documented base articles t)
    (hsave : s.SavesAt base k t t') {q : Place} {e : Entry} (hq : IsDocument base q)
    (he : t'.entry? q = some e) (hdir : e ≠ .dir) :
    (∃ a ∈ articles, ∃ names ∈ s.documentNames a, q = base ++ names ∧
      ∃ c, t'.Holds (s.docsDir.names ++ names) q c) ∨
    ∃ a ∈ k.articles, ∃ p ∈ s.documents a, t'.locate p = .ok q := by
  refine (hsave.old_or_written hq he hdir).imp_left fun hold => ?_
  obtain ⟨a, ha, p, hp, hlocate⟩ := h.only q e hq hold hdir
  obtain ⟨names, hn, rfl⟩ := (mem_documents_iff (h.isFlat a ha)).1 hp
  obtain ⟨c, hc⟩ := h.placed a ha names hn
  obtain rfl : base ++ names = q := Except.ok.inj (hc.locate.symm.trans hlocate)
  obtain ⟨c', hc', -⟩ := hsave.save.extends.keeps hc
  exact ⟨a, ha, names, hn, rfl, c', hc'⟩

/-- The second articles can be saved after the first: none of these is missing, and each has an id
that was made for its topic and a confidence that can be read. -/
structure Renews (articles articles' : List Article) : Prop where
  kept : ∀ a ∈ articles, ∃ b ∈ articles', b.key = a.key
  minted : ∀ b ∈ articles', b.IsMinted
  read : ∀ b ∈ articles', ∃ x, b.readConfidence = .ok x

theorem HasDocuments.exists_key_iff (h : s.HasDocuments base articles t) {key : Text × Text} :
    (∃ b ∈ s.stored t, b.key = key) ↔ ∃ a ∈ articles, a.key = key := by
  rw [← List.mem_map, ← List.mem_map, h.keys]

theorem HasDocuments.read_stored (h : s.HasDocuments base articles t) :
    ∀ b ∈ s.stored t, ∃ x, b.readConfidence = .ok x := by
  intro b hb
  obtain ⟨a, -, hread⟩ := h.read.exists_of_mem_right hb
  obtain ⟨x, -, rfl⟩ := Article.exists_readBack hread
  exact Article.exists_readConfidence rfl

/-- What is saved after loading renews what was saved before if it has the ids and topics that were
loaded, and otherwise new ones. -/
theorem HasDocuments.renews (h : s.HasDocuments base articles t) {articles' : List Article}
    (hkept : (s.stored t).map Article.key ⊆ articles'.map Article.key)
    (hminted : ∀ b ∈ articles', b.key ∈ (s.stored t).map Article.key ∨ b.IsMinted)
    (hread : ∀ b ∈ articles', ∃ x, b.readConfidence = .ok x) : Renews articles articles' where
  kept a ha := by
    have hkey := List.mem_map_of_mem (f := Article.key) ha
    rw [← h.keys] at hkey
    exact List.mem_map.1 (hkept hkey)
  minted b hb := by
    refine (hminted b hb).elim (fun hkey => ?_) id
    rw [h.keys] at hkey
    obtain ⟨a, ha, hkey⟩ := List.mem_map.1 hkey
    exact (h.minted a ha).of_key hkey
  read := hread

/-- Saving where no article is given up leaves no other document behind. -/
theorem Documented.saved (h : s.Documented base articles t) (hformat : s.WritesDocuments)
    (hsave : s.Turns k t t') (hrenews : Renews articles k.articles)
    (hfiled : s.FiledApart k.articles) (hstands : s.StandsAt base t') :
    s.Documented base k.articles t' := by
  have hsaves : s.SavesAt base k t t' := ⟨hsave, hfiled, hrenews.minted, hstands, h.links⟩
  refine { hsaves.hasDocuments hformat hrenews.read with only := fun q e hq he hdir => ?_ }
  rcases h.old_or_written hsaves hq he hdir with ⟨a, ha, names, hn, rfl, c, hc⟩ | hnew
  · obtain ⟨b, hb, hkey⟩ := hrenews.kept a ha
    have hn : names ∈ s.documentNames b := documentNames_congr hkey ▸ hn
    exact ⟨b, hb, _, (mem_documents_iff (hsaves.isFlat b hb)).2 ⟨names, hn, rfl⟩, hc.locate⟩
  · exact hnew

end Store

end HelpCenter

import HelpCenter.Proofs.Store.Gaps
import HelpCenter.Proofs.Store.Invariant

/-!
# Stored questions

Saving writes the file of the questions after the one of the articles.  Once this is done the file
holds the saved questions, whatever comes of the code map and the documents, unless one of them is
written to the same place (`ends_save`).  For articles as they are loaded, nothing can go wrong but
the writing of a file (`faults_save`).
-/

namespace HelpCenter

open Json

namespace FileTree

variable {t t' : FileTree} {p q : Place}

/-- Both paths lead to one place. -/
def Meet (t : FileTree) (p q : Place) : Prop := ∃ r, t.locate p = .ok r ∧ t.locate q = .ok r

instance : Decidable (t.Meet p q) :=
  decidable_of_iff ((t.locate p).toOption.isSome = true ∧ t.locate q = t.locate p) <| by
    unfold Meet
    cases t.locate p <;> simp [Except.toOption]

end FileTree

namespace Store

variable {s : Store} {t t' : FileTree} {k : KnowledgeBase} {now : Moment} {fs : List Place}

/-! ## Contents of the file of the questions -/

/-- The questions in the state file. -/
def questions (s : Store) (t : FileTree) : List Gap := (s.content t).gaps

/-- The questions that are read back where the given ones were written. -/
def recalled (gaps : List Gap) : List Gap :=
  gaps.filterMap fun g => recordOf Gap.ofJson g.toJson.normal

theorem questions_of_stateIn (h : stateIn s.gapsFile t' = stateIn s.gapsFile t) :
    s.questions t' = s.questions t := by
  unfold questions content
  rw [h]

theorem stateIn_of_isFile_eq_false {file : Place} (h : t.isFile file = false) :
    stateIn file t = none := by
  refine (holds_or_stateIn_eq_none file t).resolve_left ?_
  rw [← FileTree.isFile_iff, h]
  nofun

theorem questions_of_isFile_eq_false (h : t.isFile s.gapsFile = false) : s.questions t = [] := by
  unfold questions content
  rw [stateIn_of_isFile_eq_false h]
  rfl

theorem questions_of_holdsJson (hprint : (gapsJson k).isPrintable = true)
    (h : HoldsJson s.gapsFile (gapsJson k) t) : s.questions t = recalled k.gaps := by
  obtain ⟨bytes, q, hb, hq⟩ := h
  unfold questions content
  rw [stateIn_of_holds hq, textOf_pretty hb, Option.bind_some, parse_pretty hprint]
  exact recordsIn_normal (by simp) rfl

/-- A ledger is read back as one. -/
theorem isLedger_recalled {n : ℕ} {gaps : List Gap} (h : IsLedger n gaps) :
    IsLedger n (recalled gaps) := by
  refine h.congr ?_
  have hread : ∀ g ∈ gaps, ∃ g', recordOf Gap.ofJson g.toJson.normal = some g' ∧
      g'.entry = g.entry := by
    intro g hg
    obtain ⟨g', hread, hentry⟩ := Gap.exists_ofJson_normal (h.encodable g hg) (h.frequencies g hg)
    have hobj : ∃ members, g.toJson.normal = .obj members := by
      rw [Gap.toJson, normal_ofFields (by simp)]
      exact ⟨_, rfl⟩
    obtain ⟨members, hm⟩ := hobj
    rw [hm] at hread ⊢
    exact ⟨g', congrArg Except.toOption hread, hentry⟩
  unfold recalled
  clear h
  induction gaps with
  | nil => rfl
  | cons g gaps ih =>
      obtain ⟨⟨g', hg, hentry⟩, hgaps⟩ := List.forall_mem_cons.1 hread
      simp only [List.filterMap_cons, hg, List.map_cons, hentry, ih hgaps]

/-! ## What can go wrong -/

open HelpCenter.Action (Faults IsWriteFault Respects)

theorem faults_writeJson (file : Place) (v : Json) : Faults IsWriteFault (writeJson file v) := by
  unfold writeJson
  split
  · exact Action.faults_writeText _ _
  · exact Action.faults_throw trivial

theorem faults_writeState (file : Place) (v : Json) : Faults IsWriteFault (writeState file v) := by
  refine Faults.onFileFault (Faults.mono ?_ fun _ => .inl) fun _ => trivial
  exact (Action.faults_changeFiles _ _).bind fun _ => faults_writeJson file v

theorem markdown_eq_error {a : Article} {fault : DataFault} (ha : ∃ text, a.content = .str text)
    (h : a.markdown = .error fault) : fault = .unreadable := by
  obtain ⟨text, htext⟩ := ha
  unfold Article.markdown at h
  rw [htext] at h
  split_ifs at h
  exact (Except.error.inj h).symm

theorem faults_writeDocs {a : Article} (ha : ∃ text, a.content = .str text) :
    Faults IsWriteFault (s.writeDocs a) := by
  rw [writeDocs_eq]
  refine Faults.onFileFault (Faults.mono (Faults.bind ?_ fun _ => ?_) fun _ => .inl) fun _ => trivial
  · unfold writeMarkdown
    split
    · refine (Action.faults_changeFiles _ _).bind fun _ => ?_
      split
      · exact Action.faults_writeText _ _
      · next fault hfault =>
        rw [markdown_eq_error ha hfault]
        exact Action.faults_throw trivial
    · exact Action.faults_pure ()
  · unfold writeRecord
    split
    · exact (Action.faults_changeFiles _ _).bind fun _ => faults_writeJson _ _
    · exact Action.faults_pure ()

theorem faults_save (hk : ∀ a ∈ k.articles, ∃ text, a.content = .str text) :
    Faults IsWriteFault (s.save k) := by
  rw [save_eq]
  refine (faults_writeState _ _).bind fun _ => (faults_writeState _ _).bind fun _ =>
    Faults.bind ?_ fun _ => ?_
  · unfold saveMap
    split
    · exact faults_writeState _ _
    · exact Action.faults_pure ()
  · exact Action.faults_forM fun a ha => faults_writeDocs (hk a ha)

/-- The content of an article that was loaded is a text. -/
theorem content_of_mem_content {a : Article} (h : a ∈ (s.content t).articles) :
    ∃ text, a.content = .str text := by
  obtain ⟨v, -, hread⟩ := List.mem_filterMap.1 h
  obtain ⟨members, rfl⟩ : ∃ members, v = .obj members := by
    cases v with
    | obj members => exact ⟨members, rfl⟩
    | _ => cases hread
  have hok : Article.ofJson (.obj members) = .ok a := by
    cases hr : Article.ofJson (.obj members) with
    | ok b => rw [recordOf, hr] at hread; exact congrArg Except.ok (Option.some.inj hread)
    | error e => rw [recordOf, hr] at hread; cases hread
  unfold Article.ofJson at hok
  iterate 4 obtain ⟨_, -, hok⟩ := Except.bind_eq_ok_iff.1 hok
  obtain ⟨text, -, hok⟩ := Except.bind_eq_ok_iff.1 hok
  iterate 9 obtain ⟨_, -, hok⟩ := Except.bind_eq_ok_iff.1 hok
  obtain rfl := Except.ok.inj hok
  exact ⟨text, rfl⟩

/-! ## Saving -/

theorem touches_writeJson {file : Place} (hfile : file ∈ fs) (v : Json) :
    Respects (FileTree.Touches fs) (writeJson file v) := by
  unfold writeJson
  split
  · exact Action.touches_writeText hfile _
  · exact Action.respects_throw _

theorem touches_writeState {file : Place} (hfile : file ∈ fs) (v : Json) :
    Respects (FileTree.Touches fs) (writeState file v) :=
  Respects.onFileFault <| (Action.touches_makeDirs _).bind fun _ => touches_writeJson hfile v

theorem touches_writeDocs {a : Article} (hfs : ∀ d ∈ s.documents a, d ∈ fs) :
    Respects (FileTree.Touches fs) (s.writeDocs a) := by
  unfold documents at hfs
  rw [List.forall_mem_append] at hfs
  obtain ⟨hmarkdown, hjson⟩ := hfs
  rw [writeDocs_eq]
  refine Respects.onFileFault (Respects.bind ?_ fun _ => ?_)
  · unfold writeMarkdown
    split
    · next hformat =>
      rw [if_pos hformat, List.forall_mem_singleton] at hmarkdown
      refine (Action.touches_makeDirs _).bind fun _ => ?_
      split
      · exact Action.touches_writeText hmarkdown _
      · exact Action.respects_throw _
    · exact Action.respects_pure ()
  · unfold writeRecord
    split
    · next hformat =>
      rw [if_pos hformat, List.forall_mem_singleton] at hjson
      exact (Action.touches_makeDirs _).bind fun _ => touches_writeJson hjson _
    · exact Action.respects_pure ()

/-- The files that saving writes after the one of the questions. -/
def laterFiles (s : Store) (articles : List Article) : List Place :=
  s.codeMapFile :: articles.flatMap s.documents

theorem touches_saveOthers (s : Store) (k : KnowledgeBase) :
    Respects (FileTree.Touches (s.laterFiles k.articles)) (s.saveOthers k) := by
  refine Respects.bind ?_ fun _ => ?_
  · unfold saveMap
    split
    · exact touches_writeState (List.mem_cons_self ..) _
    · exact Action.respects_pure ()
  · exact Action.respects_forM fun a ha => touches_writeDocs fun d hd =>
      List.mem_cons_of_mem _ (List.mem_flatMap.2 ⟨a, ha, hd⟩)

theorem HoldsJson.touches {file : Place} {v : Json} (h : HoldsJson file v t)
    (ht : FileTree.Touches fs t t') (hfs : ∀ f ∈ fs, ¬ t'.Meet f file) : HoldsJson file v t' := by
  obtain ⟨bytes, q, hb, hq⟩ := h
  obtain ⟨c, hc, hsame⟩ := ht file q bytes hq
  rw [hsame fun f hf hfq => hfs f hf ⟨q, hfq, hc.locate⟩] at hc
  exact ⟨bytes, q, hb, hc⟩

/-- If no file could not be written, the file of the questions holds those that were saved, unless
a file that was written after it leads to the same place. -/
theorem ends_save (s : Store) (k : KnowledgeBase) : Action.Ends t now (s.save k) fun r t' =>
    (∀ e, r = .error e → ¬ IsWriteFault e) →
    (∀ f ∈ s.laterFiles k.articles, ¬ t'.Meet f s.gapsFile) →
    s.questions t' = recalled k.gaps := by
  rintro w - - hfault hmeet
  rw [save_eq] at hfault hmeet ⊢
  rcases hitems : (writeState s.itemsFile (itemsJson k)).perform w with ⟨_ | _, w₁⟩
  · rw [Action.perform_bind_error hitems] at hfault
    exact absurd (faults_writeState _ _ w _ (by rw [hitems])) (hfault _ rfl)
  rw [Action.perform_bind_ok hitems, saveRest] at hfault hmeet ⊢
  rcases hgaps : (writeState s.gapsFile (gapsJson k)).perform w₁ with ⟨_ | _, w₂⟩
  · rw [Action.perform_bind_error hgaps] at hfault
    exact absurd (faults_writeState _ _ w₁ _ (by rw [hgaps])) (hfault _ rfl)
  rw [Action.perform_bind_ok hgaps] at hmeet ⊢
  obtain ⟨-, -, hprint, hholds⟩ := writeState_eq_ok hgaps
  exact questions_of_holdsJson hprint (hholds.touches (touches_saveOthers s k w₂) hmeet)

/-! ## Removal -/

theorem shrinks_removeDocument (file : FilePath) :
    Respects FileTree.Shrinks (removeDocument file) := by
  refine Respects.onFileFault (Action.respects_changeFiles fun t t' h => ?_)
  split at h
  · exact Except.ok.inj h ▸ refl t
  · exact fun _ _ _ => FileTree.Holds.of_remove h

theorem questions_of_shrinks (h : FileTree.Shrinks t t') (hfile : t'.isFile s.gapsFile = true) :
    s.questions t' = s.questions t := by
  obtain ⟨q, bytes, hq⟩ := FileTree.isFile_iff.1 hfile
  exact questions_of_stateIn ((stateIn_of_holds hq).trans (stateIn_of_holds (h _ q bytes hq)).symm)

end Store

end HelpCenter

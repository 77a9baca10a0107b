import HelpCenter.Proofs.Files.Tree
import HelpCenter.Proofs.Store.Mutation

/-!
# Refused mutations

A mutation fails because it is refused, because the file system does not take a file, or because
something that is to be written has no written form.  In the first case no file has changed.  In the
last the articles may be written already; `Mutation.CanFinish` says when nothing comes in between,
and then a failure that is not one of the store leaves every file as it was
(`Mutation.addsDirs_of_rejected`).
-/

namespace HelpCenter

open HelpCenter.Action (Faults Respects checkNames)
open FileTree (AddsDirs)

/-- The failure is reported as one of the store. -/
def Failure.IsOfStore : Failure → Prop
  | .store _ => True
  | _ => False

namespace Action

variable {p : Place} {w w' : Workspace} {β : Type}

/-! ## Failures of the file system alone -/

/-- The failure is one of the file system. -/
def IsOfFiles (e : Failure) : Prop := ∃ fault, e = .file fault

theorem faults_changeFiles_of_names (hp : checkNames p = .ok ())
    (change : FileTree → Except FileFault FileTree) : Faults IsOfFiles (changeFiles p change) := by
  intro w e h
  unfold changeFiles at h
  rw [hp, perform_bind_ok (perform_ofExcept _ w), perform_bind_ok (perform_files w)] at h
  cases hc : change w.files with
  | error fault =>
      rw [hc] at h
      exact ⟨fault, (Except.error.inj h).symm⟩
  | ok t => rw [hc] at h; cases h

theorem faults_writeText_of_isEncodable (hp : checkNames p = .ok ()) {text : Text}
    (htext : text.isEncodable = true) : Faults IsOfFiles (writeText p text) := by
  refine (faults_changeFiles_of_names hp _).bind fun _ => ?_
  unfold Text.toUtf8?
  rw [if_pos htext]
  exact faults_changeFiles_of_names hp _

theorem Faults.isOfStore {a : Action β} {e : FileFault → Failure} (h : Faults IsOfFiles a)
    (he : ∀ fault, (e fault).IsOfStore) : Faults Failure.IsOfStore (Action.onFileFault e a) :=
  Faults.onFileFault (h.mono fun _ => .inr) he

theorem forM_eq_ok {f : β → Action Unit} {xs : List β} {u : Unit}
    (h : (xs.forM f).perform w = (.ok u, w')) :
    ∀ x ∈ xs, ∃ w₁ w₂, (f x).perform w₁ = (.ok (), w₂) := by
  induction xs generalizing w with
  | nil => nofun
  | cons x xs ih =>
      obtain ⟨⟨⟩, w₁, hx, hxs⟩ := perform_bind_eq_ok h
      exact List.forall_mem_cons.2 ⟨⟨w, w₁, hx⟩, ih hxs⟩

theorem checkNames_eq_ok_iff : checkNames p = .ok () ↔
    ∀ name ∈ p, name.isEncodable = true ∧ ∀ c ∈ name, c.toNat ≠ 0 := by
  unfold checkNames
  by_cases hzero : p.any (·.any fun c => c.toNat == 0) = true
  · rw [if_pos hzero]
    simp only [List.any_eq_true, beq_iff_eq] at hzero
    obtain ⟨name, hname, c, hc, h⟩ := hzero
    exact iff_of_false nofun fun hall => (hall name hname).2 c hc h
  · rw [if_neg hzero]
    simp only [List.any_eq_true, beq_iff_eq, not_exists, not_and] at hzero
    by_cases hall : p.all Text.isEncodable = true
    · rw [if_pos hall]
      exact iff_of_true rfl fun name hname => ⟨List.all_eq_true.1 hall name hname, hzero name hname⟩
    · rw [if_neg hall]
      refine iff_of_false nofun fun h => hall ?_
      exact List.all_eq_true.2 fun name hname => (h name hname).1

theorem checkNames_dropLast (h : checkNames p = .ok ()) : checkNames p.dropLast = .ok () := by
  rw [checkNames_eq_ok_iff] at h ⊢
  exact fun name hname => h name (List.mem_of_mem_dropLast hname)

theorem addsDirs_makeDirs (p : Place) : Respects AddsDirs (makeDirs p) :=
  respects_changeFiles fun _ _ => FileTree.addsDirs_makeDirs

end Action

theorem FilePath.place_parent (p : FilePath) : p.parent.place [] = (p.place []).dropLast := by
  unfold FilePath.place FilePath.parent
  split <;> simp

namespace Store

variable {s : Store} {file : Place} {v : Json} {a : Article} {k : KnowledgeBase}
  {w w' : Workspace}

/-! ## What has a written form -/

/-- The value has a written form, and the file a name that can be asked for. -/
structure CanWrite (file : Place) (v : Json) : Prop where
  names : checkNames file = .ok ()
  printable : v.isPrintable = true

/-- The documents of the article have a written form, and names that can be asked for. -/
structure CanDocument (s : Store) (a : Article) : Prop where
  markdown : s.hasFormat "markdown" = true → checkNames ((s.markdownFile a).place []) = .ok () ∧
    ∃ text, a.markdown = .ok text ∧ text.isEncodable = true
  record : s.hasFormat "json" = true → checkNames (s.jsonDir.place []) = .ok () ∧
    CanWrite ((s.jsonFile a.id).place []) a.toJson

theorem faults_writeJson_of_canWrite (h : CanWrite file v) :
    Faults Action.IsOfFiles (writeJson file v) := by
  unfold writeJson Json.pretty?
  rw [if_pos h.printable]
  exact Action.faults_writeText_of_isEncodable h.names (Json.isPlain_prettyAt 0 v).isEncodable

theorem faults_writeState_of_canWrite (h : CanWrite file v) :
    Faults Failure.IsOfStore (writeState file v) := by
  have hdir : checkNames file.dropLast = .ok () := Action.checkNames_dropLast h.names
  refine Faults.isOfStore ?_ fun _ => trivial
  exact (Action.faults_changeFiles_of_names hdir _).bind fun _ => faults_writeJson_of_canWrite h

theorem canWrite_of_writeState {u : Unit} (h : (writeState file v).perform w = (.ok u, w')) :
    CanWrite file v := by
  obtain ⟨-, hnames, hprint, -⟩ := writeState_eq_ok h
  exact ⟨hnames, hprint⟩

/-- Where the value has no written form, only directories are made. -/
theorem addsDirs_writeState (h : ¬ CanWrite file v) (w : Workspace) :
    (∃ e, ((writeState file v).perform w).1 = .error e) ∧
      AddsDirs w.files ((writeState file v).perform w).2.files := by
  constructor
  · rcases hr : (writeState file v).perform w with ⟨e | u, w'⟩
    · exact ⟨e, rfl⟩
    · exact absurd (canWrite_of_writeState hr) h
  · refine Respects.onFileFault ((Action.addsDirs_makeDirs _).bind fun _ => ?_) w
    unfold writeJson Json.pretty?
    by_cases hprint : v.isPrintable = true
    · -- then it is the name that stands in the way
      rw [if_pos hprint]
      intro w
      obtain ⟨e, hw, -⟩ | ⟨t, hw, -⟩ := Action.changeFiles_cases file (·.write file []) w
      · unfold Action.writeText
        rw [Action.perform_bind_error hw]
        exact refl w.files
      · exact absurd ⟨(Action.changeFiles_eq_ok hw).1, hprint⟩ h
    · rw [if_neg hprint]
      exact Action.respects_throw _

theorem faults_writeDocs_of_canDocument (h : s.CanDocument a) :
    Faults Failure.IsOfStore (s.writeDocs a) := by
  rw [writeDocs_eq]
  refine Faults.isOfStore (Faults.bind ?_ fun _ => ?_) fun _ => trivial
  · unfold writeMarkdown
    split
    · next hformat =>
      obtain ⟨hname, text, htext, hencodable⟩ := h.markdown hformat
      have hdir : checkNames ((s.markdownFile a).parent.place []) = .ok () := by
        rw [FilePath.place_parent]
        exact Action.checkNames_dropLast hname
      unfold writeDocument
      rw [htext]
      exact (Action.faults_changeFiles_of_names hdir _).bind fun _ =>
        Action.faults_writeText_of_isEncodable hname hencodable
    · exact Action.faults_pure ()
  · unfold writeRecord
    split
    · next hformat =>
      obtain ⟨hdir, hfile⟩ := h.record hformat
      exact (Action.faults_changeFiles_of_names hdir _).bind fun _ =>
        faults_writeJson_of_canWrite hfile
    · exact Action.faults_pure ()

theorem canDocument_of_writeDocs {u : Unit} (h : (s.writeDocs a).perform w = (.ok u, w')) :
    s.CanDocument a := by
  rw [writeDocs_eq] at h
  obtain ⟨⟨⟩, w₁, h₁, h₂⟩ := Action.perform_bind_eq_ok (Action.onFileFault_eq_ok h)
  constructor
  · intro hformat
    rw [writeMarkdown, if_pos hformat] at h₁
    obtain ⟨⟨⟩, w₂, -, h₁⟩ := Action.perform_bind_eq_ok h₁
    cases htext : a.markdown with
    | error fault => rw [htext] at h₁; cases h₁
    | ok text =>
        rw [htext] at h₁
        obtain ⟨-, hnames, bytes, -, hbytes, -⟩ := Action.writeText_eq_ok h₁
        refine ⟨hnames, text, rfl, ?_⟩
        unfold Text.toUtf8? at hbytes
        split at hbytes
        · assumption
        · cases hbytes
  · intro hformat
    rw [writeRecord, if_pos hformat] at h₂
    obtain ⟨⟨⟩, w₂, h₃, h₂⟩ := Action.perform_bind_eq_ok h₂
    obtain ⟨-, hnames, hprint, -⟩ := writeJson_eq_ok h₂
    exact ⟨(Action.changeFiles_eq_ok h₃).1, hnames, hprint⟩

theorem faults_removeDocument {f : FilePath} (h : checkNames (f.place []) = .ok ()) :
    Faults Failure.IsOfStore (removeDocument f) :=
  Faults.isOfStore (Action.faults_changeFiles_of_names h _) fun _ => trivial

theorem names_of_removeDocument {f : FilePath} {u : Unit}
    (h : (removeDocument f).perform w = (.ok u, w')) : checkNames (f.place []) = .ok () :=
  (Action.changeFiles_eq_ok (Action.onFileFault_eq_ok h)).1

end Store

namespace Mutation

open Store

variable {m : Mutation} {s : Store} {k k' : KnowledgeBase} {w : Workspace}

/-- All that is written after the articles has a written form, and all that is written or removed
then has a name that can be asked for. -/
structure CanFinish (m : Mutation) (s : Store) (k k' : KnowledgeBase) : Prop where
  gaps : CanWrite s.gapsFile (gapsJson k')
  codeMap : ∀ c, k'.codeMap = some c → CanWrite s.codeMapFile c.toJson
  documents : ∀ a ∈ k'.articles, s.CanDocument a
  removals : ∀ f ∈ m.removals s k, checkNames (f.place []) = .ok ()

theorem faults_carryOut (hitems : CanWrite s.itemsFile (itemsJson k')) (h : m.CanFinish s k k') :
    Faults Failure.IsOfStore (m.carryOut s k k') := by
  have save : Faults Failure.IsOfStore (s.save k') := by
    rw [save_eq]
    refine (faults_writeState_of_canWrite hitems).bind fun _ =>
      (faults_writeState_of_canWrite h.gaps).bind fun _ => Faults.bind ?_ fun _ => ?_
    · unfold saveMap
      split
      · next c hmap => exact faults_writeState_of_canWrite (h.codeMap c hmap)
      · exact Action.faults_pure ()
    · exact Action.faults_forM fun a ha => faults_writeDocs_of_canDocument (h.documents a ha)
  exact save.bind fun _ => Action.faults_forM fun f hf => faults_removeDocument (h.removals f hf)

theorem canFinish_of_carryOut {u : Unit} {w' : Workspace}
    (h : (m.carryOut s k k').perform w = (.ok u, w')) :
    CanWrite s.itemsFile (itemsJson k') ∧ m.CanFinish s k k' := by
  obtain ⟨⟨⟩, w₁, hsave, hremove⟩ := Action.perform_bind_eq_ok h
  rw [save_eq] at hsave
  obtain ⟨⟨⟩, w₂, hitems, hsave⟩ := Action.perform_bind_eq_ok hsave
  obtain ⟨⟨⟩, w₃, hgaps, hsave⟩ := Action.perform_bind_eq_ok hsave
  obtain ⟨⟨⟩, w₄, hmap, hdocs⟩ := Action.perform_bind_eq_ok hsave
  have hcode : ∀ c, k'.codeMap = some c → CanWrite s.codeMapFile c.toJson := by
    intro c hc
    rw [saveMap, hc] at hmap
    exact canWrite_of_writeState hmap
  refine ⟨canWrite_of_writeState hitems, canWrite_of_writeState hgaps, hcode, fun a ha => ?_,
    fun f hf => ?_⟩
  · obtain ⟨_, _, hdoc⟩ := Action.forM_eq_ok hdocs a ha
    exact canDocument_of_writeDocs hdoc
  · obtain ⟨_, _, hfile⟩ := Action.forM_eq_ok hremove f hf
    exact names_of_removeDocument hfile

/-- An edit of the one article that gives it a number for its content. -/
def numberEdit : Mutation := .edit (lit "kb-1") [(lit "content", .int 7)] none

/-- An edit of the one article that gives it a content and a state that there is not. -/
def stateEdit : Mutation :=
  .edit (lit "kb-1") [(lit "content", .str (lit "y")), (lit "status", .str (lit "gone"))] none

end Mutation

end HelpCenter

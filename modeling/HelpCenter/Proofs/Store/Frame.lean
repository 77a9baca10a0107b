import HelpCenter.Proofs.Store.Mutation
import HelpCenter.Proofs.Store.Recall

/-!
# What mutations leave alone

A mutation of a knowledge base that is loaded as it was saved changes one record, and everything
else is loaded again as it was (`Mutation.frames_of_action`).  This takes state files that are files of
their own: the documents are named after ids and topics and can lead to any file.
-/

namespace HelpCenter

open FileTree (Extends)

namespace KnowledgeBase

variable {k k' : KnowledgeBase} {id : Text}

theorem replaceArticle_append {before after : List Article} {a : Article}
    (hbefore : ∀ b ∈ before, b.id ≠ id) (ha : a.id = id) (b : Article) :
    replaceArticle id b (before ++ a :: after) = before ++ b :: after := by
  induction before with
  | nil => exact if_pos ha
  | cons c before ih =>
      obtain ⟨hc, hbefore⟩ := List.forall_mem_cons.1 hbefore
      rw [List.cons_append, replaceArticle, if_neg hc, ih hbefore]
      rfl

/-- What is changed is the first article of the id. -/
theorem changed_eq_ok {change : Article → Except Failure Article}
    (h : k.changed id change = .ok k') :
    ∃ before a after b, k.articles = before ++ a :: after ∧ a.id = id ∧ change a = .ok b ∧
      k' = { k with articles := before ++ b :: after } := by
  unfold changed at h
  cases ha : k.article? id with
  | none => rw [ha] at h; cases h
  | some a =>
      rw [ha] at h
      obtain ⟨b, hb, h⟩ := Except.bind_eq_ok_iff.1 h
      obtain rfl := Except.ok.inj h
      obtain ⟨hid, before, after, harticles, hbefore⟩ := List.find?_eq_some_iff_append.1 ha
      have hid : a.id = id := of_decide_eq_true hid
      have hbefore : ∀ c ∈ before, c.id ≠ id := fun c hc => by simpa using hbefore c hc
      refine ⟨before, a, after, b, harticles, hid, hb, ?_⟩
      unfold withArticle
      rw [harticles, replaceArticle_append hbefore hid]

end KnowledgeBase

namespace Store

variable {s : Store} {k : KnowledgeBase}

/-! ## Reading back after a change -/

theorem survives_of_recalledBase (hk : s.recalledBase k = k) :
    (∀ a ∈ k.articles, a.Survives) ∧ ∀ g ∈ k.gaps, g.Survives :=
  ⟨restored_eq_self_iff.1 (congrArg KnowledgeBase.articles hk),
    recalled_eq_self_iff.1 (congrArg KnowledgeBase.gaps hk)⟩

theorem recalledBase_withArticles {articles read : List Article} (hk : s.recalledBase k = k)
    (h : restored articles = read) :
    s.recalledBase { k with articles } = { k with articles := read } := by
  have hgaps : recalled k.gaps = k.gaps := congrArg KnowledgeBase.gaps hk
  have hinfo : s.recalledInfo k.info = k.info := congrArg KnowledgeBase.info hk
  unfold recalledBase
  rw [h, hgaps, hinfo]

theorem recalledBase_withGaps {gaps read : List Gap} (hk : s.recalledBase k = k)
    (h : recalled gaps = read) :
    s.recalledBase { k with gaps } = { k with gaps := read } := by
  have harticles : restored k.articles = k.articles := congrArg KnowledgeBase.articles hk
  have hinfo : s.recalledInfo k.info = k.info := congrArg KnowledgeBase.info hk
  unfold recalledBase
  rw [h, harticles, hinfo]

theorem readConfidence_of_recalledBase (hk : s.recalledBase k = k) :
    ∀ a ∈ k.articles, ∃ x, a.readConfidence = .ok x := fun a ha => by
  obtain ⟨x, hx, -⟩ := ((survives_of_recalledBase hk).1 a ha).exists_readBack
  exact ⟨x, hx⟩

/-- After a change of one article that keeps its confidence, all other articles are read back as they
were. -/
theorem recalledBase_changed {k' : KnowledgeBase} {id : Text}
    {change : Article → Except Failure Article} (hk : s.recalledBase k = k)
    (h : k.changed id change = .ok k')
    (hkeeps : ∀ {a b}, change a = .ok b → b.readConfidence = a.readConfidence) :
    (∃ before a after b x, k.articles = before ++ a :: after ∧ a.id = id ∧ change a = .ok b ∧
      a.readBack x = a ∧
      s.recalledBase k' = { k with articles := before ++ b.readBack x :: after }) ∧
    ∀ a ∈ k'.articles, ∃ x, a.readConfidence = .ok x := by
  obtain ⟨before, a, after, b, harticles, hid, hb, rfl⟩ := KnowledgeBase.changed_eq_ok h
  have hall := (survives_of_recalledBase hk).1
  have hread := readConfidence_of_recalledBase hk
  rw [harticles, List.forall_mem_append, List.forall_mem_cons] at hall hread
  obtain ⟨x, hx, hback⟩ := hall.2.1.exists_readBack
  have hbx : b.readConfidence = .ok x := (hkeeps hb).trans hx
  refine ⟨⟨before, a, after, b, x, harticles, hid, hb, hback, ?_⟩, ?_⟩
  · exact recalledBase_withArticles hk (restored_replace hall.1 hall.2.2 hbx)
  · exact List.forall_mem_append.2 ⟨hread.1, List.forall_mem_cons.2 ⟨⟨x, hbx⟩, hread.2.2⟩⟩

theorem recalledBase_changedGap {p : Gap → Bool} {change : Gap → Gap} {g : Gap} {gaps : List Gap}
    (hk : s.recalledBase k = k) (h : Gap.changeFirst p change k.gaps = some (g, gaps)) :
    ∃ before old after, k.gaps = before ++ old :: after ∧ p old = true ∧ old.Survives ∧
      s.recalledBase { k with gaps } =
        { k with gaps := before ++ (change old).readBack :: after } := by
  obtain ⟨before, old, after, hold, hp, rfl⟩ := Gap.changeFirst_eq_some h
  have hall := (survives_of_recalledBase hk).2
  rw [hold, List.forall_mem_append, List.forall_mem_cons] at hall
  exact ⟨before, old, after, hold, hp, hall.2.1,
    recalledBase_withGaps hk (recalled_replace hall.1 hall.2.2)⟩

end Store

namespace Mutation

variable {m : Mutation} {s : Store} {k k' : KnowledgeBase} {now : Moment}

/-- An edit gives a value for each field at most once. -/
def IsMapping : Mutation → Prop
  | .edit _ changes _ => (changes.map Prod.fst).Nodup
  | _ => True

/-- The second knowledge base is the first one, but for the one record that the mutation is
about. -/
def Frames (k k' : KnowledgeBase) : Mutation → Prop
  | .edit id changes _ => ∃ before a after b, k.articles = before ++ a :: after ∧ a.id = id ∧
      k' = { k with articles := before ++ b :: after } ∧ Article.RecalledEdit changes a b
  | .setStatus id status => ∃ before a after, k.articles = before ++ a :: after ∧ a.id = id ∧
      k' = { k with articles := before ++ a.inStatus status :: after }
  | .setPinned id pinned => ∃ before a after, k.articles = before ++ a :: after ∧ a.id = id ∧
      k' = { k with articles := before ++ a.withPin pinned :: after }
  | .delete id => id ∈ k.articles.map Article.id ∧
      k' = { k with articles := k.articles.filter (·.id ≠ id) }
  | .addGap question _ =>
      (∃ before g after n, k.gaps = before ++ g :: after ∧ Gap.asks (Text.trim question) g = true ∧
        k' = { k with gaps := before ++ { g with frequency := n } :: after }) ∨
      ∃ g, k' = { k with gaps := k.gaps ++ [g] }
  | .resolveGap id by_ resolution => ∃ before g after, k.gaps = before ++ g :: after ∧ g.id = id ∧
      k' = { k with gaps := before ++ g.resolved by_.normal resolution.normal :: after }

theorem mem_statuses_of_check {id status : Text} (h : (setStatus id status).check = .ok ()) :
    status ∈ Article.statuses := by
  have hcheck : (if Article.statuses.contains status then .ok ()
      else .error (.unknownStatus status) : Except Failure Unit) = .ok () := h
  split at hcheck
  · simpa using ‹Article.statuses.contains status = true›
  · cases hcheck

/-- What a deletion makes of a knowledge base, and what it removes. -/
theorem change_delete {id : Text} (h : (Mutation.delete id).change now k = .ok k') :
    ∃ a ∈ k.articles, a.id = id ∧ k' = { k with articles := k.articles.filter (·.id ≠ id) } ∧
      (Mutation.delete id).removals s k = [s.markdownFile a, s.jsonFile a.id] := by
  simp only [change] at h
  cases ha : k.article? id with
  | none => rw [ha] at h; cases h
  | some a =>
      rw [ha] at h
      have hid : a.id = id := by simpa using List.find?_some ha
      refine ⟨a, List.mem_of_find?_eq_some ha, hid, (Except.ok.inj h).symm, ?_⟩
      simp only [removals]
      rw [ha, hid]

/-- What a mutation makes of a knowledge base that survives, as it is read back. -/
theorem frames_recalledBase (hk : s.recalledBase k = k) (hmapping : m.IsMapping)
    (hcheck : m.check = .ok ()) (h : m.change now k = .ok k') :
    m.Frames k (s.recalledBase k') ∧ ∀ a ∈ k'.articles, ∃ x, a.readConfidence = .ok x := by
  obtain ⟨hall, hgaps⟩ := Store.survives_of_recalledBase hk
  have hread := Store.readConfidence_of_recalledBase hk
  cases m with
  | edit id changes by_ =>
      obtain ⟨⟨before, a, after, b, x, harticles, hid, hb, hback, hk'⟩, hread'⟩ :=
        Store.recalledBase_changed hk h Article.readConfidence_edited
      exact ⟨⟨before, a, after, b.readBack x, harticles, hid, hk',
        Article.recalledEdit_of_edited hback hmapping hb⟩, hread'⟩
  | setStatus id status =>
      obtain ⟨⟨before, a, after, b, x, harticles, hid, hb, hback, hk'⟩, hread'⟩ :=
        Store.recalledBase_changed hk h fun hb => by cases hb; rfl
      obtain rfl := Except.ok.inj hb
      rw [Article.readBack_inStatus hback (mem_statuses_of_check hcheck)] at hk'
      exact ⟨⟨before, a, after, harticles, hid, hk'⟩, hread'⟩
  | setPinned id pinned =>
      obtain ⟨⟨before, a, after, b, x, harticles, hid, hb, hback, hk'⟩, hread'⟩ :=
        Store.recalledBase_changed hk h fun hb => by cases hb; rfl
      obtain rfl := Except.ok.inj hb
      rw [Article.readBack_withPin pinned hback] at hk'
      exact ⟨⟨before, a, after, harticles, hid, hk'⟩, hread'⟩
  | delete id =>
      obtain ⟨a, ha, hid, rfl, -⟩ := change_delete (s := s) h
      have hrest : ∀ b ∈ k.articles.filter (·.id ≠ id), b.Survives := fun b hb =>
        hall b (List.mem_of_mem_filter hb)
      exact ⟨⟨List.mem_map.2 ⟨a, ha, hid⟩,
        Store.recalledBase_withArticles hk (Store.restored_eq_self_iff.2 hrest)⟩,
        fun b hb => hread b (List.mem_of_mem_filter hb)⟩
  | addGap question page =>
      simp only [change] at h
      split at h
      · next g gaps hfound =>
        obtain rfl := Except.ok.inj h
        obtain ⟨before, old, after, hold, hasks, hsurvives, hk'⟩ :=
          Store.recalledBase_changedGap hk hfound
        obtain ⟨n, hn⟩ := hsurvives.exists_frequency (old.frequency + 1)
        rw [hn] at hk'
        exact ⟨.inl ⟨before, old, after, n, hold, hasks, hk'⟩, hread⟩
      · obtain rfl := Except.ok.inj h
        have hnone : ∀ g ∈ ([] : List Gap), g.Survives := List.forall_mem_nil _
        exact ⟨.inr ⟨_, Store.recalledBase_withGaps hk (Store.recalled_replace hgaps hnone)⟩, hread⟩
  | resolveGap id by_ resolution =>
      simp only [change] at h
      split at h
      · next g gaps hfound =>
        obtain rfl := Except.ok.inj h
        obtain ⟨before, old, after, hold, hid, hsurvives, hk'⟩ :=
          Store.recalledBase_changedGap hk hfound
        rw [hsurvives.readBack_resolved] at hk'
        exact ⟨⟨before, old, after, hold, of_decide_eq_true hid, hk'⟩, hread⟩
      · cases h

end Mutation

/-! ## The state files -/

namespace Store

variable {s : Store} {k : KnowledgeBase} {t t' : FileTree} {file q q' : Place} {bytes : Bytes}
  {v : Json} {w w' : Workspace}

theorem Saved.isFile (h : Saved file v t) : t.isFile file = true := by
  obtain ⟨bytes, q, -, hq⟩ := h.holds
  exact FileTree.isFile_iff.2 ⟨q, bytes, hq⟩

/-- A state file that is not removed holds what it held. -/
theorem Saved.shrinks (h : Saved file v t) (ht : FileTree.Shrinks t t')
    (hfile : t'.isFile file = true) : Saved file v t' := by
  obtain ⟨bytes, q, hb, hq⟩ := h.holds
  obtain ⟨q', bytes', hq'⟩ := FileTree.isFile_iff.1 hfile
  have hold := ht _ _ _ hq'
  obtain rfl : q = q' := Except.ok.inj (hq.locate.symm.trans hold.locate)
  obtain rfl : bytes = bytes' := Entry.file.inj (Option.some.inj (hq.entry.symm.trans hold.entry))
  exact ⟨h.names, h.printable, bytes, q, hb, hq'⟩

/-- What a file with the same content counts as when it is read. -/
theorem readText_eq_of_holds (h : t.Holds file q bytes) (h' : t'.Holds file q' bytes) :
    t'.readText file = t.readText file := by
  rw [readText_of_holds h, readText_of_holds h']

theorem not_holdsHugeInteger_of_isFile_eq_false (h : t.isFile file = false) :
    ¬ HoldsHugeInteger file t := by
  rintro ⟨text, htext, -⟩
  have hread : ∃ bytes, t.read file = .ok bytes := by
    unfold FileTree.readText at htext
    cases hr : t.read file with
    | ok bytes => exact ⟨bytes, rfl⟩
    | error e => rw [hr] at htext; cases htext
  obtain ⟨bytes, hbytes⟩ := hread
  obtain ⟨q, hq⟩ := holds_of_read hbytes
  rw [FileTree.isFile_iff.2 ⟨q, bytes, hq⟩] at h
  cases h

/-- The file of the code map keeps its content while a knowledge base without one is saved. -/
theorem holds_codeMapFile_of_save {u : Unit} (hmap : k.codeMap = none)
    (hsave : (s.save k).perform w = (.ok u, w')) (hapart : s.Apart k w'.files)
    (h : w.files.Holds s.codeMapFile q bytes) : w'.files.Holds s.codeMapFile q bytes := by
  obtain ⟨bytes', h', hsame⟩ := (writes_save s k _ _ _ hsave).keeps h
  have hstates := hapart.states
  simp only [List.pairwise_cons, List.forall_mem_cons, List.not_mem_nil, false_implies,
    implies_true, and_true, List.Pairwise.nil] at hstates
  have hnone : s.mapFiles k = [] := by
    unfold mapFiles
    rw [hmap]
    rfl
  rw [hnone] at hsame
  obtain rfl : bytes' = bytes := by
    refine hsame fun f hf => ?_
    rw [← h'.locate]
    simp only [List.cons_append, List.nil_append, List.mem_cons, List.mem_flatMap] at hf
    rcases hf with rfl | rfl | ⟨a, ha, hf⟩
    · exact hstates.1.2.symm
    · exact hstates.2.symm
    · exact hapart.documents a ha f hf _ (by simp)
  exact h'

/-- The file of the code map keeps its content while a knowledge base with the same code map, which
is in the file already, is saved. -/
theorem holds_codeMapFile_of_saved {k' : KnowledgeBase} {u : Unit}
    (hmap : k'.codeMap = k.codeMap)
    (hcode : ∀ c, k.codeMap = some c → Saved s.codeMapFile c.toJson w.files)
    (hsave : (s.save k').perform w = (.ok u, w')) (hapart : s.Apart k' w'.files)
    (hq : w.files.Holds s.codeMapFile q bytes) : ∃ q', w'.files.Holds s.codeMapFile q' bytes := by
  cases hc : k.codeMap with
  | none => exact ⟨q, holds_codeMapFile_of_save (hmap.trans hc) hsave hapart hq⟩
  | some c =>
      obtain ⟨-, -, hcode'⟩ := save_eq_ok hsave hapart
      obtain ⟨bytes₁, q₁, hb₁, hq₁⟩ := (hcode c hc).holds
      obtain ⟨bytes₂, q₂, hb₂, hq₂⟩ := (hcode' c (hmap.trans hc)).holds
      obtain rfl : bytes₁ = bytes₂ := Option.some.inj (hb₁.symm.trans hb₂)
      obtain rfl : q₁ = q := Except.ok.inj (hq₁.locate.symm.trans hq.locate)
      obtain rfl : bytes₁ = bytes :=
        Entry.file.inj (Option.some.inj (hq₁.entry.symm.trans hq.entry))
      exact ⟨q₂, hq₂⟩

end Store

namespace Mutation

open Store

variable {m : Mutation} {s : Store} {k k' : KnowledgeBase} {w w₀ w₁ w₂ w₃ : Workspace}

/-- The state files are files of their own once everything is saved for the mutation, and after it
the same of them are there as before. -/
structure StaysApart (m : Mutation) (s : Store) (k : KnowledgeBase) (w : Workspace) : Prop where
  apart : ∀ k', m.change w.now k = .ok k' → s.Apart k' ((m.saving s).perform w).2.files
  files : ∀ file ∈ [s.itemsFile, s.gapsFile, s.codeMapFile],
    ((m.action s).perform w).2.files.isFile file = w.files.isFile file

/-- The code map that is read after a mutation is the one that was read before. -/
theorem codeMapFile_of_saved {t t₃ t₂ : FileTree} (hshrinks : FileTree.Shrinks t₃ t₂)
    (hkept : ∀ q bytes, t.Holds s.codeMapFile q bytes →
      ∃ q', t₃.Holds s.codeMapFile q' bytes)
    (hfile : t₂.isFile s.codeMapFile = t.isFile s.codeMapFile) :
    stateIn s.codeMapFile t₂ = stateIn s.codeMapFile t ∧
      (HoldsHugeInteger s.codeMapFile t₂ → HoldsHugeInteger s.codeMapFile t) := by
  cases hbefore : t.isFile s.codeMapFile with
  | false =>
      rw [hbefore] at hfile
      exact ⟨(stateIn_of_isFile_eq_false hfile).trans (stateIn_of_isFile_eq_false hbefore).symm,
        fun h => absurd h (not_holdsHugeInteger_of_isFile_eq_false hfile)⟩
  | true =>
      rw [hbefore] at hfile
      obtain ⟨q, bytes, hq⟩ := FileTree.isFile_iff.1 hbefore
      obtain ⟨q₂, bytes₂, hq₂⟩ := FileTree.isFile_iff.1 hfile
      obtain ⟨q₃, hq₃⟩ := hkept q bytes hq
      have hold := hshrinks _ _ _ hq₂
      obtain rfl : q₃ = q₂ := Except.ok.inj (hq₃.locate.symm.trans hold.locate)
      obtain rfl : bytes = bytes₂ :=
        Entry.file.inj (Option.some.inj (hq₃.entry.symm.trans hold.entry))
      have htext := readText_eq_of_holds hq hq₂
      unfold stateIn HoldsHugeInteger
      rw [htext]
      exact ⟨rfl, id⟩

theorem Frames.codeMap (h : m.Frames k k') : k'.codeMap = k.codeMap := by
  cases m with
  | edit => obtain ⟨-, -, -, -, -, -, rfl, -⟩ := h; rfl
  | setStatus => obtain ⟨-, -, -, -, -, rfl⟩ := h; rfl
  | setPinned => obtain ⟨-, -, -, -, -, rfl⟩ := h; rfl
  | delete => obtain ⟨-, rfl⟩ := h; rfl
  | addGap => obtain ⟨-, -, -, -, -, -, rfl⟩ | ⟨-, rfl⟩ := h <;> rfl
  | resolveGap => obtain ⟨-, -, -, -, -, rfl⟩ := h; rfl

/-- What is loaded after a mutation of a knowledge base that is loaded as it was saved. -/
theorem frames_of_action (hsave : (s.save k).perform w = (.ok (), w₀))
    (hapart : s.Apart k w₀.files) (hfiles : w₁.files = w₀.files)
    (hload : (s.load.perform w₁).1 = .ok k) (hmapping : m.IsMapping)
    (hdone : (m.action s).perform w₁ = (.ok (), w₂)) (hstays : m.StaysApart s k w₁)
    (hlater : w₃.files = w₂.files) :
    ∃ k', (s.load.perform w₃).1 = .ok k' ∧ m.Frames k k' := by
  obtain ⟨hitems, hgaps, hcode⟩ := save_eq_ok hsave hapart
  rw [← hfiles] at hitems hgaps hcode
  rw [(reads_load s w₁).1] at hload
  obtain ⟨hloadable, hk⟩ := loaded_eq_ok_iff.1 hload
  have hrecall : s.recalledBase k = k := by
    have hcontent := content_of_saved hitems hgaps
    rw [← hk] at hcontent
    exact hcontent.symm
  -- what is made of it and saved
  obtain ⟨k₀, k', w₄, hmade, hsave', hsaving, hremove⟩ := action_eq_ok hdone
  obtain ⟨hcheck, hk₀, hchange⟩ := made_eq_ok_iff.1 hmade
  obtain rfl : k₀ = k := ((loaded_eq_ok_iff.1 hk₀).2).trans hk.symm
  have hapart' := hstays.apart k' hchange
  rw [hsaving] at hapart'
  obtain ⟨hitems', hgaps', -⟩ := save_eq_ok hsave' hapart'
  obtain ⟨hframes, hread⟩ := frames_recalledBase hrecall hmapping hcheck hchange
  have hmap : k'.codeMap = k₀.codeMap := hframes.codeMap
  -- no state file is removed
  have hremovals : Action.Respects FileTree.Shrinks ((m.removals s k₀).forM removeDocument) :=
    Action.respects_forM fun f _ => shrinks_removeDocument f
  have hshrinks := hremovals w₄
  have hsame := hstays.files
  rw [hremove] at hshrinks
  rw [hdone, List.forall_mem_cons, List.forall_mem_cons, List.forall_mem_singleton] at hsame
  have hitems'' := hitems'.shrinks hshrinks (hsame.1.trans hitems.isFile)
  have hgaps'' := hgaps'.shrinks hshrinks (hsame.2.1.trans hgaps.isFile)
  have hfiles₁ := (reads_load s).files_eq w₁
  have hkept : ∀ q bytes, w₁.files.Holds s.codeMapFile q bytes →
      ∃ q', w₄.files.Holds s.codeMapFile q' bytes := by
    rw [← hfiles₁] at hcode ⊢
    exact fun q bytes => holds_codeMapFile_of_saved hmap hcode hsave' hapart'
  obtain ⟨hstate, hhuge⟩ := codeMapFile_of_saved hshrinks hkept hsame.2.2
  have hnext := loaded_of_saved hitems'' hgaps'' hloadable hstate hhuge hread
  rw [← hk, ← hmap] at hnext
  exact ⟨s.recalledBase k', by rw [(reads_load s w₃).1, hlater]; exact hnext, hframes⟩

end Mutation

/-! ## One article saved and loaded -/

namespace Store

instance (s : Store) (k : KnowledgeBase) (t : FileTree) : Decidable (s.Apart k t) :=
  decidable_of_iff (_ ∧ _) ⟨fun h => ⟨h.1, h.2⟩, fun h => ⟨h.states, h.documents⟩⟩

theorem load_of_entries {s : Store} {w w₁ : Workspace} (hsame : w₁.files.entries = w.files.entries)
    (hload : (s.load.perform w₁).1.toOption.isSome = true) :
    (s.load.perform w₁).1 = .ok (s.content w.files) := by
  have hfiles : w₁.files = w.files := congrArg FileTree.mk hsame
  cases hk : (s.load.perform w₁).1 with
  | error e => rw [hk] at hload; cases hload
  | ok k =>
      rw [(reads_load s w₁).1] at hk
      obtain ⟨-, rfl⟩ := loaded_eq_ok_iff.1 hk
      rw [hfiles]

/-- A store that writes documents as JSON alone. -/
def recordStore : Store := { root := [], docs := { format := lit "json" } }

/-- What saving a knowledge base gives where there are no files, and the workspace after it. -/
def savedAnew (k : KnowledgeBase) : Except Failure Unit × Workspace :=
  (recordStore.save k).perform emptyWorkspace

/-- The knowledge base with one article as it is read back. -/
def readAnew (id : Text) : KnowledgeBase := recordStore.content (savedAnew (oneArticle id)).2.files

end Store

namespace Mutation

open Store

/-- An edit of the content of the one article. -/
def contentEdit : Mutation := .edit (lit "kb-1") [(lit "content", .str (lit "y"))] none

theorem frames_contentEdit :
    ∃ k', (recordStore.load.perform ((contentEdit.action recordStore).perform
        (savedAnew (readAnew (lit "kb-1"))).2).2).1 = .ok k' ∧
      contentEdit.Frames (readAnew (lit "kb-1")) k' := by
  have checks : (savedAnew (readAnew (lit "kb-1"))).1.toOption.isSome = true ∧
      recordStore.Apart (readAnew (lit "kb-1")) (savedAnew (readAnew (lit "kb-1"))).2.files ∧
      (savedAnew (readAnew (lit "kb-1"))).2.files.entries =
        (savedAnew (oneArticle (lit "kb-1"))).2.files.entries ∧
      (recordStore.load.perform (savedAnew (readAnew (lit "kb-1"))).2).1.toOption.isSome = true ∧
      ((contentEdit.action recordStore).perform
        (savedAnew (readAnew (lit "kb-1"))).2).1.toOption.isSome = true ∧
      ((contentEdit.change (savedAnew (readAnew (lit "kb-1"))).2.now
        (readAnew (lit "kb-1"))).toOption.all fun k' => decide (recordStore.Apart k'
          ((contentEdit.saving recordStore).perform
            (savedAnew (readAnew (lit "kb-1"))).2).2.files)) = true ∧
      ∀ file ∈ [recordStore.itemsFile, recordStore.gapsFile, recordStore.codeMapFile],
        ((contentEdit.action recordStore).perform
          (savedAnew (readAnew (lit "kb-1"))).2).2.files.isFile file =
            (savedAnew (readAnew (lit "kb-1"))).2.files.isFile file := by decide +kernel
  obtain ⟨hsaved, hapart, hsame, hload, hdone, hlater, hfiles⟩ := checks
  have hcontent : recordStore.content (savedAnew (oneArticle (lit "kb-1"))).2.files =
      readAnew (lit "kb-1") := rfl
  generalize readAnew (lit "kb-1") = k at *
  have hread := load_of_entries hsame hload
  rw [hcontent] at hread
  have hsave : (recordStore.save k).perform emptyWorkspace = (.ok (), (savedAnew k).2) :=
    eq_ok_of_isSome hsaved
  have happly := eq_ok_of_isSome hdone
  have hstays : contentEdit.StaysApart recordStore k (savedAnew k).2 := by
    refine ⟨fun k' hk' => ?_, hfiles⟩
    rw [hk'] at hlater
    exact of_decide_eq_true hlater
  have hmapping : contentEdit.IsMapping := by
    unfold contentEdit IsMapping
    decide
  exact frames_of_action hsave hapart rfl hread hmapping happly hstays rfl

/-- An edit of the pages of an article whose document is written over the code map. -/
def waywardEdit : Mutation :=
  .edit (lit "../../codemap") [(lit "pages", .arr [.str (lit "a")])] none

/-- With its document the article changes the code map that is loaded. -/
theorem not_frames_waywardEdit : ∃ k w w' k',
    k = readAnew (lit "../../codemap") ∧ (k.articles.map Article.id).Nodup ∧
      (k.gaps.map Gap.id).Nodup ∧ (recordStore.save k).perform emptyWorkspace = (.ok (), w) ∧
      (recordStore.load.perform w).1 = .ok k ∧
      (waywardEdit.action recordStore).perform w = (.ok (), w') ∧
      (recordStore.load.perform w').1 = .ok k' ∧ k'.codeMap ≠ k.codeMap := by
  have checks : ((readAnew (lit "../../codemap")).articles.map Article.id).Nodup ∧
      ((readAnew (lit "../../codemap")).gaps.map Gap.id).Nodup ∧
      (readAnew (lit "../../codemap")).codeMap.isSome = true ∧
      (savedAnew (readAnew (lit "../../codemap"))).1.toOption.isSome = true ∧
      (savedAnew (readAnew (lit "../../codemap"))).2.files.entries =
        (savedAnew (oneArticle (lit "../../codemap"))).2.files.entries ∧
      (recordStore.load.perform
        (savedAnew (readAnew (lit "../../codemap"))).2).1.toOption.isSome = true ∧
      ((waywardEdit.action recordStore).perform
        (savedAnew (readAnew (lit "../../codemap"))).2).1.toOption.isSome = true ∧
      (recordStore.load.perform ((waywardEdit.action recordStore).perform
        (savedAnew (readAnew (lit "../../codemap"))).2).2).1.toOption.map (·.codeMap.isSome) =
          some false := by decide +kernel
  obtain ⟨hids, hgaps, hmap, hsaved, hsame, hload, hdone, hlater⟩ := checks
  have hcontent : recordStore.content (savedAnew (oneArticle (lit "../../codemap"))).2.files =
      readAnew (lit "../../codemap") := rfl
  generalize readAnew (lit "../../codemap") = k at *
  have hread := load_of_entries hsame hload
  rw [hcontent] at hread
  obtain ⟨k', hk', hnone⟩ : ∃ k', (recordStore.load.perform ((waywardEdit.action recordStore).perform
      (savedAnew k).2).2).1 = .ok k' ∧ k'.codeMap.isSome = false := by
    generalize (recordStore.load.perform _).1 = r at hlater ⊢
    cases r with
    | error e => cases hlater
    | ok k' => exact ⟨k', rfl, Option.some.inj hlater⟩
  refine ⟨k, _, _, k', rfl, hids, hgaps, eq_ok_of_isSome hsaved, hread, eq_ok_of_isSome hdone, hk',
    fun h => ?_⟩
  rw [h, hmap] at hnone
  cases hnone

end Mutation

end HelpCenter

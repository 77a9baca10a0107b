import HelpCenter.Proofs.Article.Recall
import HelpCenter.Proofs.Store.Invariant
import HelpCenter.Proofs.Store.Questions

/-!
# What is loaded after saving

Once the files of the articles and of the questions hold what was saved, loading succeeds and gives
each record as it is read back, and the code map that the files held (`loaded_of_saved`).
-/

namespace HelpCenter

open Json

/-- Filtering changes nothing if and only if it keeps every element. -/
theorem filterMap_eq_self_iff {α : Type} {f : α → Option α} {xs : List α} :
    xs.filterMap f = xs ↔ ∀ x ∈ xs, f x = some x := by
  induction xs with
  | nil => exact iff_of_true rfl nofun
  | cons x xs ih =>
      rw [List.forall_mem_cons, List.filterMap_cons, ← ih]
      cases f x with
      | none =>
          refine iff_of_false (fun h => ?_) fun h => nomatch h.1
          have hkept : xs.filterMap f = x :: xs := h
          have hlength := List.length_filterMap_le f xs
          rw [hkept, List.length_cons] at hlength
          omega
      | some y => simp

namespace Article

variable {a b : Article} {x : Binary64}

theorem recordOf_toJson (a : Article) :
    Store.recordOf Article.ofJson a.toJson.normal = (Article.ofJson a.toJson.normal).toOption := by
  rw [toJson, normal_ofFields (by simp)]
  rfl

theorem recordOf_of_readConfidence (h : a.readConfidence = .ok x) :
    Store.recordOf Article.ofJson a.toJson.normal = some (a.readBack x) := by
  rw [recordOf_toJson, ofJson_normal, h]
  rfl

theorem recordOf_eq_self_iff :
    Store.recordOf Article.ofJson a.toJson.normal = some a ↔ a.Survives := by
  refine ⟨Store.ofJson_of_recordOf, fun h => ?_⟩
  rw [recordOf_toJson, h]
  rfl

end Article

theorem Gap.recordOf_toJson (g : Gap) :
    Store.recordOf Gap.ofJson g.toJson.normal = some g.readBack := by
  have hok := ofJson_normal g
  rw [toJson, normal_ofFields (by simp)] at hok ⊢
  exact congrArg Except.toOption hok

namespace Store

/-- What is read back of what a knowledge base says about itself. -/
def recalledInfo (s : Store) (i : KnowledgeInfo) : KnowledgeInfo where
  name := s.name
  version := s.version
  lastScanAt := i.lastScanAt.normal
  lastGenerateAt := i.lastGenerateAt.normal

variable {s : Store} {t t' : FileTree} {k : KnowledgeBase} {file : Place} {v : Json}

/-! ## Records -/

theorem restored_eq_self_iff {articles : List Article} :
    restored articles = articles ↔ ∀ a ∈ articles, a.Survives := by
  unfold restored
  rw [filterMap_eq_self_iff]
  exact forall₂_congr fun a _ => Article.recordOf_eq_self_iff

theorem restored_replace {before after : List Article} {a : Article} {x : Binary64}
    (hbefore : ∀ b ∈ before, b.Survives) (hafter : ∀ b ∈ after, b.Survives)
    (h : a.readConfidence = .ok x) :
    restored (before ++ a :: after) = before ++ a.readBack x :: after := by
  have hb := restored_eq_self_iff.2 hbefore
  have ha := restored_eq_self_iff.2 hafter
  unfold restored at *
  rw [List.filterMap_append, List.filterMap_cons, Article.recordOf_of_readConfidence h, hb, ha]

theorem recalled_eq_self_iff {gaps : List Gap} :
    recalled gaps = gaps ↔ ∀ g ∈ gaps, g.Survives := by
  unfold recalled
  rw [filterMap_eq_self_iff]
  simp only [Gap.recordOf_toJson, Option.some.injEq]
  rfl

theorem recalled_replace {before after : List Gap} {g : Gap} (hbefore : ∀ h ∈ before, h.Survives)
    (hafter : ∀ h ∈ after, h.Survives) :
    recalled (before ++ g :: after) = before ++ g.readBack :: after := by
  have hb := recalled_eq_self_iff.2 hbefore
  have ha := recalled_eq_self_iff.2 hafter
  unfold recalled at *
  rw [List.filterMap_append, List.filterMap_cons, Gap.recordOf_toJson, hb, ha]

/-- The confidence of a stored article is a double, which can be written and read. -/
theorem exists_readConfidence_of_mem_stored {a : Article} (ha : a ∈ s.stored t) :
    ∃ x, a.readConfidence = .ok x := by
  obtain ⟨v, -, hv⟩ := List.mem_filterMap.1 ha
  obtain ⟨j, hread⟩ : ∃ j, Article.ofJson j = .ok a := by
    unfold recordOf at hv
    split at hv
    · exact ⟨_, Except.toOption_eq_some_iff.1 hv⟩
    · cases hv
  unfold Article.ofJson at hread
  simp only [Except.bind_eq_ok_iff] at hread
  obtain ⟨_, -, _, -, _, -, _, -, _, -, _, -, _, -, _, -, _, -, x, -, _, -, _, -, _, -, _, -, h⟩ :=
    hread
  obtain rfl := Except.ok.inj h
  exact Article.exists_readConfidence rfl

/-! ## State files -/

theorem Saved.stateIn (h : Saved file v t) : stateIn file t = some v.normal := by
  obtain ⟨bytes, q, hb, hq⟩ := h.holds
  rw [stateIn_of_holds hq, textOf_pretty hb, Option.bind_some, parse_pretty h.printable]
  rfl

theorem Saved.not_holdsHugeInteger (h : Saved file v t) : ¬ HoldsHugeInteger file t := by
  rintro ⟨text, htext, hhuge⟩
  obtain rfl : v.pretty = text := Except.ok.inj (h.holds.readText.symm.trans htext)
  rw [parse_pretty h.printable] at hhuge
  cases hhuge

theorem infoOf_itemsJson_normal (s : Store) (k : KnowledgeBase) :
    s.infoOf (.obj (membersOf (some (itemsJson k).normal))) = s.recalledInfo k.info := by
  have hinfo : k.info.toJson.normal = ofFields [
      ("name", .str (Text.joinPairs k.info.name)), ("version", .str (Text.joinPairs k.info.version)),
      ("last_scan_at", k.info.lastScanAt.normal),
      ("last_generate_at", k.info.lastGenerateAt.normal)] := normal_ofFields (by simp)
  have hitems : (itemsJson k).normal = ofFields [
      ("items", (Json.arr (k.articles.map Article.toJson)).normal),
      ("meta", k.info.toJson.normal)] := normal_ofFields (by simp)
  have hmeta : (itemsJson k).normal.get? (lit "meta") = some k.info.toJson.normal := by
    rw [hitems, get?_ofFields]
    rfl
  have hobj : Json.obj (membersOf (some (itemsJson k).normal)) = (itemsJson k).normal := by
    rw [hitems]
    rfl
  unfold infoOf
  rw [hobj, hmeta, Option.getD_some, hinfo]
  simp only [get?_ofFields]
  rfl

/-- The records of a knowledge base as they are read back, with its code map. -/
def recalledBase (s : Store) (k : KnowledgeBase) : KnowledgeBase where
  articles := restored k.articles
  gaps := recalled k.gaps
  codeMap := k.codeMap
  info := s.recalledInfo k.info

theorem stored_of_saved (hitems : Saved s.itemsFile (itemsJson k) t) :
    s.stored t = restored k.articles := by
  unfold stored content
  rw [hitems.stateIn]
  exact articlesIn_itemsJson k

/-- What the files hold after saving. -/
theorem content_of_saved (hitems : Saved s.itemsFile (itemsJson k) t)
    (hgaps : Saved s.gapsFile (gapsJson k) t) :
    s.content t = { s.recalledBase k with codeMap := (s.content t).codeMap } := by
  have harticles : (s.content t).articles = restored k.articles := stored_of_saved hitems
  have hquestions : (s.content t).gaps = recalled k.gaps :=
    questions_of_holdsJson hgaps.printable hgaps.holds
  have hinfo : (s.content t).info = s.recalledInfo k.info := by
    unfold content
    rw [hitems.stateIn]
    exact infoOf_itemsJson_normal s k
  unfold recalledBase
  rw [← harticles, ← hquestions, ← hinfo]

/-- After saving the files can be loaded if the articles can be read back and the file of the code
map holds what it held when they could be loaded before. -/
theorem loadable_of_saved (hitems : Saved s.itemsFile (itemsJson k) t)
    (hgaps : Saved s.gapsFile (gapsJson k) t) (hbefore : s.Loadable t')
    (hmap : Store.stateIn s.codeMapFile t = Store.stateIn s.codeMapFile t')
    (hhuge : HoldsHugeInteger s.codeMapFile t → HoldsHugeInteger s.codeMapFile t')
    (hread : ∀ a ∈ k.articles, ∃ x, a.readConfidence = .ok x) : s.Loadable t where
  names := hbefore.names
  integers := by
    have hinteger := hbefore.integers s.codeMapFile (by simp)
    simp only [List.forall_mem_cons, List.not_mem_nil, false_implies, implies_true, and_true]
    exact ⟨hitems.not_holdsHugeInteger, hgaps.not_holdsHugeInteger, fun h => hinteger (hhuge h)⟩
  items := by
    rw [hitems.stateIn, itemsJson, field_normal (by simp) rfl]
    exact .inr ⟨_, rfl⟩
  gaps := by
    rw [hgaps.stateIn, gapsJson, field_normal (by simp) rfl]
    exact .inr ⟨_, rfl⟩
  confidence := by
    intro members hmembers hbeyond
    rw [hitems.stateIn, itemsJson, field_normal (by simp) rfl, itemsOrNone_arr,
      List.map_map] at hmembers
    obtain ⟨a, ha, hobj⟩ := List.mem_map.1 hmembers
    obtain ⟨x, hx⟩ := hread a ha
    have hok := Article.ofJson_normal a
    rw [hx, show a.toJson.normal = .obj members from hobj,
      Article.ofJson_eq_outOfRange_iff.2 hbeyond] at hok
    cases hok
  frequency := by
    intro members hmembers hbeyond
    rw [hgaps.stateIn, gapsJson, field_normal (by simp) rfl, itemsOrNone_arr,
      List.map_map] at hmembers
    obtain ⟨g, -, hobj⟩ := List.mem_map.1 hmembers
    have hok := Gap.ofJson_normal g
    rw [show g.toJson.normal = .obj members from hobj,
      Gap.ofJson_eq_outOfRange_iff.2 hbeyond] at hok
    cases hok
  codeMap := by
    rw [hmap]
    exact hbefore.codeMap

/-- What is loaded after saving. -/
theorem loaded_of_saved (hitems : Saved s.itemsFile (itemsJson k) t)
    (hgaps : Saved s.gapsFile (gapsJson k) t) (hbefore : s.Loadable t')
    (hmap : Store.stateIn s.codeMapFile t = Store.stateIn s.codeMapFile t')
    (hhuge : HoldsHugeInteger s.codeMapFile t → HoldsHugeInteger s.codeMapFile t')
    (hread : ∀ a ∈ k.articles, ∃ x, a.readConfidence = .ok x) :
    s.loaded t = .ok { s.recalledBase k with codeMap := (s.content t').codeMap } := by
  refine loaded_eq_ok_iff.2 ⟨loadable_of_saved hitems hgaps hbefore hmap hhuge hread, ?_⟩
  have hcode : (s.content t').codeMap = (s.content t).codeMap := by
    unfold content
    rw [hmap]
  rw [hcode]
  exact (content_of_saved hitems hgaps).symm

end Store

end HelpCenter

import HelpCenter.Proofs.Except
import HelpCenter.Settings.Reading

/-!
# What keeps a document from giving settings

Every reader of a section converts the values that stand in it.  Texts are made from integers, and
doubles too, so the readers fail just on integers of the document with too many digits or beyond all
doubles (`Document.Refuses`); each reader has its lemma, up to `faults_ofSection` for a whole
document.
-/

namespace HelpCenter

open Except

namespace Yaml.Document

/-- The values that stand in a document: its root and what collections there hold. -/
inductive Holds (d : Document) : Value → Prop
  | root : d.Holds (d.deref d.root)
  | item {items : List Value} {v : Value} (hlist : d.Holds (.list items)) (hv : v ∈ items) :
      d.Holds (d.deref v)
  | entry {entries : List (Value × Value)} {e : Value × Value} (hmap : d.Holds (.map entries))
      (he : e ∈ entries) : d.Holds (d.deref e.2)

/-- The faults of integers in a document: some have too many digits for a text, some are beyond all
doubles. -/
inductive Refuses (d : Document) : DataFault → Prop
  | long {n : Int} (hn : d.Holds (.int n)) (hlong : Text.maxIntegerDigits < digitCount n.natAbs) :
      d.Refuses .unreadable
  | large {n : Int} (hn : d.Holds (.int n)) (hlarge : (Binary64.ofInt n).isFinite = false) :
      d.Refuses .outOfRange

theorem holds_of_entry? {d : Document} {name : Text} {entries : List (Value × Value)} {v : Value}
    (hmap : d.Holds (.map entries)) (hv : d.entry? name entries = some v) : d.Holds v := by
  unfold Document.entry? at hv
  obtain ⟨e, he, rfl⟩ := Option.map_eq_some_iff.1 hv
  exact .entry hmap (List.mem_reverse.1 (List.mem_of_find?_eq_some he))

end Yaml.Document

namespace Section

/-- The section is a mapping of its document. -/
def Stands (s : Section) : Prop := s.document.Holds (.map s.entries)

variable {s : Section} {v : Yaml.Value}

theorem Stands.get? (hs : s.Stands) {name : String} (hv : s.get? name = some v) :
    s.document.Holds v :=
  Yaml.Document.holds_of_entry? hs hv

theorem Stands.pick? (hs : s.Stands) {name other : String} (hv : s.pick? name other = some v) :
    s.document.Holds v := by
  rcases Option.or_eq_some_iff.1 hv with hv | ⟨-, hv⟩
  · exact hs.get? hv
  · exact hs.get? hv

theorem Stands.section? (hs : s.Stands) {name : String} {inner : Section}
    (hinner : s.section? name = some inner) : inner.document = s.document ∧ inner.Stands := by
  unfold Section.section? at hinner
  split at hinner
  · next hv =>
      obtain rfl := Option.some.inj hinner
      exact ⟨rfl, hs.get? hv⟩
  · cases hinner

end Section

namespace LooseValue

open Yaml (Document Value)

variable {d : Document} {v : Option Value}

theorem faults_integerText {n : Int} (hn : d.Holds (.int n)) : Faults d.Refuses (integerText n) := by
  unfold integerText
  split
  · exact faults_ok _
  · next hlong => exact faults_error (.long hn (by omega))

theorem faults_text? (hv : ∀ x, v = some x → d.Holds x) : Faults d.Refuses (text? v) := by
  unfold text?
  split
  · exact faults_ok _
  · exact faults_ok _
  · exact (faults_integerText (hv _ rfl)).map _
  · exact faults_ok _
  · exact faults_ok _

theorem faults_filled? (hv : ∀ x, v = some x → d.Holds x) : Faults d.Refuses (filled? v) :=
  (faults_text? hv).map _

theorem faults_double? (hv : ∀ x, v = some x → d.Holds x) : Faults d.Refuses (double? v) := by
  unfold double?
  split
  · next n =>
      by_cases hfinite : (Binary64.ofInt n).isFinite = true
      · simp only [hfinite, if_true]
        exact faults_ok _
      · simp only [hfinite]
        exact faults_error (.large (hv _ rfl) (by simpa using hfinite))
  · exact faults_ok _
  · exact faults_ok _
  · exact faults_ok _

theorem faults_itemText? {x : Value} (hx : d.Holds x) : Faults d.Refuses (itemText? x) := by
  unfold itemText?
  split
  · exact faults_ok _
  · exact faults_ok _
  · exact (faults_integerText hx).map _
  · exact faults_ok _
  · exact faults_ok _

theorem faults_texts (hv : ∀ x, v = some x → d.Holds x) : Faults d.Refuses (texts d v) := by
  unfold texts
  split
  · exact faults_ok _
  · exact (Faults.mapM fun x hx => faults_itemText? (.item (hv _ rfl) hx)).map _
  · exact faults_ok _
  · exact faults_ok _

end LooseValue

namespace Settings

open LooseValue

variable {d : Yaml.Document} {c : Section}

theorem faults_textsOr (hc : c.Stands) (name : String) (others : List Text) :
    Faults c.document.Refuses (textsOr c name others) := by
  unfold textsOr
  split
  · exact faults_texts fun _ => hc.get?
  · exact faults_ok _

theorem faults_readScan (hc : c.Stands) : Faults c.document.Refuses (readScan c) := by
  refine (faults_textsOr hc _ _).bind fun _ _ => ?_
  refine (faults_textsOr hc _ _).bind fun _ _ => ?_
  exact (faults_filled? fun _ => hc.get?).bind fun _ _ => faults_ok _

theorem faults_readTopic {item : Yaml.Value} (hitem : d.Holds (d.deref item)) :
    Faults d.Refuses (readTopic d item) := by
  unfold readTopic
  split
  · next entries hmap =>
      have hc : Section.Stands ⟨d, entries⟩ := by
        rw [hmap] at hitem
        exact hitem
      refine (faults_filled? fun _ => hc.get?).bind fun id _ => ?_
      cases id with
      | none => exact faults_ok _
      | some id =>
          refine (faults_filled? fun _ => hc.get?).bind fun _ _ => ?_
          refine (faults_texts fun _ => hc.get?).bind fun _ _ => ?_
          exact (faults_text? fun _ => hc.get?).bind fun _ _ => faults_ok _
  · exact faults_ok _

theorem faults_readTopics {v : Option Yaml.Value} (hv : ∀ x, v = some x → d.Holds x) :
    Faults d.Refuses (readTopics d v) := by
  unfold readTopics
  split
  · exact (Faults.mapM fun x hx => faults_readTopic (.item (hv _ rfl) hx)).map _
  · exact faults_ok _

theorem faults_readDocs (hc : c.Stands) : Faults c.document.Refuses (readDocs c) := by
  refine (faults_filled? fun _ => hc.pick?).bind fun _ _ => ?_
  refine (faults_filled? fun _ => hc.get?).bind fun _ _ => ?_
  refine (faults_textsOr hc _ _).bind fun _ _ => ?_
  exact (faults_readTopics fun _ => hc.pick?).bind fun _ _ => faults_ok _

theorem faults_readModel (hc : c.Stands) : Faults c.document.Refuses (readModel c) := by
  refine (faults_filled? fun _ => hc.get?).bind fun provider _ => ?_
  extract_lets rest
  have hrest (model : Option Text) : Faults c.document.Refuses (rest model) := by
    refine (faults_text? fun _ => hc.pick?).bind fun _ _ => ?_
    refine (faults_double? fun _ => hc.get?).bind fun _ _ => ?_
    refine (faults_text? fun _ => hc.pick?).bind fun _ _ => ?_
    refine (faults_double? fun _ => hc.pick?).bind fun _ _ => ?_
    exact (faults_text? fun _ => hc.get?).bind fun _ _ => faults_ok _
  split
  · exact (faults_text? fun _ => hc.get?).bind fun model _ => hrest model
  · exact (faults_ok _).bind fun model _ => hrest model

theorem faults_readDashboard (hc : c.Stands) : Faults c.document.Refuses (readDashboard c) :=
  (faults_filled? fun _ => hc.get?).bind fun _ _ => faults_ok _

theorem faults_sectionOr {α : Type} {read : Section → Except DataFault α} {other : α}
    (hread : ∀ inner : Section, inner.Stands → Faults inner.document.Refuses (read inner))
    (hc : c.Stands) (name : String) : Faults c.document.Refuses (sectionOr c name read other) := by
  unfold sectionOr
  split
  · next inner hinner =>
      obtain ⟨hsame, hstands⟩ := hc.section? hinner
      rw [← hsame]
      exact hread inner hstands
  · exact faults_ok _

/-- Only integers of the document keep it from giving settings. -/
theorem faults_ofSection (root : Place) (hc : c.Stands) :
    Faults c.document.Refuses (ofSection root c) := by
  refine (faults_filled? fun _ => hc.get?).bind fun _ _ => ?_
  refine (faults_filled? fun _ => hc.get?).bind fun _ _ => ?_
  refine (faults_sectionOr (fun _ => faults_readScan) hc _).bind fun _ _ => ?_
  refine (faults_sectionOr (fun _ => faults_readDocs) hc _).bind fun _ _ => ?_
  refine (faults_sectionOr (fun _ => faults_readModel) hc _).bind fun _ _ => ?_
  exact (faults_sectionOr (fun _ => faults_readDashboard) hc _).bind fun _ _ => faults_ok _

end Settings

end HelpCenter

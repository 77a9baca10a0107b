import HelpCenter.Proofs.Article.Edit
import HelpCenter.Proofs.Article.Reading
import HelpCenter.Store.Gaps

/-!
# Records that survive

A record survives if it is read back as itself.  When such a record is edited, its other fields come
back unchanged, and the edited ones as they were given: `RecalledEdit` says so for an edit by a
person.
-/

namespace HelpCenter

namespace Article

variable {a b : Article} {x : Binary64} {edit : List (Text × Json)}

/-- The article is read back as itself. -/
def Survives (a : Article) : Prop := Article.ofJson a.toJson.normal = .ok a

theorem Survives.exists_readBack (h : a.Survives) :
    ∃ x, a.readConfidence = .ok x ∧ a.readBack x = a := by
  obtain ⟨x, hx, ha⟩ := Article.exists_readBack h
  exact ⟨x, hx, ha.symm⟩

/-! ## States -/

theorem readBack_of_status {status : Text} (pinned : Bool) (ha : a.readBack x = a)
    (hstatus : readStatus status = status) :
    readBack { a with status, pinned } x = { a with status, pinned } := by
  have hback : readBack { a with status, pinned } x =
      { a.readBack x with status := readStatus status, pinned } := rfl
  rw [hback, ha, hstatus]

theorem readBack_inStatus {status : Text} (ha : a.readBack x = a) (h : status ∈ statuses) :
    (a.inStatus status).readBack x = a.inStatus status :=
  readBack_of_status _ ha (readStatus_of_mem h)

theorem readBack_withPin (pinned : Bool) (ha : a.readBack x = a) :
    (a.withPin pinned).readBack x = a.withPin pinned := by
  have hsame : readStatus a.status = a.status := congrArg Article.status ha
  refine readBack_of_status pinned ha ?_
  split_ifs
  · exact readStatus_of_mem (by decide)
  · exact readStatus_of_mem (by decide)
  · exact hsame

/-! ## Edits -/

/-- An edit leads from `a` to an article that is read back as `b`. -/
structure RecalledEdit (edit : List (Text × Json)) (a b : Article) : Prop where
  frame : b = { a with
    title := b.title, content := b.content, pages := b.pages, status := b.status
    pinned := b.pinned, humanEdited := b.humanEdited
    lastEditedAt := b.lastEditedAt, lastEditedBy := b.lastEditedBy }
  title : b.title = ((given edit "title").map fun v => .str v.normal.asText).getD a.title
  content : b.content = ((given edit "content").map fun v => .str v.normal.asText).getD a.content
  pages : (given edit "pages" = none ∧ b.pages = a.pages) ∨
    ∃ v items, given edit "pages" = some v ∧ v.items = .ok items ∧
      b.pages = items.map fun item => .str (Text.joinPairs item.display)
  status : (given edit "status" = none ∧ b.status = a.status) ∨
    given edit "status" = some (.str b.status) ∧ b.status ∈ statuses

theorem readConfidence_edited {by_ : Option Text} {now : Moment}
    (h : a.edited edit by_ now = .ok b) : b.readConfidence = a.readConfidence := by
  obtain ⟨c, hc, h⟩ := Except.bind_eq_ok_iff.1 h
  have hframe : c.confidence = a.confidence := by rw [editFields_frame hc]
  obtain rfl := Except.ok.inj h
  unfold readConfidence
  rw [hframe]

theorem readBack_frame (h : b = { a with
      title := b.title, content := b.content, pages := b.pages, status := b.status }) :
    b.readBack x = { a.readBack x with
      title := (b.readBack x).title, content := (b.readBack x).content
      pages := (b.readBack x).pages, status := (b.readBack x).status } := by
  obtain ⟨⟩ := a
  obtain ⟨⟩ := b
  cases h
  rfl

theorem recalledEdit_of_edited {by_ : Option Text} {now : Moment} (ha : a.readBack x = a)
    (hnames : (edit.map Prod.fst).Nodup) (h : a.edited edit by_ now = .ok b) :
    RecalledEdit edit a (b.readBack x) := by
  obtain ⟨c, hc, h⟩ := Except.bind_eq_ok_iff.1 h
  obtain ⟨hframe, title, content, pages, status⟩ := editFields_outcome hnames hc
  have hback := readBack_frame (x := x) hframe
  rw [ha] at hback
  obtain rfl := Except.ok.inj h
  constructor
  · obtain ⟨⟩ := a
    obtain ⟨⟩ := c
    cases hback
    rfl
  · show Json.str c.title.normal.asText = _
    rw [title]
    cases given edit "title" with
    | none => exact congrArg Article.title ha
    | some v => rfl
  · show Json.str c.content.normal.asText = _
    rw [content]
    cases given edit "content" with
    | none => exact congrArg Article.content ha
    | some v => rfl
  · rcases pages with ⟨hnone, hsame⟩ | ⟨v, items, hgiven, hitems, hpages⟩
    · refine .inl ⟨hnone, ?_⟩
      show c.pages.map Json.normal = a.pages
      rw [hsame]
      exact congrArg Article.pages ha
    · refine .inr ⟨v, items, hgiven, hitems, ?_⟩
      show c.pages.map Json.normal = _
      rw [hpages, List.map_map]
      rfl
  · rcases status with ⟨hnone, hsame⟩ | ⟨hgiven, hmem⟩
    · refine .inl ⟨hnone, ?_⟩
      show readStatus c.status = a.status
      rw [hsame]
      exact congrArg Article.status ha
    · refine .inr ?_
      show given edit "status" = some (.str (readStatus c.status)) ∧ readStatus c.status ∈ statuses
      rw [readStatus_of_mem hmem]
      exact ⟨hgiven, hmem⟩

end Article

namespace Gap

variable {g : Gap}

/-- The question is read back as itself. -/
def Survives (g : Gap) : Prop := g.readBack = g

/-- Asking again changes the frequency alone. -/
theorem Survives.exists_frequency (h : g.Survives) (n : ℤ) :
    ∃ n', readBack { g with frequency := n } = { g with frequency := n' } := by
  refine ⟨if n = 0 then 1 else n, ?_⟩
  have hback : readBack { g with frequency := n } =
      { g.readBack with frequency := if n = 0 then 1 else n } := rfl
  rw [hback, h]

theorem Survives.readBack_resolved (h : g.Survives) (by_ resolution : Json) :
    (g.resolved by_ resolution).readBack = g.resolved by_.normal resolution.normal := by
  have hstatus : (if Text.joinPairs (lit "resolved") = [] then lit "pending"
      else Text.joinPairs (lit "resolved")) = lit "resolved" := by decide
  have hback : (g.resolved by_ resolution).readBack =
      { g.readBack.resolved by_.normal resolution.normal with
        status := if Text.joinPairs (lit "resolved") = [] then lit "pending"
          else Text.joinPairs (lit "resolved") } := rfl
  rw [hback, hstatus, h]
  rfl

end Gap

end HelpCenter

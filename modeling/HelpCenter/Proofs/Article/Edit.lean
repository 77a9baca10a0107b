import HelpCenter.Proofs.Article.Identity
import HelpCenter.Proofs.Except
import HelpCenter.Store.Articles

/-!
# Edits of an article

An edit reaches the title, the content, the pages and the state of an article (`editFields_frame`).
If it names no field twice, then `EditOutcome` says what each of them is afterwards
(`editFields_outcome`).
-/

namespace HelpCenter.Article

variable {a b : Article} {edit : List (Text × Json)}

/-! ## What an edit cannot reach -/

theorem editField_frame {field : Text} {value : Json} (h : a.editField field value = .ok b) :
    b = { a with title := b.title, content := b.content, pages := b.pages, status := b.status } := by
  unfold editField at h
  split at h
  · cases h; rfl
  split_ifs at h
  · cases h; rfl
  · cases h; rfl
  · split at h <;> cases h
    rfl
  · split at h
    · split_ifs at h
      cases h
      rfl
    · cases h
  · cases h; rfl

theorem editFields_frame (h : a.editFields edit = .ok b) :
    b = { a with title := b.title, content := b.content, pages := b.pages, status := b.status } := by
  induction edit generalizing a with
  | nil => cases h; rfl
  | cons f rest ih =>
      obtain ⟨c, hc, h⟩ := Except.bind_eq_ok_iff.1 h
      have hfirst := editField_frame hc
      have hrest := ih h
      rw [hrest, hfirst]

theorem edited_key {by_ : Option Text} {now : Moment} (h : a.edited edit by_ now = .ok b) :
    b.key = a.key := by
  obtain ⟨c, hc, h⟩ := Except.bind_eq_ok_iff.1 h
  have hframe := editFields_frame hc
  obtain rfl := Except.ok.inj h
  show (c.id, c.topic) = (a.id, a.topic)
  rw [hframe]

/-! ## What an edit gives -/

/-- The value that an edit gives for a field. -/
def given (edit : List (Text × Json)) (field : String) : Option Json :=
  match Json.member? (lit field) edit with
  | none | some .null => none
  | some v => some v

theorem gives_eq_isSome (edit : List (Text × Json)) (field : String) :
    gives edit field = (given edit field).isSome := by
  unfold gives given
  cases Json.member? (lit field) edit with
  | none => rfl
  | some v => cases v <;> rfl

/-- An edit that names no field twice leads from `a` to `b`. -/
structure EditOutcome (edit : List (Text × Json)) (a b : Article) : Prop where
  frame : b = { a with title := b.title, content := b.content, pages := b.pages, status := b.status }
  title : b.title = (given edit "title").getD a.title
  content : b.content = (given edit "content").getD a.content
  pages : (given edit "pages" = none ∧ b.pages = a.pages) ∨
    ∃ v items, given edit "pages" = some v ∧ v.items = .ok items ∧
      b.pages = items.map fun item => .str item.display
  status : (given edit "status" = none ∧ b.status = a.status) ∨
    given edit "status" = some (.str b.status) ∧ b.status ∈ statuses

theorem member?_eq_none {name : Text} {members : List (Text × Json)}
    (h : name ∉ members.map Prod.fst) : Json.member? name members = none := by
  induction members with
  | nil => rfl
  | cons m members ih =>
      rw [List.map_cons, List.mem_cons, not_or] at h
      rw [Json.member?, if_neg (Ne.symm h.1), ih h.2]

theorem given_cons_of_ne {f : Text} {v : Json} {field : String} (h : f ≠ lit field) :
    given ((f, v) :: edit) field = given edit field := by
  unfold given
  rw [Json.member?, if_neg h]

theorem given_cons_self {v : Json} {field : String} (hv : v ≠ .null) :
    given ((lit field, v) :: edit) field = some v := by
  unfold given
  rw [Json.member?, if_pos rfl]
  cases v with
  | null => exact absurd rfl hv
  | _ => rfl

theorem given_of_notMem {field : String} (h : lit field ∉ edit.map Prod.fst) :
    given edit field = none := by
  unfold given
  rw [member?_eq_none h]

theorem given_single_null {f : Text} {field : String} : given [(f, .null)] field = none := by
  by_cases hf : f = lit field
  · subst hf
    unfold given
    rw [Json.member?, if_pos rfl]
  · exact given_cons_of_ne hf

/-- Of an edit that names no field twice, a field is given by the first entry or by the others. -/
theorem given_cons_cases {f : Text} {v : Json} (hf : f ∉ edit.map Prod.fst) (field : String) :
    (given ((f, v) :: edit) field = given [(f, v)] field ∧ given edit field = none) ∨
      (given ((f, v) :: edit) field = given edit field ∧ given [(f, v)] field = none) := by
  by_cases hfield : f = lit field
  · subst hfield
    refine .inl ⟨?_, given_of_notMem hf⟩
    unfold given
    rw [Json.member?, Json.member?, if_pos rfl, if_pos rfl]
  · exact .inr ⟨given_cons_of_ne hfield, given_cons_of_ne hfield⟩

/-- An edit that gives none of the fields changes nothing. -/
theorem EditOutcome.refl
    (h : ∀ field ∈ ["title", "content", "pages", "status"], given edit field = none) :
    EditOutcome edit a a where
  frame := rfl
  title := by rw [h _ (by simp)]; rfl
  content := by rw [h _ (by simp)]; rfl
  pages := .inl ⟨h _ (by simp), rfl⟩
  status := .inl ⟨h _ (by simp), rfl⟩

theorem editField_outcome {f : Text} {v : Json} (h : a.editField f v = .ok b) :
    EditOutcome [(f, v)] a b := by
  have hframe := editField_frame h
  unfold editField at h
  split at h
  · obtain rfl := Except.ok.inj h
    exact .refl fun _ _ => given_single_null
  next hv =>
  have hself {field : String} (hfield : f = lit field) : given [(f, v)] field = some v := by
    subst hfield
    exact given_cons_self fun hnull => hv hnull
  have hother {field other : String} (hfield : f = lit field) (ho : field ≠ other) :
      given [(f, v)] other = none :=
    given_cons_of_ne fun he => ho (Text.ofString_inj.1 (hfield.symm.trans he))
  split_ifs at h with htitle hcontent hpages hstatus
  · obtain rfl := Except.ok.inj h
    have hnone {other : String} := @hother _ other htitle
    refine ⟨hframe, ?_, ?_, .inl ⟨hnone (by decide), rfl⟩, .inl ⟨hnone (by decide), rfl⟩⟩
    · rw [hself htitle]; rfl
    · rw [hnone (by decide)]; rfl
  · obtain rfl := Except.ok.inj h
    have hnone {other : String} := @hother _ other hcontent
    refine ⟨hframe, ?_, ?_, .inl ⟨hnone (by decide), rfl⟩, .inl ⟨hnone (by decide), rfl⟩⟩
    · rw [hnone (by decide)]; rfl
    · rw [hself hcontent]; rfl
  · split at h
    · next items hitems =>
      obtain rfl := Except.ok.inj h
      have hnone {other : String} := @hother _ other hpages
      refine ⟨hframe, ?_, ?_, .inr ⟨v, items, hself hpages, hitems, rfl⟩,
        .inl ⟨hnone (by decide), rfl⟩⟩
      · rw [hnone (by decide)]; rfl
      · rw [hnone (by decide)]; rfl
    · cases h
  · split at h
    · split_ifs at h with hknown
      obtain rfl := Except.ok.inj h
      have hnone {other : String} := @hother _ other hstatus
      refine ⟨hframe, ?_, ?_, .inl ⟨hnone (by decide), rfl⟩,
        .inr ⟨hself hstatus, by simpa using hknown⟩⟩
      · rw [hnone (by decide)]; rfl
      · rw [hnone (by decide)]; rfl
    · cases h
  · obtain rfl := Except.ok.inj h
    refine .refl fun field hfield => given_cons_of_ne ?_
    simp only [List.mem_cons, List.not_mem_nil, or_false] at hfield
    rcases hfield with rfl | rfl | rfl | rfl
    · exact htitle
    · exact hcontent
    · exact hpages
    · exact hstatus

/-- An edit of one field and then of others, which do not name it again. -/
theorem EditOutcome.cons {c : Article} {f : Text} {v : Json} (hf : f ∉ edit.map Prod.fst)
    (hfirst : EditOutcome [(f, v)] a c) (hrest : EditOutcome edit c b) :
    EditOutcome ((f, v) :: edit) a b where
  frame := by rw [hrest.frame, hfirst.frame]
  title := by
    rw [hrest.title, hfirst.title]
    obtain ⟨h, hnone⟩ | ⟨h, hnone⟩ := given_cons_cases (v := v) hf "title" <;> rw [h, hnone] <;> rfl
  content := by
    rw [hrest.content, hfirst.content]
    obtain ⟨h, hnone⟩ | ⟨h, hnone⟩ := given_cons_cases (v := v) hf "content" <;>
      rw [h, hnone] <;> rfl
  pages := by
    obtain ⟨h, hnone⟩ | ⟨h, hnone⟩ := given_cons_cases (v := v) hf "pages"
    · have hpages := hrest.pages
      rw [hnone] at hpages
      rw [h, (hpages.resolve_right nofun).2]
      exact hfirst.pages
    · have hpages := hfirst.pages
      rw [hnone] at hpages
      rw [h, ← (hpages.resolve_right nofun).2]
      exact hrest.pages
  status := by
    obtain ⟨h, hnone⟩ | ⟨h, hnone⟩ := given_cons_cases (v := v) hf "status"
    · have hstatus := hrest.status
      rw [hnone] at hstatus
      rw [h, (hstatus.resolve_right nofun).2]
      exact hfirst.status
    · have hstatus := hfirst.status
      rw [hnone] at hstatus
      rw [h, ← (hstatus.resolve_right nofun).2]
      exact hrest.status

theorem editFields_outcome (hnames : (edit.map Prod.fst).Nodup) (h : a.editFields edit = .ok b) :
    EditOutcome edit a b := by
  induction edit generalizing a with
  | nil =>
      obtain rfl := Except.ok.inj h
      exact .refl fun _ _ => rfl
  | cons entry rest ih =>
      obtain ⟨hf, hrest⟩ := List.nodup_cons.1 hnames
      obtain ⟨c, hc, h⟩ := Except.bind_eq_ok_iff.1 h
      exact .cons hf (editField_outcome hc) (ih hrest h)

end HelpCenter.Article

import HelpCenter.Generation.Batch
import HelpCenter.Proofs.Except

/-!
# When a draft succeeds

A reply is searched for a JSON object, and a reply without one is the content itself.  Only an
integer with more digits than are read stands in the way (`Reply.IsUnreadable`), so a draft succeeds
just if the author answers with a text that is not unreadable (`isSome_draft_iff`).  Nothing else
than the answers to the prompts that are asked enters a batch (`write_withAuthor`).
-/

namespace HelpCenter

namespace Reply

/-- The texts in a reply that are tried as its object, in order. -/
def candidates (t : Text) : List Text := Text.trim t :: (fenced? t).toList

/-- Before any of the texts is found to be an object, one turns out to hold an integer with more
digits than are read. -/
def IsBlocked (ts : List Text) : Prop :=
  ∃ before u after, ts = before ++ u :: after ∧
    (∀ b ∈ before, ∀ members, Json.parse b ≠ .ok (.obj members)) ∧
    Json.parse u = .error .hugeInteger

/-- No draft can be read from the reply. -/
def IsUnreadable (t : Text) : Prop := IsBlocked (candidates t)

theorem not_isBlocked_nil : ¬ IsBlocked [] := by
  rintro ⟨before, u, after, h, -⟩
  cases before <;> cases h

theorem isBlocked_cons_iff {t : Text} {ts : List Text} :
    IsBlocked (t :: ts) ↔ Json.parse t = .error .hugeInteger ∨
      (∀ members, Json.parse t ≠ .ok (.obj members)) ∧ IsBlocked ts := by
  constructor
  · rintro ⟨before, u, after, h, hbefore, hu⟩
    cases before with
    | nil =>
        obtain ⟨rfl, -⟩ := List.cons.inj h
        exact .inl hu
    | cons b before =>
        obtain ⟨rfl, rfl⟩ := List.cons.inj h
        obtain ⟨hb, hbefore⟩ := List.forall_mem_cons.1 hbefore
        exact .inr ⟨hb, before, u, after, rfl, hbefore, hu⟩
  · rintro (hu | ⟨ht, before, u, after, rfl, hbefore, hu⟩)
    · exact ⟨[], t, ts, rfl, nofun, hu⟩
    · exact ⟨t :: before, u, after, rfl, List.forall_mem_cons.2 ⟨ht, hbefore⟩, hu⟩

theorem firstObject?_eq_error_iff {ts : List Text} {e : DataFault} :
    firstObject? ts = .error e ↔ e = .unreadable ∧ IsBlocked ts := by
  induction ts with
  | nil => simp [firstObject?, not_isBlocked_nil]
  | cons t ts ih =>
      rw [isBlocked_cons_iff]
      unfold firstObject?
      split
      · next members hobj => simp [hobj]
      · next hhuge => simp [hhuge, eq_comm]
      · next hobj hhuge =>
        have hplain : ¬ Json.parse t = .error .hugeInteger := hhuge
        have hnone : ∀ members, Json.parse t ≠ .ok (.obj members) := hobj
        rw [ih]
        simp [hplain, hnone]

theorem draft_eq_error_iff {t title : Text} {e : DataFault} :
    draft t title = .error e ↔ e = .unreadable ∧ IsUnreadable t := by
  have hfirst : draft t title = .error e ↔ firstObject? (candidates t) = .error e := by
    unfold draft candidates
    rw [Except.bind_eq_error_iff]
    constructor
    · rintro (h | ⟨found, -, h⟩)
      · exact h
      · cases found <;> cases h
    · exact .inl
  rw [hfirst, firstObject?_eq_error_iff, IsUnreadable]

end Reply

/-- The authors answer the prompt with the same text, or both fail. -/
def AgreeOn (author other : Author) (prompt : Text) : Prop :=
  (author prompt).toOption = (other prompt).toOption

namespace Desk

variable {d : Desk} {m : CodeMap} {p : PlannedTopic} {plan : List PlannedTopic}
  {articles : List Article} {other : Author}

/-- The desk with another author. -/
def withAuthor (d : Desk) (other : Author) : Desk := { d with author := other }

/-- The prompts that a batch asks its author. -/
def asked (d : Desk) (plan : List PlannedTopic) : List Text :=
  (plan.filter (·.needsWriting)).map d.prompt

/-- A draft is read from the text that the author answers. -/
theorem toOption_draft (d : Desk) (p : PlannedTopic) :
    (d.draft p).toOption = (d.author (d.prompt p)).toOption.bind fun text =>
      (Reply.draft text (d.catalog.displayName p.feature.id)).toOption := by
  unfold draft
  cases d.author (d.prompt p) with
  | error e => rfl
  | ok text =>
      simp only [bind, Except.bind, Except.toOption, Option.bind_some]
      cases Reply.draft text (d.catalog.displayName p.feature.id) <;> rfl

theorem isSome_draft_iff (d : Desk) (p : PlannedTopic) :
    (d.draft p).toOption.isSome = true ↔
      ∃ text, d.author (d.prompt p) = .ok text ∧ ¬ Reply.IsUnreadable text := by
  rw [toOption_draft]
  cases d.author (d.prompt p) with
  | error e => simp [Except.toOption]
  | ok text =>
      simp only [Except.toOption, Option.bind_some, Except.ok.injEq, exists_eq_left']
      cases hdraft : Reply.draft text (d.catalog.displayName p.feature.id) with
      | ok draft =>
          refine ⟨fun _ hbad => ?_, fun _ => rfl⟩
          rw [Reply.draft_eq_error_iff.2 ⟨rfl, hbad⟩] at hdraft
          cases hdraft
      | error e =>
          have hbad : Reply.IsUnreadable text := (Reply.draft_eq_error_iff.1 hdraft).2
          exact ⟨fun hsome => absurd hsome Bool.false_ne_true, fun hgood => absurd hbad hgood⟩

theorem toOption_draft_withAuthor (h : AgreeOn d.author other (d.prompt p)) :
    ((d.withAuthor other).draft p).toOption = (d.draft p).toOption := by
  rw [toOption_draft d, h, toOption_draft]
  rfl

/-- Authors who answer alike what is asked come to the same result. -/
theorem write_withAuthor (h : ∀ prompt ∈ d.asked plan, other prompt = d.author prompt)
    (trial : Bool) :
    (d.withAuthor other).write m plan articles trial = d.write m plan articles trial := by
  have hdraft : ∀ p ∈ plan.filter (·.needsWriting), (d.withAuthor other).draft p = d.draft p := by
    intro p hp
    have hanswer : other (d.prompt p) = d.author (d.prompt p) := h _ (List.mem_map_of_mem hp)
    unfold draft
    show (do
      let reply ← other (d.prompt p)
      _) = _
    rw [hanswer]
    rfl
  unfold write
  cases trial with
  | true => rfl
  | false =>
      refine List.foldl_ext _ _ _ fun r p hp => ?_
      unfold BatchResult.step
      rw [hdraft p hp]
      rfl

end Desk

end HelpCenter

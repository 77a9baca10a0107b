import HelpCenter.Proofs.Json.Fields
import HelpCenter.Proofs.Json.Normal
import HelpCenter.Proofs.Text.Trim
import HelpCenter.Store.Gaps
import Mathlib.Algebra.BigOperators.Group.List.Basic

/-!
# The ledger of questions

A ledger tells questions apart by their ids and by their wording, whatever the case of the letters,
and its frequencies add up to the number of times that anything was asked (`IsLedger`).  Asking adds
one to that number, be it by a question that is there (`IsLedger.again`) or by a new one
(`IsLedger.first`), whose id the ledger does not have yet (`Gap.newId_spec`).
-/

namespace HelpCenter

/-! ## New ids -/

namespace Gap

theorem isPlain_idChoice (now : Moment) (n : ℕ) : Text.IsPlain (idChoice now n) := by
  have hbase : Text.IsPlain (lit "gap-" ++ Text.ofInt now.millis) :=
    Text.isPlain_append (by decide) (Text.isPlain_ofInt _)
  unfold idChoice
  dsimp only
  split
  · exact hbase
  · exact Text.isPlain_append (Text.isPlain_append hbase (by decide)) (Text.isPlain_ofNat _)

/-- No id is chosen twice. -/
theorem idChoice_injective (now : Moment) : Function.Injective (idChoice now) := by
  intro m n h
  have longer {k : ℕ} (base : Text) : base ≠ base ++ lit "-" ++ Text.ofNat k := by
    intro he
    rw [List.append_assoc, List.self_eq_append_right] at he
    exact absurd (List.append_eq_nil_iff.1 he).1 (by decide)
  unfold idChoice at h
  dsimp only at h
  split_ifs at h with hm hn hn
  · omega
  · exact absurd h (longer _)
  · exact absurd h.symm (longer _)
  · have hdigits := congrArg Text.digitsValue (List.append_cancel_left h)
    rw [Text.digitsValue_ofNat, Text.digitsValue_ofNat] at hdigits
    omega

/-- Trying one choice after the other comes to one that is not taken. -/
theorem exists_idChoice_notMem (now : Moment) (taken : List Text) :
    ∃ n ≤ taken.length, idChoice now n ∉ taken := by
  by_contra hall
  push Not at hall
  have hsub : (List.range (taken.length + 1)).map (idChoice now) ⊆ taken := by
    intro id hid
    obtain ⟨n, hn, rfl⟩ := List.mem_map.1 hid
    exact hall n (Nat.lt_succ_iff.1 (List.mem_range.1 hn))
  have hnodup : ((List.range (taken.length + 1)).map (idChoice now)).Nodup :=
    List.nodup_range.map (idChoice_injective now)
  have hle := (List.subperm_of_subset hnodup hsub).length_le
  rw [List.length_map, List.length_range] at hle
  omega

/-- A new id is the first choice that is not taken. -/
theorem newId_spec (now : Moment) (taken : List Text) :
    ∃ n ≤ taken.length, newId now taken = idChoice now n ∧ idChoice now n ∉ taken ∧
      ∀ k < n, idChoice now k ∈ taken := by
  obtain ⟨m, hm, hfree⟩ := exists_idChoice_notMem now taken
  have hexists : ∃ n, idChoice now n ∉ taken := ⟨m, hfree⟩
  have hle : Nat.find hexists ≤ taken.length := (Nat.find_min' hexists hfree).trans hm
  have hbefore : ∀ k < Nat.find hexists, idChoice now k ∈ taken := fun k hk =>
    not_not.1 (Nat.find_min hexists hk)
  refine ⟨Nat.find hexists, hle, ?_, Nat.find_spec hexists, hbefore⟩
  have hfind : (List.range (taken.length + 1)).find? (fun k => !taken.contains (idChoice now k)) =
      some (Nat.find hexists) := by
    rw [List.find?_range_eq_some]
    refine ⟨by simpa using Nat.find_spec hexists, List.mem_range.2 (by omega), fun k hk => ?_⟩
    simpa using hbefore k hk
  unfold newId
  dsimp only
  rw [List.find?_map]
  show Option.getD ((List.find? (fun k => !taken.contains (idChoice now k)) _).map _) _ = _
  rw [hfind]
  rfl

/-! ## Changing a question -/

variable {p : Gap → Bool} {change : Gap → Gap} {g : Gap} {gaps gaps' : List Gap}

theorem changeFirst_eq_some (h : changeFirst p change gaps = some (g, gaps')) :
    ∃ before old after, gaps = before ++ old :: after ∧ p old = true ∧
      gaps' = before ++ change old :: after := by
  induction gaps generalizing gaps' with
  | nil => cases h
  | cons head rest ih =>
      unfold changeFirst at h
      split at h
      · next hp =>
        obtain ⟨-, rfl⟩ := Prod.mk.inj (Option.some.inj h)
        exact ⟨[], head, rest, rfl, hp, rfl⟩
      · obtain ⟨⟨g', rest'⟩, hrest, heq⟩ := Option.map_eq_some_iff.1 h
        obtain ⟨rfl, rfl⟩ := Prod.mk.inj heq
        obtain ⟨before, old, after, rfl, hp, rfl⟩ := ih hrest
        exact ⟨head :: before, old, after, rfl, hp, rfl⟩

theorem changeFirst_eq_none_iff : changeFirst p change gaps = none ↔ ∀ g ∈ gaps, p g = false := by
  induction gaps with
  | nil => simp [changeFirst]
  | cons head rest ih =>
      unfold changeFirst
      split
      · next hp => simp [hp]
      · next hp => simp [hp, ih]

/-- What a ledger goes by: the id, the question and how often it was asked. -/
def entry (g : Gap) : Text × Text × ℤ := (g.id, g.question, g.frequency)

theorem map_entry_changeFirst (h : changeFirst p change gaps = some (g, gaps'))
    (hchange : ∀ g, (change g).entry = g.entry) : gaps'.map entry = gaps.map entry := by
  obtain ⟨before, old, after, rfl, -, rfl⟩ := changeFirst_eq_some h
  simp [hchange]

end Gap

/-! ## Ledgers -/

/-- The questions record `n` times that something was asked. -/
structure IsLedger (n : ℕ) (gaps : List Gap) : Prop where
  /-- The ids are different. -/
  ids : (gaps.map fun g => g.id).Nodup
  /-- The questions are not blank, and there is no white space around them. -/
  questions : ∀ g ∈ gaps, g.question.isBlank = false ∧ Text.trim g.question = g.question
  /-- The questions differ in more than the case of their letters. -/
  wordings : (gaps.map fun g => Text.toLower g.question).Nodup
  /-- Each question was asked. -/
  frequencies : ∀ g ∈ gaps, 1 ≤ g.frequency
  /-- The frequencies add up. -/
  total : (gaps.map fun g => g.frequency).sum = n
  /-- The ids and questions hold no surrogates. -/
  encodable : ∀ g ∈ gaps, g.id.isEncodable = true ∧ g.question.isEncodable = true

namespace IsLedger

variable {n : ℕ} {gaps gaps' before after : List Gap} {g : Gap}

theorem nil : IsLedger 0 [] := ⟨List.nodup_nil, nofun, List.nodup_nil, nofun, rfl, nofun⟩

theorem congr (h : IsLedger n gaps) (he : gaps'.map Gap.entry = gaps.map Gap.entry) :
    IsLedger n gaps' := by
  have hmap {β : Type} (f : Text × Text × ℤ → β) :
      (gaps'.map fun g => f g.entry) = gaps.map fun g => f g.entry := by
    simpa [List.map_map, Function.comp_def] using congrArg (List.map f) he
  have hall {P : Text × Text × ℤ → Prop} (hP : ∀ g ∈ gaps, P g.entry) : ∀ g ∈ gaps', P g.entry := by
    rw [← List.forall_mem_map (P := P)] at hP ⊢
    rwa [he]
  exact {
    ids := hmap (·.1) ▸ h.ids
    questions := hall (P := fun e => e.2.1.isBlank = false ∧ Text.trim e.2.1 = e.2.1) h.questions
    wordings := hmap (fun e => Text.toLower e.2.1) ▸ h.wordings
    frequencies := hall (P := fun e => 1 ≤ e.2.2) h.frequencies
    total := (congrArg List.sum (hmap (·.2.2))).trans h.total
    encodable := hall (P := fun e => e.1.isEncodable = true ∧ e.2.1.isEncodable = true)
      h.encodable }

/-- A question that is there is asked again. -/
theorem again (h : IsLedger n (before ++ g :: after)) :
    IsLedger (n + 1) (before ++ { g with frequency := g.frequency + 1 } :: after) := by
  obtain ⟨ids, questions, wordings, frequencies, total, encodable⟩ := h
  simp only [List.forall_mem_append, List.forall_mem_cons] at questions frequencies encodable
  refine ⟨by simpa using ids, ?_, by simpa using wordings, ?_, ?_, ?_⟩
  · simpa only [List.forall_mem_append, List.forall_mem_cons] using questions
  · have hg : 1 ≤ g.frequency + 1 := by have := frequencies.2.1; omega
    simpa only [List.forall_mem_append, List.forall_mem_cons] using
      ⟨frequencies.1, hg, frequencies.2.2⟩
  · simp only [List.map_append, List.map_cons, List.sum_append, List.sum_cons] at total ⊢
    omega
  · simpa only [List.forall_mem_append, List.forall_mem_cons] using encodable

/-- A new question is asked. -/
theorem first (h : IsLedger n gaps) (hid : g.id ∉ gaps.map fun g => g.id)
    (hnew : ∀ old ∈ gaps, Text.toLower old.question ≠ Text.toLower g.question)
    (hquestion : g.question.isBlank = false ∧ Text.trim g.question = g.question)
    (hencodable : g.id.isEncodable = true ∧ g.question.isEncodable = true)
    (hfrequency : g.frequency = 1) : IsLedger (n + 1) (gaps ++ [g]) := by
  have hwording : Text.toLower g.question ∉ gaps.map fun g => Text.toLower g.question := by
    intro hmem
    obtain ⟨old, hold, he⟩ := List.mem_map.1 hmem
    exact hnew old hold he
  have append {P : Gap → Prop} (hold : ∀ old ∈ gaps, P old) (hg : P g) :
      ∀ old ∈ gaps ++ [g], P old :=
    List.forall_mem_append.2 ⟨hold, List.forall_mem_singleton.2 hg⟩
  refine ⟨?_, append h.questions hquestion, ?_, append h.frequencies (by omega), ?_,
    append h.encodable hencodable⟩
  · rw [List.map_append, List.map_singleton, ← List.concat_eq_append]
    exact h.ids.concat hid
  · rw [List.map_append, List.map_singleton, ← List.concat_eq_append]
    exact h.wordings.concat hwording
  · have htotal := h.total
    rw [List.map_append, List.sum_append, htotal]
    simp [hfrequency]

end IsLedger

/-! ## Reading back -/

open Json

/-- A question that was asked is read back with its entry. -/
theorem Gap.exists_ofJson_normal {g : Gap}
    (h : g.id.isEncodable = true ∧ g.question.isEncodable = true) (hf : 1 ≤ g.frequency) :
    ∃ g', Gap.ofJson g.toJson.normal = .ok g' ∧ g'.entry = g.entry := by
  have hid : Text.joinPairs g.id = g.id := Text.joinPairs_of_isEncodable h.1
  have hquestion : Text.joinPairs g.question = g.question := Text.joinPairs_of_isEncodable h.2
  have hzero : g.frequency = 0 → (1 : ℤ) = 0 := fun hn => by omega
  rw [Gap.toJson, normal_ofFields (by simp)]
  refine ⟨_, Except.bind_ok (text_ofFields rfl) <| Except.bind_ok (text_ofFields rfl) <|
    Except.bind_ok (textOr_obj _) <| Except.bind_ok (integerOr_ofFields rfl hzero) <|
    Except.bind_ok (textOr_obj _) <| Except.bind_ok optional_obj <| Except.bind_ok optional_obj <|
    Except.bind_ok optional_obj <| Except.bind_ok optional_obj <|
    Except.bind_ok optional_obj rfl, ?_⟩
  exact Prod.ext hid (Prod.ext hquestion rfl)

end HelpCenter

import HelpCenter.Proofs.Pattern.Ways

/-!
# The matches in a text

A search looks at one place after the other.  So it tells whether a pattern matches somewhere, be it
with nothing (`matchesIn_iff`).  Of all matches in a text those that take something are, from left to
right, the first one, the first one behind its end, and so on (`spans_allMatches`): a match that
takes nothing neither hides one at its place nor takes part in the order.
-/

namespace HelpCenter.CompiledPattern

open Pattern

/-- Where a match that begins at a place can end, the preferred ends first. -/
def ends (p : CompiledPattern) (text : Array CodePoint) (i : ℕ) : List ℕ :=
  (p.pattern.ways text p.flags i []).map (·.1)

/-- The preferred end of a match that takes something. -/
def taken? (p : CompiledPattern) (text : Array CodePoint) (i : ℕ) : Option ℕ :=
  (p.ends text i).find? (i < ·)

/-- The pattern matches somewhere, if only with nothing. -/
def Occurs (p : CompiledPattern) (text : Array CodePoint) : Prop :=
  ∃ i < text.size + 1, p.ends text i ≠ []

/-- The pattern takes something somewhere. -/
def Takes (p : CompiledPattern) (text : Array CodePoint) : Prop :=
  ∃ i < text.size, ∃ j ∈ p.ends text i, i < j

instance (p : CompiledPattern) (text : Array CodePoint) : Decidable (p.Occurs text) := by
  unfold Occurs; infer_instance

instance (p : CompiledPattern) (text : Array CodePoint) : Decidable (p.Takes text) := by
  unfold Takes; infer_instance

/-- The parts of a text that a pattern takes from a place on: the first that it takes something of
is followed by those behind its end. -/
inductive Spans (p : CompiledPattern) (text : Array CodePoint) : ℕ → List (ℕ × ℕ) → Prop where
  | done {i : ℕ} (hnone : ∀ k, i ≤ k → p.taken? text k = none) : Spans p text i []
  | next {i first behind : ℕ} {rest : List (ℕ × ℕ)} (hi : i ≤ first)
      (hbefore : ∀ k, i ≤ k → k < first → p.taken? text k = none)
      (htaken : p.taken? text first = some behind) (hrest : Spans p text behind rest) :
      Spans p text i ((first, behind) :: rest)

variable {p : CompiledPattern} {text : Array CodePoint} {i j : ℕ}

/-! ## At one place -/

theorem reaches_of_mem_ends (h : j ∈ p.ends text i) : Reaches text i j := by
  obtain ⟨way, hway, rfl⟩ := List.mem_map.1 h
  exact reaches_of_mem_ways hway

theorem matchAt_eq (mustAdvance : Bool) :
    p.matchAt text mustAdvance i = (p.ends text i).find? fun j => !mustAdvance || i < j := by
  unfold matchAt ends
  rw [run_eq_through, through, List.map_findSome?, ← List.head?_filterMap, ← List.head?_filter,
    ← List.filterMap_eq_filter, List.filterMap_map]
  refine congrArg List.head? (List.filterMap_congr fun way hway => ?_)
  have hle : i ≤ way.1 := (reaches_of_mem_ways hway).1
  cases mustAdvance with
  | false => simp
  | true =>
      by_cases heq : way.1 = i
      · simp [Option.guard, heq]
      · simp [Option.guard, heq, lt_of_le_of_ne hle (Ne.symm heq)]

theorem matchAt_false : p.matchAt text false i = (p.ends text i).head? := by
  rw [matchAt_eq]
  cases p.ends text i <;> rfl

theorem matchAt_true : p.matchAt text true i = p.taken? text i := matchAt_eq true

theorem lt_of_taken? (h : p.taken? text i = some j) : i < j := by
  simpa using List.find?_some h

/-- Nothing is taken beyond the text. -/
theorem taken?_beyond (h : text.size ≤ i) : p.taken? text i = none := by
  refine List.find?_eq_none.2 fun j hj => ?_
  have := (reaches_of_mem_ends hj).2
  simp only [decide_eq_true_eq]
  omega

theorem takes_iff : p.Takes text ↔ ∃ i, p.taken? text i ≠ none := by
  constructor
  · rintro ⟨i, -, j, hj, hlt⟩
    exact ⟨i, fun hnone => List.find?_eq_none.1 hnone j hj (decide_eq_true hlt)⟩
  · rintro ⟨i, hi⟩
    obtain ⟨j, hj⟩ := Option.ne_none_iff_exists'.1 hi
    refine ⟨i, ?_, j, List.mem_of_find?_eq_some hj, lt_of_taken? hj⟩
    by_contra hbeyond
    exact hi (taken?_beyond (not_lt.1 hbeyond))

theorem taken?_of_matchAt_eq_none {mustAdvance : Bool}
    (h : p.matchAt text mustAdvance i = none) : p.taken? text i = none := by
  rw [matchAt_eq, List.find?_eq_none] at h
  refine List.find?_eq_none.2 fun j hj hlt => h j hj ?_
  rw [hlt, Bool.or_true]

/-- A match takes something, or nothing where it need not. -/
theorem taken?_of_matchAt_eq_some {mustAdvance : Bool}
    (h : p.matchAt text mustAdvance i = some j) :
    p.taken? text i = some j ∨ j = i ∧ mustAdvance = false := by
  rcases eq_or_ne j i with rfl | hne
  · cases mustAdvance with
    | false => exact .inr ⟨rfl, rfl⟩
    | true => exact .inl (matchAt_true.symm.trans h)
  · refine .inl ?_
    cases mustAdvance with
    | true => exact matchAt_true.symm.trans h
    | false =>
        rw [matchAt_false] at h
        have hlt : i < j :=
          lt_of_le_of_ne (reaches_of_mem_ends (List.mem_of_head? h)).1 hne.symm
        obtain ⟨rest, hends⟩ := List.head?_eq_some_iff.1 h
        simp [taken?, hends, hlt]

/-! ## A search -/

/-- A search looks at all places, the first one of which may have to take something. -/
theorem searchFrom_eq_none {mustAdvance : Bool} {fuel : ℕ} (hfuel : text.size + 1 - i ≤ fuel)
    (h : p.searchFrom text mustAdvance fuel i = none) :
    ∀ k, i ≤ k → k ≤ text.size → p.matchAt text (mustAdvance && k == i) k = none := by
  induction fuel generalizing mustAdvance i with
  | zero => intro k hik hk; omega
  | succ fuel ih =>
      intro k hik hk
      rw [searchFrom, if_neg (by omega)] at h
      split at h
      · cases h
      · next hnone =>
          rcases hik.eq_or_lt with rfl | hlt
          · simpa using hnone
          · rw [beq_false_of_ne hlt.ne', Bool.and_false]
            exact ih (by omega) h k hlt hk

/-- The match that a search finds is the first one. -/
theorem searchFrom_eq_some {mustAdvance : Bool} {fuel first behind : ℕ}
    (h : p.searchFrom text mustAdvance fuel i = some (first, behind)) :
    i ≤ first ∧ first ≤ text.size ∧
      p.matchAt text (mustAdvance && first == i) first = some behind ∧
      ∀ k, i ≤ k → k < first → p.matchAt text (mustAdvance && k == i) k = none := by
  induction fuel generalizing mustAdvance i with
  | zero => cases h
  | succ fuel ih =>
      rw [searchFrom] at h
      split at h
      · cases h
      · next hi =>
          split at h
          · next j hj =>
              cases h
              exact ⟨le_rfl, not_lt.1 hi, by simpa using hj, fun k hik hki => by omega⟩
          · next hnone =>
              obtain ⟨hle, hsize, hmatch, hbefore⟩ := ih h
              refine ⟨by omega, hsize, ?_, fun k hik hk => ?_⟩
              · rwa [beq_false_of_ne (by omega), Bool.and_false]
              · rcases hik.eq_or_lt with rfl | hlt
                · simpa using hnone
                · rw [beq_false_of_ne hlt.ne', Bool.and_false]
                  exact hbefore k hlt hk

/-- A pattern is searched for in vain just if it cannot match at any place. -/
theorem matchesIn_iff {t : Text} : p.matchesIn t = true ↔ p.Occurs t.toArray := by
  unfold matchesIn Occurs
  cases h : p.searchFrom t.toArray false (t.length + 1) 0 with
  | none =>
      have hnone := searchFrom_eq_none (by simp) h
      refine iff_of_false Bool.false_ne_true ?_
      rintro ⟨i, hi, hends⟩
      have hhead := hnone i (Nat.zero_le i) (Nat.lt_succ_iff.1 hi)
      rw [Bool.false_and, matchAt_false] at hhead
      exact hends (List.head?_eq_none_iff.1 hhead)
  | some found =>
      obtain ⟨first, behind⟩ := found
      obtain ⟨-, hsize, hmatch, -⟩ := searchFrom_eq_some h
      refine iff_of_true rfl ⟨first, Nat.lt_succ_of_le hsize, fun hnil => ?_⟩
      rw [Bool.false_and, matchAt_false, hnil] at hmatch
      cases hmatch

/-- What takes something matches. -/
theorem Takes.occurs (h : p.Takes text) : p.Occurs text := by
  obtain ⟨i, hi, j, hj, -⟩ := h
  exact ⟨i, Nat.lt_succ_of_lt hi, List.ne_nil_of_mem hj⟩

/-! ## One search after the other -/

/-- Where nothing is taken, the order of what is taken may as well begin behind. -/
theorem Spans.extend {found : List (ℕ × ℕ)} (hij : i ≤ j)
    (hbefore : ∀ k, i ≤ k → k < j → p.taken? text k = none) (h : p.Spans text j found) :
    p.Spans text i found := by
  have hall {n : ℕ} (hbehind : ∀ k, j ≤ k → k < n → p.taken? text k = none) :
      ∀ k, i ≤ k → k < n → p.taken? text k = none := by
    intro k hik hkn
    rcases lt_or_ge k j with hkj | hjk
    · exact hbefore k hik hkj
    · exact hbehind k hjk hkn
  cases h with
  | done hnone =>
      exact .done fun k hik => hall (fun k hjk _ => hnone k hjk) k hik (Nat.lt_succ_self k)
  | next hj hbehind htaken hrest => exact .next (hij.trans hj) (hall hbehind) htaken hrest

/-- What is taken from a place on is told by the text. -/
theorem Spans.unique {found found' : List (ℕ × ℕ)} (h : p.Spans text i found)
    (h' : p.Spans text i found') : found = found' := by
  induction h generalizing found' with
  | done hnone =>
      cases h' with
      | done => rfl
      | next hi _ htaken _ => simp [hnone _ hi] at htaken
  | @next i first behind rest hi hbefore htaken hrest ih =>
      cases h' with
      | done hnone => simp [hnone _ hi] at htaken
      | @next _ first' behind' rest' hi' hbefore' htaken' hrest' =>
          -- neither of two first places stands in front of the other
          obtain rfl : first = first' := by
            rcases lt_trichotomy first first' with hlt | heq | hgt
            · simp [hbefore' _ hi hlt] at htaken
            · exact heq
            · simp [hbefore _ hi' hgt] at htaken'
          obtain rfl : behind = behind' := Option.some.inj (htaken.symm.trans htaken')
          rw [ih hrest']

/-- Those matches are the ones that take something: behind a match that takes nothing the search goes
on at the same place, where it then has to take something. -/
theorem spans_matchesFrom {mustAdvance : Bool} {fuel : ℕ} (hi : i ≤ text.size)
    (hfuel : 2 * (text.size - i) + (if mustAdvance then 1 else 2) ≤ fuel) :
    p.Spans text i ((p.matchesFrom text fuel mustAdvance i).filter fun found =>
      found.1 ≠ found.2) := by
  induction fuel generalizing mustAdvance i with
  | zero => cases mustAdvance <;> simp at hfuel
  | succ fuel ih =>
      rw [matchesFrom]
      cases h : p.searchFrom text mustAdvance (text.size + 1 - i) i with
      | none =>
          refine .done fun k hik => ?_
          rcases le_or_gt k text.size with hk | hk
          · exact taken?_of_matchAt_eq_none (searchFrom_eq_none le_rfl h k hik hk)
          · exact taken?_beyond hk.le
      | some found =>
          obtain ⟨first, behind⟩ := found
          obtain ⟨hle, hsize, hmatch, hnone⟩ := searchFrom_eq_some h
          have hbefore : ∀ k, i ≤ k → k < first → p.taken? text k = none := fun k hik hk =>
            taken?_of_matchAt_eq_none (hnone k hik hk)
          dsimp only
          rcases taken?_of_matchAt_eq_some hmatch with htaken | ⟨rfl, hneed⟩
          · have hlt := lt_of_taken? htaken
            have hwithin : behind ≤ text.size := by
              have := (reaches_of_mem_ends (List.mem_of_find?_eq_some htaken)).2
              omega
            rw [List.filter_cons_of_pos (by simpa using hlt.ne)]
            refine .next hle hbefore htaken (ih hwithin ?_)
            rw [beq_false_of_ne hlt.ne, if_neg Bool.false_ne_true]
            split at hfuel <;> omega
          · rw [List.filter_cons_of_neg (by simp)]
            refine Spans.extend hle hbefore (ih hsize ?_)
            rw [beq_self_eq_true, if_pos rfl]
            cases mustAdvance with
            | false =>
                simp only [Bool.false_eq_true, if_false] at hfuel
                omega
            | true =>
                have hne : i ≠ behind := by rintro rfl; simp at hneed
                simp only [if_true] at hfuel
                omega

theorem spans_allMatches : p.Spans text 0 ((p.allMatches text).filter fun found =>
    found.1 ≠ found.2) :=
  spans_matchesFrom (Nat.zero_le _) (by simp)

/-- Something is taken from a place on just if there is a match that takes something. -/
theorem Spans.ne_nil_iff {found : List (ℕ × ℕ)} (h : p.Spans text 0 found) :
    found ≠ [] ↔ p.Takes text := by
  rw [takes_iff]
  cases h with
  | done hnone => simp [hnone]
  | next hi hbefore htaken hrest =>
      exact iff_of_true (List.cons_ne_nil _ _) ⟨_, htaken.trans_ne (Option.some_ne_none _)⟩

theorem takes_iff_allMatches :
    p.Takes text ↔ ∃ found ∈ p.allMatches text, found.1 ≠ found.2 := by
  rw [← spans_allMatches.ne_nil_iff]
  simp [List.filter_eq_nil_iff]

end HelpCenter.CompiledPattern

import HelpCenter.Pattern.Matcher
import Mathlib

/-!
# The ways of matching a pattern

A pattern can be matched at a place in several ways, each with an end and with captures.  `ways`
lists them in the order in which the pattern prefers them.  The matcher goes through that list, and
what comes after the pattern picks the first way that suits it (`run_eq_through`).

A way ends where it begins or later, and within the text unless it takes nothing
(`reaches_of_mem_ways`).  Repetitions end by themselves: the bound on their number that the matcher
is given leaves no way out (`ways_loop`).
-/

namespace HelpCenter.Pattern

variable {text : Array CodePoint} {flags : PatternFlags} {p : Pattern} {i j : ℕ}
  {caps caps' : Captures} {next : Next}

/-- The ends of matches and their captures, the preferred ones first. -/
abbrev Ways := List (ℕ × Captures)

/-- The way over one character. -/
def waysOver (text : Array CodePoint) (fits : CodePoint → Bool) (i : ℕ) (caps : Captures) : Ways :=
  if text[i]?.any fits then [(i + 1, caps)] else []

/-- Goes through ways in their order. -/
def through (ways : ℕ → Captures → Ways) (i : ℕ) (caps : Captures) (next : Next) : Found :=
  (ways i caps).findSome? fun way => next way.1 way.2

/-- The ways of repeating a body with the given ways, from the longest on or from the shortest. -/
def loopWays (body : ℕ → Captures → Ways) (least : ℕ) (most : Option ℕ) (isLazy : Bool) :
    (fuel count : ℕ) → (last : Option ℕ) → ℕ → Captures → Ways
  | 0, _, _, _, _ => []
  | fuel + 1, count, last, i, caps =>
    if count < least then
      (body i caps).flatMap fun way =>
        loopWays body least most isLazy fuel (count + 1) last way.1 way.2
    else
      let again :=
        if (most.all fun m => count < m) && last ≠ some i then
          (body i caps).flatMap fun way =>
            loopWays body least most isLazy fuel (count + 1) (some i) way.1 way.2
        else []
      if isLazy then (i, caps) :: again else again ++ [(i, caps)]

/-- The ways of matching a pattern at a place. -/
def ways (text : Array CodePoint) : PatternFlags → Pattern → ℕ → Captures → Ways
  | _, .empty, i, caps => [(i, caps)]
  | flags, .char c, i, caps => waysOver text (charFits flags c) i caps
  | flags, .any, i, caps => waysOver text (fun d => flags.dotAll || !d.is '\n') i caps
  | flags, .set negated items, i, caps =>
    waysOver text (fun d => items.any (SetItem.fits flags d) != negated) i caps
  | flags, .seq a b, i, caps =>
    (ways text flags a i caps).flatMap fun way => ways text flags b way.1 way.2
  | flags, .alt a b, i, caps => ways text flags a i caps ++ ways text flags b i caps
  | flags, .loop least most mode body, i, caps =>
    let fuel := least + (text.size - i) + 3
    match mode with
    | .greedy => loopWays (ways text flags body) least most false fuel 0 none i caps
    | .lazy => loopWays (ways text flags body) least most true fuel 0 none i caps
    | .possessive =>
      (loopPossessive (through (ways text flags body)) least most fuel 0 i caps).toList
  | flags, .group index body, i, caps =>
    (ways text flags body i caps).map fun way => (way.1, (index, i, way.1) :: way.2)
  | flags, .scoped add del body, i, caps => ways text (flags.inside add del) body i caps
  | flags, .atomic body, i, caps => (ways text flags body i caps).head?.toList
  | flags, .anchor a, i, caps => if anchorHolds flags text i a then [(i, caps)] else []
  | flags, .look behind negated body, i, caps =>
    let width := if behind then body.width.1 else 0
    let found := if width ≤ i then (ways text flags body (i - width) caps).head? else none
    match found, negated with
    | some way, false => [(i, way.2)]
    | none, true => [(i, caps)]
    | _, _ => []
  | flags, .again index _ _, i, caps =>
    match caps.lookup index with
    | some (first, behind) =>
      if againAt flags text i first (behind - first) then [(i + (behind - first), caps)] else []
    | none => []
  | flags, .ifGroup index yes no, i, caps =>
    if (caps.lookup index).isSome then ways text flags yes i caps else ways text flags no i caps

/-! ## The matcher goes through the ways -/

theorem findSome?_flatMap {α β γ : Type} {f : β → Option γ} {g : α → List β} {xs : List α} :
    (xs.flatMap g).findSome? f = xs.findSome? fun x => (g x).findSome? f := by
  induction xs with
  | nil => rfl
  | cons x xs ih =>
      rw [List.flatMap_cons, List.findSome?_append, ih, List.findSome?_cons]
      cases (g x).findSome? f <;> rfl

theorem findSome?_some (ways : Ways) :
    ways.findSome? (fun way => some (way.1, way.2)) = ways.head? := by
  cases ways <;> rfl

theorem findSome?_waysOver (fits : CodePoint → Bool) :
    (waysOver text fits i caps).findSome? (fun way => next way.1 way.2) =
      match text[i]? with
      | some d => if fits d then next (i + 1) caps else none
      | none => none := by
  unfold waysOver
  cases text[i]? with
  | none => rfl
  | some d =>
      simp only [Option.any_some]
      split <;> simp

/-- A repetition goes through the ways of repeating. -/
theorem loopFrom_through {body : ℕ → Captures → Ways} {least : ℕ} {most : Option ℕ} {isLazy : Bool}
    {fuel count : ℕ} {last : Option ℕ} :
    loopFrom (through body) least most isLazy next fuel count last i caps =
      through (loopWays body least most isLazy fuel count last) i caps next := by
  induction fuel generalizing count last i caps with
  | zero => rfl
  | succ fuel ih =>
      rw [through, loopWays, loopFrom]
      split
      · simp only [through, ih, findSome?_flatMap]
      · have hagain : ∀ mayRepeat : Bool,
            (if mayRepeat then through body i caps fun j caps =>
              loopFrom (through body) least most isLazy next fuel (count + 1) (some i) j caps
              else none) =
            (if mayRepeat then (body i caps).flatMap fun way =>
              loopWays body least most isLazy fuel (count + 1) (some i) way.1 way.2
              else []).findSome? fun way => next way.1 way.2 := by
          intro mayRepeat
          cases mayRepeat
          · rfl
          · simp only [through, ih, findSome?_flatMap, if_true]
        dsimp only
        rw [hagain]
        split
        · rw [List.findSome?_cons]
          cases next i caps <;> rfl
        · rw [List.findSome?_append, List.findSome?_singleton]
          generalize List.findSome? _ _ = found
          cases found <;> rfl

/-- What comes after a pattern is tried behind each way of matching it, in their order. -/
theorem run_eq_through : run text flags p i caps next = through (ways text flags p) i caps next := by
  induction p generalizing flags i caps next with
  | empty => simp [run, through, ways]
  | char c => exact (findSome?_waysOver _).symm
  | any => exact (findSome?_waysOver _).symm
  | set negated items => exact (findSome?_waysOver _).symm
  | seq a b iha ihb => simp only [run, iha, ihb, through, ways, findSome?_flatMap]
  | alt a b iha ihb =>
      simp only [run, iha, ihb, through, ways, List.findSome?_append]
      cases (ways text flags a i caps).findSome? _ <;> rfl
  | loop least most mode body ih =>
      -- a loop runs its body with what follows the round, so that all continuations are needed
      have hbody : run text flags body = through (ways text flags body) := by
        funext i caps next
        exact ih
      simp only [run, hbody, through, ways]
      cases mode with
      | greedy => exact loopFrom_through
      | lazy => exact loopFrom_through
      | possessive =>
          dsimp only
          cases loopPossessive (through (ways text flags body)) least most _ 0 i caps with
          | none => rfl
          | some way => simp
  | group index body ih => simp [run, ih, through, ways, List.findSome?_map, Function.comp_def]
  | «scoped» add del body ih => exact ih
  | atomic body ih =>
      simp only [run, ih, through, ways, findSome?_some]
      cases (ways text flags body i caps).head? <;> simp
  | anchor a =>
      simp only [run, through, ways]
      split <;> simp
  | look behind negated body ih =>
      simp only [run, ih, through, ways, findSome?_some]
      generalize (if _ ≤ i then (ways text flags body _ caps).head? else none) = found
      cases found <;> cases negated <;> simp
  | again index least most =>
      simp only [run, through, ways]
      cases caps.lookup index with
      | none => rfl
      | some part =>
          dsimp only
          split <;> simp
  | ifGroup index yes no ihyes ihno =>
      simp only [run, ihyes, ihno, through, ways]
      split <;> rfl

/-! ## Where ways end -/

/-- A way from one place can end at the other. -/
def Reaches (text : Array CodePoint) (i j : ℕ) : Prop := i ≤ j ∧ j ≤ max i text.size

theorem Reaches.refl (i : ℕ) : Reaches text i i := ⟨le_rfl, le_max_left _ _⟩

theorem Reaches.trans {k : ℕ} (hij : Reaches text i j) (hjk : Reaches text j k) : Reaches text i k :=
  ⟨hij.1.trans hjk.1, hjk.2.trans (max_le hij.2 (le_max_right _ _))⟩

/-- All ways from a place end behind it. -/
def KeepsWithin (text : Array CodePoint) (body : ℕ → Captures → Ways) : Prop :=
  ∀ i caps, ∀ way ∈ body i caps, Reaches text i way.1

theorem keepsWithin_waysOver (fits : CodePoint → Bool) : KeepsWithin text (waysOver text fits) := by
  intro i caps way hway
  unfold waysOver at hway
  split at hway
  · next hfits =>
      obtain ⟨d, hd, -⟩ := (Option.any_eq_true _ _).1 hfits
      obtain ⟨hi, -⟩ := Array.getElem?_eq_some_iff.1 hd
      obtain rfl := List.mem_singleton.1 hway
      exact ⟨Nat.le_succ i, le_max_of_le_right hi⟩
  · cases hway

theorem keepsWithin_loopWays {body : ℕ → Captures → Ways} (hbody : KeepsWithin text body)
    {least : ℕ} {most : Option ℕ} {isLazy : Bool} {fuel count : ℕ} {last : Option ℕ} :
    KeepsWithin text (loopWays body least most isLazy fuel count last) := by
  induction fuel generalizing count last with
  | zero => exact fun _ _ _ h => absurd h List.not_mem_nil
  | succ fuel ih =>
      intro i caps way hway
      have hagain {last : Option ℕ} (h : way ∈ (body i caps).flatMap fun way =>
          loopWays body least most isLazy fuel (count + 1) last way.1 way.2) :
          Reaches text i way.1 := by
        obtain ⟨first, hfirst, hrest⟩ := List.mem_flatMap.1 h
        exact (hbody _ _ _ hfirst).trans (ih _ _ _ hrest)
      rw [loopWays] at hway
      split at hway
      · exact hagain hway
      · dsimp only at hway
        split at hway <;> split at hway
        all_goals simp only [List.mem_cons, List.mem_append, List.not_mem_nil, or_false,
          false_or] at hway
        · exact hway.elim (fun h => h ▸ Reaches.refl i) hagain
        · exact hway ▸ Reaches.refl i
        · exact hway.elim hagain fun h => h ▸ Reaches.refl i
        · exact hway ▸ Reaches.refl i

theorem reaches_of_loopPossessive {body : ℕ → Captures → Ways} (hbody : KeepsWithin text body)
    {least : ℕ} {most : Option ℕ} {fuel count : ℕ} {way : ℕ × Captures}
    (h : loopPossessive (through body) least most fuel count i caps = some way) :
    Reaches text i way.1 := by
  induction fuel generalizing count i caps with
  | zero =>
      cases h
      exact Reaches.refl i
  | succ fuel ih =>
      rw [loopPossessive] at h
      simp only [through, findSome?_some] at h
      split at h
      · cases h
        exact Reaches.refl i
      · split at h
        · split at h
          · cases h
          · cases h
            exact Reaches.refl i
        · next j caps' hfirst =>
            have hj : Reaches text i j := hbody _ _ _ (List.mem_of_head? hfirst)
            split at h
            · cases h
              exact hj
            · exact hj.trans (ih h)

/-- A part of the text that is found again ends within the text. -/
theorem reaches_of_againAt {first length : ℕ} (h : againAt flags text i first length = true) :
    Reaches text i (i + length) := by
  refine ⟨Nat.le_add_right .., ?_⟩
  cases length with
  | zero => exact le_max_left _ _
  | succ length =>
      have hlast := List.all_eq_true.1 h length (List.mem_range.2 (Nat.lt_succ_self _))
      cases hd : text[i + length]? with
      | none => simp [hd] at hlast
      | some d =>
          obtain ⟨hlt, -⟩ := Array.getElem?_eq_some_iff.1 hd
          exact le_max_of_le_right hlt

theorem reaches_of_mem_ways {way : ℕ × Captures} (h : way ∈ ways text flags p i caps) :
    Reaches text i way.1 := by
  induction p generalizing flags i caps way with
  | empty =>
      obtain rfl := List.mem_singleton.1 h
      exact Reaches.refl i
  | char c => exact keepsWithin_waysOver _ _ _ _ h
  | any => exact keepsWithin_waysOver _ _ _ _ h
  | set negated items => exact keepsWithin_waysOver _ _ _ _ h
  | seq a b iha ihb =>
      obtain ⟨first, hfirst, hrest⟩ := List.mem_flatMap.1 h
      exact (iha hfirst).trans (ihb hrest)
  | alt a b iha ihb => exact (List.mem_append.1 h).elim iha ihb
  | loop least most mode body ih =>
      have hbody : KeepsWithin text (ways text flags body) := fun _ _ _ => ih
      cases mode with
      | greedy => exact keepsWithin_loopWays hbody _ _ _ h
      | lazy => exact keepsWithin_loopWays hbody _ _ _ h
      | possessive => exact reaches_of_loopPossessive hbody (Option.mem_toList.1 h)
  | group index body ih =>
      obtain ⟨inner, hinner, rfl⟩ := List.mem_map.1 h
      exact (ih hinner : Reaches text i inner.1)
  | «scoped» add del body ih => exact ih h
  | atomic body ih =>
      exact ih (List.mem_of_mem_head? (Option.mem_toList.1 h))
  | anchor a =>
      rw [ways] at h
      split at h
      · obtain rfl := List.mem_singleton.1 h
        exact Reaches.refl i
      · cases h
  | look behind negated body ih =>
      unfold ways at h
      dsimp only at h
      split at h
      · obtain rfl := List.mem_singleton.1 h
        exact Reaches.refl i
      · obtain rfl := List.mem_singleton.1 h
        exact Reaches.refl i
      · cases h
  | again index least most =>
      unfold ways at h
      split at h
      · split at h
        · next hagain =>
            obtain rfl := List.mem_singleton.1 h
            exact reaches_of_againAt hagain
        · cases h
      · cases h
  | ifGroup index yes no ihyes ihno =>
      rw [ways] at h
      split at h
      · exact ihyes h
      · exact ihno h

/-! ## Repetitions end -/

/-- How many more repetitions there can be: those that are still required, one for each character
left and one that takes nothing. -/
def roundsLeft (text : Array CodePoint) (least count : ℕ) (last : Option ℕ) (i : ℕ) : ℕ :=
  (least - count) + (text.size - i) + if last = some i then 0 else 1

/-- Beyond the rounds left, a greater bound on the repetitions gives no other ways. -/
theorem loopWays_succ {body : ℕ → Captures → Ways} (hbody : KeepsWithin text body) {least : ℕ}
    {most : Option ℕ} {isLazy : Bool} {fuel count : ℕ} {last : Option ℕ}
    (h : roundsLeft text least count last i < fuel) :
    loopWays body least most isLazy (fuel + 1) count last i caps =
      loopWays body least most isLazy fuel count last i caps := by
  induction fuel generalizing count last i caps with
  | zero => exact absurd h (Nat.not_lt_zero _)
  | succ fuel ih =>
      have hagain {last' : Option ℕ}
          (hrounds : ∀ j, Reaches text i j → roundsLeft text least (count + 1) last' j < fuel) :
          ((body i caps).flatMap fun way =>
            loopWays body least most isLazy (fuel + 1) (count + 1) last' way.1 way.2) =
          (body i caps).flatMap fun way =>
            loopWays body least most isLazy fuel (count + 1) last' way.1 way.2 :=
        List.flatMap_congr fun way hway => ih (hrounds _ (hbody _ _ _ hway))
      rw [loopWays, loopWays]
      split
      · next hcount =>
          -- the repetition is one of those that are still required
          refine hagain fun j hreach => ?_
          obtain ⟨hij, hj⟩ := hreach
          unfold roundsLeft at h ⊢
          rcases hij.eq_or_lt with rfl | hlt
          · omega
          · split at h <;> split <;> omega
      · by_cases hlast : last = some i
        · simp [hlast]
        · -- it takes something, or none follows that takes nothing
          rw [hagain fun j hreach => ?_]
          obtain ⟨hij, hj⟩ := hreach
          unfold roundsLeft at h ⊢
          rw [if_neg hlast] at h
          rcases hij.eq_or_lt with rfl | hlt
          · rw [if_pos rfl]
            omega
          · split <;> omega

theorem loopWays_eq {body : ℕ → Captures → Ways} (hbody : KeepsWithin text body) {least : ℕ}
    {most : Option ℕ} {isLazy : Bool} {fuel fuel' count : ℕ} {last : Option ℕ}
    (h : roundsLeft text least count last i < fuel) (hle : fuel ≤ fuel') :
    loopWays body least most isLazy fuel' count last i caps =
      loopWays body least most isLazy fuel count last i caps := by
  induction hle with
  | refl => rfl
  | step hle ih => rw [loopWays_succ hbody (h.trans_le hle), ih]

/-- A repetition that is not possessive has the ways of repeating its body, however many repetitions
are allowed for. -/
theorem ways_loop {least : ℕ} {most : Option ℕ} {mode : LoopMode} {body : Pattern} {fuel : ℕ}
    (hmode : mode ≠ .possessive) (hfuel : least + (text.size - i) + 3 ≤ fuel) :
    ways text flags (.loop least most mode body) i caps =
      loopWays (ways text flags body) least most (mode = .lazy) fuel 0 none i caps := by
  have hbody : KeepsWithin text (ways text flags body) := fun _ _ _ => reaches_of_mem_ways
  have hrounds : roundsLeft text least 0 none i < least + (text.size - i) + 3 := by
    simp only [roundsLeft, reduceCtorEq, if_false]
    omega
  rw [loopWays_eq hbody hrounds hfuel]
  cases mode with
  | greedy => rfl
  | lazy => rfl
  | possessive => exact absurd rfl hmode

end HelpCenter.Pattern

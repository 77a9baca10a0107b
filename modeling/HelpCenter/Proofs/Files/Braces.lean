import HelpCenter.Files.Glob
import HelpCenter.Proofs.Text.Search
import Mathlib.Computability.Language
import Mathlib.Data.List.ProdSigma
import Mathlib.Data.List.TakeWhile

/-!
# Alternatives in braces

A pattern is text with groups in braces, whose alternatives are patterns again (`Braced`).  Writing
out its alternatives replaces the first group without braces inside, again and again.  One opening
brace goes at each step (`Step.count_lt`), so this ends, and nothing is left to be replaced.  What
comes out of a pattern between a front without closing braces and any rest is what comes out of each
of its expansions in that place (`Braced.expandBraces_text`), so in the end a pattern gives just the
texts that it denotes.
-/

namespace HelpCenter.Glob

open Text

/-- The brace in front of a group. -/
abbrev opening : CodePoint := '\x7b'

/-- The brace behind a group. -/
abbrev closing : CodePoint := '\x7d'

/-- The sign between alternatives. -/
abbrev comma : CodePoint := ','

/-- A text without braces. -/
def IsBraceless (t : Text) : Prop := ∀ c ∈ t, isBrace c = false

instance (t : Text) : Decidable (IsBraceless t) :=
  inferInstanceAs (Decidable (∀ c ∈ t, isBrace c = false))

/-- A text with a pair of braces without braces inside. -/
def HoldsGroup (t : Text) : Prop :=
  ∃ head inside tail, IsBraceless inside ∧ t = head ++ opening :: (inside ++ closing :: tail)

/-- One step of the expansion: the first group is replaced by one of its alternatives. -/
inductive Step (t : Text) : Text → Prop
  | choose {head inside tail alternative : Text}
      (hsplit : splitAtBraces? t = some (head, inside, tail))
      (hmem : alternative ∈ splitOn ',' inside) : Step t (head ++ alternative ++ tail)

variable {t u head inside tail alternative : Text} {c : CodePoint}

/-! ## The first group -/

theorem isBrace_eq_false_iff : isBrace c = false ↔ c ≠ opening ∧ c ≠ closing := by
  simp [isBrace, CodePoint.is]

theorem isBraceless_nil : IsBraceless [] := List.forall_mem_nil _

theorem isBraceless_append : IsBraceless (t ++ u) ↔ IsBraceless t ∧ IsBraceless u :=
  List.forall_mem_append

theorem IsBraceless.opening_notMem (h : IsBraceless t) : opening ∉ t := fun hmem =>
  (isBrace_eq_false_iff.1 (h _ hmem)).1 rfl

theorem IsBraceless.closing_notMem (h : IsBraceless t) : closing ∉ t := fun hmem =>
  (isBrace_eq_false_iff.1 (h _ hmem)).2 rfl

theorem takeWhile_inside (h : IsBraceless inside) (tail : Text) :
    (inside ++ closing :: tail).takeWhile (fun d => !isBrace d) = inside := by
  rw [List.takeWhile_append_of_pos fun d hd => by rw [h d hd]; rfl,
    List.takeWhile_cons_of_neg (by decide), List.append_nil]

theorem splitAtBraces?_group (h : IsBraceless inside) (tail : Text) :
    splitAtBraces? (opening :: (inside ++ closing :: tail)) = some ([], inside, tail) := by
  rw [splitAtBraces?]
  simp only [takeWhile_inside h, List.drop_left]
  rfl

/-- The first group is not at the front where no group begins. -/
theorem splitAtBraces?_cons
    (h : ∀ inside tail, IsBraceless inside → c :: t ≠ opening :: (inside ++ closing :: tail)) :
    splitAtBraces? (c :: t) = (splitAtBraces? t).map fun (head, rest) => (c :: head, rest) := by
  rw [splitAtBraces?]
  refine if_neg fun hgroup => ?_
  obtain ⟨hopening, hclosing⟩ := Bool.and_eq_true_iff.1 hgroup
  obtain ⟨tail, htail⟩ := List.head?_eq_some_iff.1 (of_decide_eq_true hclosing)
  have hinside := List.prefix_iff_eq_take.1 (List.takeWhile_prefix (fun d => !isBrace d) (l := t))
  refine h (t.takeWhile fun d => !isBrace d) tail (fun d hd => ?_) ?_
  · simpa using List.mem_takeWhile_imp hd
  · rw [of_decide_eq_true hopening, ← htail]
    nth_rewrite 1 [hinside]
    rw [List.take_append_drop]

theorem eq_append_of_splitAtBraces? (h : splitAtBraces? t = some (head, inside, tail)) :
    t = head ++ opening :: (inside ++ closing :: tail) ∧ IsBraceless inside := by
  induction t generalizing head with
  | nil => cases h
  | cons c t ih =>
      by_cases hgroup : ∃ inside tail, IsBraceless inside ∧
          c :: t = opening :: (inside ++ closing :: tail)
      · obtain ⟨inside', tail', hbraceless, heq⟩ := hgroup
        rw [heq, splitAtBraces?_group hbraceless] at h
        obtain ⟨rfl, rfl, rfl⟩ := h
        exact ⟨heq, hbraceless⟩
      · push Not at hgroup
        rw [splitAtBraces?_cons hgroup, Option.map_eq_some_iff] at h
        obtain ⟨⟨head', rest⟩, hsplit, heq⟩ := h
        obtain ⟨rfl, rfl⟩ := Prod.mk.inj heq
        obtain ⟨rfl, hbraceless⟩ := ih hsplit
        exact ⟨rfl, hbraceless⟩

/-- What a text without closing braces and an opening one begin does not begin with the inside of a
group. -/
theorem append_opening_ne (hhead : closing ∉ head) (hinside : IsBraceless inside) :
    head ++ opening :: t ≠ inside ++ closing :: tail := by
  intro heq
  rcases List.append_eq_append_iff.1 heq with ⟨more, rfl, hmore⟩ | ⟨more, rfl, hmore⟩
  · cases more with
    | nil => cases hmore
    | cons d more =>
        obtain ⟨rfl, -⟩ := List.cons.inj hmore
        exact hinside.opening_notMem (List.mem_append_right _ List.mem_cons_self)
  · cases more with
    | nil => cases hmore
    | cons d more =>
        obtain ⟨rfl, -⟩ := List.cons.inj hmore
        exact hhead (List.mem_append_right _ List.mem_cons_self)

/-- A group is the first one if no group ends before it. -/
theorem splitAtBraces?_append (hhead : closing ∉ head) (hinside : IsBraceless inside)
    (tail : Text) : splitAtBraces? (head ++ opening :: (inside ++ closing :: tail)) =
      some (head, inside, tail) := by
  induction head with
  | nil => exact splitAtBraces?_group hinside tail
  | cons c head ih =>
      rw [List.mem_cons, not_or] at hhead
      rw [List.cons_append, splitAtBraces?_cons, ih hhead.2]
      · rfl
      · intro inside' tail' hinside' heq
        exact append_opening_ne hhead.2 hinside' (List.cons.inj heq).2

theorem splitAtBraces?_eq_none_iff : splitAtBraces? t = none ↔ ¬ HoldsGroup t := by
  constructor
  · rintro hnone ⟨head, inside, tail, hinside, rfl⟩
    induction head with
    | nil => simp [splitAtBraces?_group hinside] at hnone
    | cons c head ih =>
        by_cases hgroup : ∃ inside' tail', IsBraceless inside' ∧
            c :: (head ++ opening :: (inside ++ closing :: tail)) =
              opening :: (inside' ++ closing :: tail')
        · obtain ⟨inside', tail', hinside', heq⟩ := hgroup
          rw [List.cons_append, heq, splitAtBraces?_group hinside'] at hnone
          cases hnone
        · push Not at hgroup
          rw [List.cons_append, splitAtBraces?_cons hgroup, Option.map_eq_none_iff] at hnone
          exact ih hnone
  · intro h
    cases hsplit : splitAtBraces? t with
    | none => rfl
    | some parts =>
        obtain ⟨heq, hinside⟩ := eq_append_of_splitAtBraces? hsplit
        exact absurd ⟨_, _, _, hinside, heq⟩ h

theorem splitAtBraces?_of_isBraceless (h : IsBraceless t) : splitAtBraces? t = none := by
  rw [splitAtBraces?_eq_none_iff]
  rintro ⟨head, inside, tail, -, rfl⟩
  exact h.opening_notMem (List.mem_append_right _ List.mem_cons_self)

/-! ## The expansion ends -/

/-- A step takes one opening brace away. -/
theorem Step.count_lt (h : Step t u) : u.count opening < t.count opening := by
  cases h with
  | @choose head inside tail alternative hsplit hmem =>
      obtain ⟨rfl, hinside⟩ := eq_append_of_splitAtBraces? hsplit
      have halternative := List.count_eq_zero.2 fun hopening =>
        hinside.opening_notMem (mem_of_mem_splitOn hmem hopening)
      have htail := List.count_cons_of_ne (show closing ≠ opening by decide) (l := tail)
      simp only [List.count_append, List.count_cons_self, halternative, htail]
      omega

theorem wellFounded_step : WellFounded fun u t => Step t u :=
  Subrelation.wf Step.count_lt (measure (List.count opening)).wf

/-- Fuel for every opening brace is enough. -/
theorem expandFrom_of_le {n m : ℕ} (hn : t.count opening ≤ n) (hm : n ≤ m) :
    expandFrom n t = expandFrom m t := by
  induction n generalizing m t with
  | zero =>
      have hnone : splitAtBraces? t = none := by
        rw [splitAtBraces?_eq_none_iff]
        rintro ⟨head, inside, tail, -, rfl⟩
        simp at hn
      cases m with
      | zero => rfl
      | succ m => rw [expandFrom, expandFrom, hnone]
  | succ n ih =>
      obtain ⟨m, rfl⟩ := Nat.exists_eq_add_of_le' (Nat.one_le_of_lt hm)
      rw [expandFrom, expandFrom]
      cases hsplit : splitAtBraces? t with
      | none => rfl
      | some parts =>
          refine List.flatMap_congr fun alternative hmem => ih ?_ (Nat.le_of_succ_le_succ hm)
          have hstep := (Step.choose hsplit hmem).count_lt
          omega

/-- The expansion of a text goes on with each of the steps from it. -/
theorem expandBraces_eq (t : Text) : expandBraces t =
    match splitAtBraces? t with
    | none => [t]
    | some (head, inside, tail) => (splitOn ',' inside).flatMap fun alternative =>
        expandBraces (head ++ alternative ++ tail) := by
  have hcount := List.count_le_length (a := opening) (l := t)
  rw [expandBraces, expandFrom_of_le hcount (Nat.le_succ _), expandFrom]
  cases hsplit : splitAtBraces? t with
  | none => rfl
  | some parts =>
      refine List.flatMap_congr fun alternative hmem => ?_
      have hstep := (Step.choose hsplit hmem).count_lt
      rw [expandBraces, ← expandFrom_of_le le_rfl (by omega),
        ← expandFrom_of_le le_rfl List.count_le_length]

/-- Nothing is left to be replaced. -/
theorem not_holdsGroup_of_mem (h : u ∈ expandBraces t) : ¬ HoldsGroup u := by
  induction t using wellFounded_step.induction with
  | _ t ih =>
      rw [expandBraces_eq] at h
      cases hsplit : splitAtBraces? t with
      | none =>
          rw [hsplit, List.mem_singleton] at h
          exact h ▸ splitAtBraces?_eq_none_iff.1 hsplit
      | some parts =>
          rw [hsplit] at h
          obtain ⟨alternative, hmem, h⟩ := List.mem_flatMap.1 h
          exact ih _ (.choose hsplit hmem) h

theorem expandBraces_of_isBraceless (h : IsBraceless t) : expandBraces t = [t] := by
  rw [expandBraces_eq, splitAtBraces?_of_isBraceless h]

/-! ## Patterns -/

mutual

/-- A pattern: texts without braces, and groups of alternatives.  Inside a group a text has no comma
of its own. -/
inductive Braced : (inside : Bool) → Type
  | done {inside : Bool} : Braced inside
  | plain {inside : Bool} (t : Text) (hbraces : IsBraceless t)
      (hcommas : inside = true → comma ∉ t) (rest : Braced inside) : Braced inside
  | group {inside : Bool} (alternatives : Alternatives) (rest : Braced inside) : Braced inside

/-- The alternatives of a group, at least one; they may be empty. -/
inductive Alternatives : Type
  | last (p : Braced true)
  | more (p : Braced true) (rest : Alternatives)

end

mutual

/-- How a pattern is written. -/
def Braced.text {inside : Bool} : Braced inside → Text
  | .done => []
  | .plain t _ _ rest => t ++ rest.text
  | .group as rest => opening :: (as.text ++ closing :: rest.text)

/-- How alternatives are written. -/
def Alternatives.text : Alternatives → Text
  | .last p => p.text
  | .more p rest => p.text ++ comma :: rest.text

end

mutual

/-- What a pattern denotes: one part after the other. -/
def Braced.language {inside : Bool} : Braced inside → Language CodePoint
  | .done => 1
  | .plain t _ _ rest => {t} * rest.language
  | .group as rest => as.language * rest.language

/-- What alternatives denote: any of them. -/
def Alternatives.language : Alternatives → Language CodePoint
  | .last p => p.language
  | .more p rest => p.language + rest.language

end

mutual

/-- The texts of a pattern in the order of its parts: the choice in the leftmost group varies
slowest. -/
def Braced.words {inside : Bool} : Braced inside → List Text
  | .done => [[]]
  | .plain t _ _ rest => rest.words.map (t ++ ·)
  | .group as rest => (as.words ×ˢ rest.words).map fun (v, w) => v ++ w

/-- The texts of alternatives, one alternative after the other. -/
def Alternatives.words : Alternatives → List Text
  | .last p => p.words
  | .more p rest => p.words ++ rest.words

end

/-- A pattern without groups. -/
def Braced.IsPlain {inside : Bool} : Braced inside → Prop
  | .done => True
  | .plain _ _ _ rest => rest.IsPlain
  | .group _ _ => False

/-- No group stands in an alternative. -/
def Alternatives.ArePlain : Alternatives → Prop
  | .last p => p.IsPlain
  | .more p rest => p.IsPlain ∧ rest.ArePlain

/-- No group stands in another one. -/
def Braced.IsFlat {inside : Bool} : Braced inside → Prop
  | .done => True
  | .plain _ _ _ rest => rest.IsFlat
  | .group as rest => as.ArePlain ∧ rest.IsFlat

/-! ## The expansions of a pattern -/

mutual

/-- The texts of a pattern in the order in which they are written out: the groups in the
alternatives of a group are expanded before one of the alternatives is chosen. -/
def Braced.expansions {inside : Bool} : Braced inside → List Text
  | .done => [[]]
  | .plain t _ _ rest => rest.expansions.map (t ++ ·)
  | .group as rest =>
    as.rows.flatMap fun ws => ws.flatMap fun w => rest.expansions.map (w ++ ·)

/-- The ways to expand all the alternatives. -/
def Alternatives.rows : Alternatives → List (List Text)
  | .last p => p.expansions.map ([·])
  | .more p rest => p.expansions.flatMap fun w => rest.rows.map (w :: ·)

end

mutual

theorem Braced.isBraceless_of_mem {inside : Bool} : ∀ {p : Braced inside} {w : Text},
    w ∈ p.expansions → IsBraceless w ∧ (inside = true → comma ∉ w)
  | .done, w, h => by
      rw [List.mem_singleton.1 h]
      exact ⟨isBraceless_nil, fun _ => List.not_mem_nil⟩
  | .plain t hbraces hcommas rest, w, h => by
      obtain ⟨v, hv, rfl⟩ := List.mem_map.1 h
      obtain ⟨hbraceless, hcomma⟩ := rest.isBraceless_of_mem hv
      refine ⟨isBraceless_append.2 ⟨hbraces, hbraceless⟩, fun hinside => ?_⟩
      simp [hcommas hinside, hcomma hinside]
  | .group as rest, w, h => by
      obtain ⟨ws, hws, h⟩ := List.mem_flatMap.1 h
      obtain ⟨v, hv, h⟩ := List.mem_flatMap.1 h
      obtain ⟨v', hv', rfl⟩ := List.mem_map.1 h
      obtain ⟨hbraceless, hcomma⟩ := (as.areBraceless_of_mem hws).2 v hv
      obtain ⟨hbraceless', hcomma'⟩ := rest.isBraceless_of_mem hv'
      refine ⟨isBraceless_append.2 ⟨hbraceless, hbraceless'⟩, fun hinside => ?_⟩
      simp [hcomma, hcomma' hinside]

theorem Alternatives.areBraceless_of_mem : ∀ {as : Alternatives} {ws : List Text},
    ws ∈ as.rows → ws ≠ [] ∧ ∀ w ∈ ws, IsBraceless w ∧ comma ∉ w
  | .last p, ws, h => by
      obtain ⟨w, hw, rfl⟩ := List.mem_map.1 h
      obtain ⟨hbraceless, hcomma⟩ := p.isBraceless_of_mem hw
      simp [hbraceless, hcomma]
  | .more p rest, ws, h => by
      obtain ⟨w, hw, h⟩ := List.mem_flatMap.1 h
      obtain ⟨ws', hws', rfl⟩ := List.mem_map.1 h
      obtain ⟨hbraceless, hcomma⟩ := p.isBraceless_of_mem hw
      simpa [hbraceless, hcomma] using (rest.areBraceless_of_mem hws').2

end

theorem isBraceless_joinWith {ws : List Text} (h : ∀ w ∈ ws, IsBraceless w) :
    IsBraceless (joinWith [comma] ws) := by
  induction ws with
  | nil => exact isBraceless_nil
  | cons w ws ih =>
      rw [List.forall_mem_cons] at h
      cases ws with
      | nil => exact h.1
      | cons v ws =>
          rw [joinWith_cons (List.cons_ne_nil _ _), isBraceless_append, isBraceless_append]
          exact ⟨⟨h.1, by decide⟩, ih h.2⟩

/-- A group with alternatives without braces is expanded at once. -/
theorem expandBraces_group (hhead : closing ∉ head) {ws : List Text} (hne : ws ≠ [])
    (hws : ∀ w ∈ ws, IsBraceless w ∧ comma ∉ w) (tail : Text) :
    expandBraces (head ++ opening :: (joinWith [comma] ws ++ closing :: tail)) =
      ws.flatMap fun w => expandBraces (head ++ w ++ tail) := by
  rw [expandBraces_eq, splitAtBraces?_append hhead (isBraceless_joinWith fun w hw => (hws w hw).1)]
  show (splitOn comma (joinWith [comma] ws)).flatMap _ = _
  rw [splitOn_joinWith hne fun w hw => (hws w hw).2]

mutual

/-- A pattern behind a front without closing braces is expanded before what follows it. -/
theorem Braced.expandBraces_text {inside : Bool} : ∀ (p : Braced inside) {head : Text},
    closing ∉ head → ∀ tail, expandBraces (head ++ (p.text ++ tail)) =
      p.expansions.flatMap fun w => expandBraces (head ++ (w ++ tail))
  | .done, head, _, tail => by simp [Braced.text, Braced.expansions]
  | .plain t hbraces _ rest, head, hhead, tail => by
      have hfront : closing ∉ head ++ t := by simp [hhead, hbraces.closing_notMem]
      have hrest := rest.expandBraces_text hfront tail
      simpa [Braced.text, Braced.expansions, List.flatMap_map] using hrest
  | .group as rest, head, hhead, tail => by
      have hfront : closing ∉ head ++ [opening] := by
        rw [List.mem_append, not_or]
        exact ⟨hhead, by decide⟩
      calc expandBraces (head ++ ((Braced.group as rest).text ++ tail))
        _ = expandBraces (head ++ [opening] ++ (as.text ++ closing :: (rest.text ++ tail))) := by
            simp [Braced.text]
        _ = as.rows.flatMap fun ws => expandBraces
              (head ++ [opening] ++ (joinWith [comma] ws ++ closing :: (rest.text ++ tail))) :=
            as.expandBraces_text hfront _
        _ = as.rows.flatMap fun ws => ws.flatMap fun w => rest.expansions.flatMap fun v =>
              expandBraces (head ++ w ++ (v ++ tail)) := by
            refine List.flatMap_congr fun ws hws => ?_
            obtain ⟨hne, hwords⟩ := as.areBraceless_of_mem hws
            rw [List.append_assoc, List.singleton_append, expandBraces_group hhead hne hwords]
            refine List.flatMap_congr fun w hw => rest.expandBraces_text ?_ tail
            simp [hhead, (hwords w hw).1.closing_notMem]
        _ = (Braced.group as rest).expansions.flatMap fun w =>
              expandBraces (head ++ (w ++ tail)) := by
            simp [Braced.expansions, List.flatMap_assoc, List.flatMap_map]

theorem Alternatives.expandBraces_text : ∀ (as : Alternatives) {head : Text},
    closing ∉ head → ∀ tail, expandBraces (head ++ (as.text ++ tail)) =
      as.rows.flatMap fun ws => expandBraces (head ++ (joinWith [comma] ws ++ tail))
  | .last p, head, hhead, tail => by
      have hp := p.expandBraces_text hhead tail
      simpa [Alternatives.text, Alternatives.rows, List.flatMap_map, joinWith] using hp
  | .more p rest, head, hhead, tail => by
      calc expandBraces (head ++ ((Alternatives.more p rest).text ++ tail))
        _ = expandBraces (head ++ (p.text ++ comma :: (rest.text ++ tail))) := by
            simp [Alternatives.text]
        _ = p.expansions.flatMap fun w =>
              expandBraces (head ++ (w ++ comma :: (rest.text ++ tail))) :=
            p.expandBraces_text hhead _
        _ = p.expansions.flatMap fun w => rest.rows.flatMap fun ws =>
              expandBraces (head ++ (joinWith [comma] (w :: ws) ++ tail)) := by
            refine List.flatMap_congr fun w hw => ?_
            have hfront : closing ∉ head ++ w ++ [comma] := by
              rw [List.mem_append, List.mem_append, not_or, not_or]
              exact ⟨⟨hhead, (p.isBraceless_of_mem hw).1.closing_notMem⟩, by decide⟩
            have hrest := rest.expandBraces_text hfront tail
            simp only [List.append_assoc, List.singleton_append] at hrest
            rw [hrest]
            refine List.flatMap_congr fun ws hws => ?_
            simp [joinWith_cons (rest.areBraceless_of_mem hws).1]
        _ = (Alternatives.more p rest).rows.flatMap fun ws =>
              expandBraces (head ++ (joinWith [comma] ws ++ tail)) := by
            simp [Alternatives.rows, List.flatMap_assoc, List.flatMap_map]

end

theorem Braced.expandBraces_eq_expansions (p : Braced false) :
    expandBraces p.text = p.expansions := by
  have hp : expandBraces ([] ++ (p.text ++ [])) =
      p.expansions.flatMap fun w => expandBraces ([] ++ (w ++ [])) :=
    p.expandBraces_text List.not_mem_nil []
  simp only [List.nil_append, List.append_nil] at hp
  rw [hp, List.flatMap_congr fun w hw => expandBraces_of_isBraceless (p.isBraceless_of_mem hw).1]
  exact List.flatMap_singleton' _

/-! ## What a pattern denotes -/

mutual

theorem Braced.expansions_ne_nil {inside : Bool} : ∀ p : Braced inside, p.expansions ≠ []
  | .done => List.cons_ne_nil _ _
  | .plain t _ _ rest => by simpa [Braced.expansions] using rest.expansions_ne_nil
  | .group as rest => by
      obtain ⟨ws, hws⟩ := List.exists_mem_of_ne_nil _ as.rows_ne_nil
      obtain ⟨w, hw⟩ := List.exists_mem_of_ne_nil _ (as.areBraceless_of_mem hws).1
      obtain ⟨v, hv⟩ := List.exists_mem_of_ne_nil _ rest.expansions_ne_nil
      exact List.ne_nil_of_mem (List.mem_flatMap.2
        ⟨ws, hws, List.mem_flatMap.2 ⟨w, hw, List.mem_map_of_mem hv⟩⟩)

theorem Alternatives.rows_ne_nil : ∀ as : Alternatives, as.rows ≠ []
  | .last p => by simpa [Alternatives.rows] using p.expansions_ne_nil
  | .more p rest => by
      obtain ⟨w, hw⟩ := List.exists_mem_of_ne_nil _ p.expansions_ne_nil
      obtain ⟨ws, hws⟩ := List.exists_mem_of_ne_nil _ rest.rows_ne_nil
      exact List.ne_nil_of_mem (List.mem_flatMap.2 ⟨w, hw, List.mem_map_of_mem hws⟩)

end

mutual

theorem Braced.mem_expansions_iff {inside : Bool} : ∀ (p : Braced inside) {w : Text},
    w ∈ p.expansions ↔ w ∈ p.language
  | .done, w => by simp [Braced.expansions, Braced.language]
  | .plain t _ _ rest, w => by
      simp only [Braced.expansions, Braced.language, List.mem_map, Language.mem_mul,
        rest.mem_expansions_iff]
      exact ⟨fun ⟨v, hv, heq⟩ => ⟨t, rfl, v, hv, heq⟩,
        fun ⟨_, ht, v, hv, heq⟩ => ⟨v, hv, ht ▸ heq⟩⟩
  | .group as rest, w => by
      simp only [Braced.expansions, Braced.language, List.mem_flatMap, List.mem_map,
        Language.mem_mul, rest.mem_expansions_iff, ← as.exists_mem_rows_iff]
      exact ⟨fun ⟨ws, hws, v, hv, u, hu, heq⟩ => ⟨v, ⟨ws, hws, hv⟩, u, hu, heq⟩,
        fun ⟨v, ⟨ws, hws, hv⟩, u, hu, heq⟩ => ⟨ws, hws, v, hv, u, hu, heq⟩⟩

theorem Alternatives.exists_mem_rows_iff : ∀ (as : Alternatives) {w : Text},
    (∃ ws ∈ as.rows, w ∈ ws) ↔ w ∈ as.language
  | .last p, w => by simp [Alternatives.rows, Alternatives.language, ← p.mem_expansions_iff]
  | .more p rest, w => by
      obtain ⟨v, hv⟩ := List.exists_mem_of_ne_nil _ p.expansions_ne_nil
      obtain ⟨vs, hvs⟩ := List.exists_mem_of_ne_nil _ rest.rows_ne_nil
      simp only [Alternatives.rows, Alternatives.language, Language.mem_add, List.mem_flatMap,
        List.mem_map, ← p.mem_expansions_iff, ← rest.exists_mem_rows_iff]
      constructor
      · rintro ⟨_, ⟨u, hu, us, hus, rfl⟩, hw⟩
        rcases List.mem_cons.1 hw with rfl | hw
        · exact .inl hu
        · exact .inr ⟨us, hus, hw⟩
      · rintro (hw | ⟨us, hus, hw⟩)
        · exact ⟨_, ⟨w, hw, vs, hvs, rfl⟩, List.mem_cons_self⟩
        · exact ⟨_, ⟨v, hv, us, hus, rfl⟩, List.mem_cons_of_mem _ hw⟩

end

/-- A pattern without groups stands for one text. -/
theorem Braced.exists_words_eq {inside : Bool} : ∀ p : Braced inside, p.IsPlain →
    ∃ w, p.expansions = [w] ∧ p.words = [w]
  | .done, _ => ⟨[], rfl, rfl⟩
  | .plain t _ _ rest, h => by
      obtain ⟨w, hexpansions, hwords⟩ := rest.exists_words_eq h
      exact ⟨t ++ w, by rw [expansions, hexpansions]; rfl, by rw [words, hwords]; rfl⟩

theorem Alternatives.rows_eq : ∀ as : Alternatives, as.ArePlain → as.rows = [as.words]
  | .last p, h => by
      obtain ⟨w, hexpansions, hwords⟩ := p.exists_words_eq h
      rw [rows, words, hexpansions, hwords]
      rfl
  | .more p rest, h => by
      obtain ⟨w, hexpansions, hwords⟩ := p.exists_words_eq h.1
      rw [rows, words, hexpansions, hwords, rest.rows_eq h.2]
      rfl

theorem Braced.expansions_eq_words {inside : Bool} : ∀ p : Braced inside, p.IsFlat →
    p.expansions = p.words
  | .done, _ => rfl
  | .plain t _ _ rest, h => congrArg (List.map (t ++ ·)) (rest.expansions_eq_words h)
  | .group as rest, h => by
      rw [expansions, words, as.rows_eq h.1, rest.expansions_eq_words h.2]
      simp [SProd.sprod, List.product, List.map_flatMap, Function.comp_def]

/-- The expansion of a text ends and leaves no group.  A pattern gives just the texts that it
denotes, and one without groups inside groups gives them in the order of its parts. -/
theorem expandBraces_denotes : (WellFounded fun u t => Step t u) ∧
    (∀ t, expandBraces t = match splitAtBraces? t with
      | none => [t]
      | some (head, inside, tail) => (splitOn ',' inside).flatMap fun alternative =>
          expandBraces (head ++ alternative ++ tail)) ∧
    (∀ t, ∀ u ∈ expandBraces t, ¬ HoldsGroup u) ∧
    (∀ p : Braced false, ∀ u, u ∈ expandBraces p.text ↔ u ∈ p.language) ∧
    ∀ p : Braced false, p.IsFlat → expandBraces p.text = p.words := by
  refine ⟨wellFounded_step, expandBraces_eq, fun t u => not_holdsGroup_of_mem, fun p u => ?_,
    fun p hflat => ?_⟩
  · rw [p.expandBraces_eq_expansions, p.mem_expansions_iff]
  · rw [p.expandBraces_eq_expansions, p.expansions_eq_words hflat]

/-- With groups inside groups a text can come more than once. -/
example : expandBraces (lit "\x7ba,\x7bb,c\x7d\x7d") = [lit "a", lit "b", lit "a", lit "c"] := by
  decide

/-- Scripts in one of two directories: two groups with a plain text between them. -/
def scriptGlob : Braced false :=
  .group (.more (.plain (lit "app") (by decide) (by decide) .done)
    (.last (.plain (lit "pages") (by decide) (by decide) .done)))
  (.plain (lit "/*.") (by decide) (by decide)
    (.group (.more (.plain (lit "js") (by decide) (by decide) .done)
      (.last (.plain (lit "jsx") (by decide) (by decide) .done))) .done))

theorem expandBraces_scriptGlob : scriptGlob.IsFlat ∧
    scriptGlob.text = lit "\x7bapp,pages\x7d/*.\x7bjs,jsx\x7d" ∧
    expandBraces scriptGlob.text =
      [lit "app/*.js", lit "app/*.jsx", lit "pages/*.js", lit "pages/*.jsx"] := by
  have hflat : scriptGlob.IsFlat := ⟨⟨trivial, trivial⟩, ⟨trivial, trivial⟩, trivial⟩
  obtain ⟨-, -, -, -, hwords⟩ := expandBraces_denotes
  exact ⟨hflat, by decide, (hwords scriptGlob hflat).trans (by decide)⟩

end HelpCenter.Glob

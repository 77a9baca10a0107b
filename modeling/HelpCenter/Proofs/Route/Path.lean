import HelpCenter.Proofs.Text.Search
import HelpCenter.Route.Path
import Mathlib.Data.List.TakeWhile

/-!
# Directories and the paths of routes

A directory is a group, stands for a parameter, or is taken as it is (`isGroup_iff`,
`catchAllName?_eq_some_iff`, `dynamicName?_eq_some_iff`), so that directories are lowered to the
parts of a path and the names of the parameters among them (`Lowers`).  The parts are what is found
again in the path (`Lowers.isPath`), lowering them changes nothing, and the parameters are
read from the path (`pathOfSegments_lowers`).
-/

namespace HelpCenter.Route

open Text

variable {s t u part name : Text} {segments parts names : List Text} {c : CodePoint}

/-! ## Words -/

/-- One word character or more. -/
def IsWord (t : Text) : Prop := t ≠ [] ∧ ∀ c ∈ t, c.isWord = true

theorem IsWord.notMem (h : IsWord t) (hc : c.isWord = false) : c ∉ t := fun hmem => by
  simp [h.2 c hmem] at hc

/-- No word goes on at the beginning of the text. -/
def EndsWord (t : Text) : Prop := ∀ c ∈ t.head?, c.isWord = false

theorem endsWord_nil : EndsWord [] := fun _ h => nomatch h

theorem endsWord_cons (h : c.isWord = false) (t : Text) : EndsWord (c :: t) := by
  intro d hd
  obtain rfl := Option.some.inj hd
  exact h

theorem takeWhile_word (hs : ∀ c ∈ s, c.isWord = true) (ht : EndsWord t) :
    (s ++ t).takeWhile CodePoint.isWord = s := by
  rw [List.takeWhile_append_of_pos hs]
  cases t with
  | nil => exact List.append_nil s
  | cons c t => rw [List.takeWhile_cons_of_neg (by simp [ht c rfl]), List.append_nil]

theorem dropWhile_word (hs : ∀ c ∈ s, c.isWord = true) (ht : EndsWord t) :
    (s ++ t).dropWhile CodePoint.isWord = t := by
  rw [List.dropWhile_append_of_pos hs]
  cases t with
  | nil => rfl
  | cons c t => rw [List.dropWhile_cons_of_neg (by simp [ht c rfl])]

theorem splitWord?_eq_some_iff :
    splitWord? s = some (t, u) ↔ IsWord t ∧ EndsWord u ∧ s = t ++ u := by
  unfold splitWord?
  dsimp only
  constructor
  · intro h
    split at h
    · cases h
    · next hne =>
      obtain ⟨rfl, rfl⟩ := Prod.mk.inj (Option.some.inj h)
      refine ⟨⟨by simpa using hne, fun c hc => List.mem_takeWhile_imp hc⟩, fun c hc => ?_,
        List.takeWhile_append_dropWhile.symm⟩
      have hhead := List.head?_dropWhile_not CodePoint.isWord s
      rw [Option.mem_def.1 hc] at hhead
      simpa using hhead
  · rintro ⟨⟨hne, hword⟩, hend, rfl⟩
    simp only [takeWhile_word hword hend, dropWhile_word hword hend]
    rw [if_neg (by simpa using hne)]

/-! ## Forms of directories -/

/-- The sign between the parts of a path. -/
abbrev slash : CodePoint := '/'

/-- The end of a line. -/
abbrev lineFeed : CodePoint := '\n'

/-- The text, with a line feed at its end or without. -/
def Spells (s body : Text) : Prop := s = body ∨ s = body ++ [lineFeed]

theorem dropFinalBreak_append (t : Text) : dropFinalBreak (t ++ [lineFeed]) = t :=
  (if_pos List.getLast?_concat).trans List.dropLast_concat

theorem dropFinalBreak_of_notMem (h : lineFeed ∉ t) : dropFinalBreak t = t :=
  if_neg fun hlast => h (List.mem_of_getLast? hlast)

theorem dropFinalBreak_eq_iff (h : lineFeed ∉ t) : dropFinalBreak s = t ↔ Spells s t := by
  constructor
  · rintro rfl
    by_cases hlast : s.getLast? = some lineFeed
    · obtain ⟨front, rfl⟩ := List.getLast?_eq_some_iff.1 hlast
      rw [dropFinalBreak_append]
      exact .inr rfl
    · exact .inl (if_neg hlast).symm
  · rintro (rfl | rfl)
    · exact dropFinalBreak_of_notMem h
    · exact dropFinalBreak_append t

/-- A group: any text on one line in parentheses. -/
def IsGroup (s : Text) : Prop :=
  ∃ inner, inner ≠ [] ∧ lineFeed ∉ inner ∧ Spells s (lit "(" ++ inner ++ lit ")")

/-- A catch-all of a name: an ellipsis and a word in one or two brackets on each side. -/
def IsCatchAll (s name : Text) : Prop :=
  IsWord name ∧ ∃ before after, (before = lit "[" ∨ before = lit "[[") ∧
    (after = lit "]" ∨ after = lit "]]") ∧ Spells s (before ++ (lit "..." ++ (name ++ after)))

/-- A dynamic directory of a name: a word in brackets. -/
def IsDynamic (s name : Text) : Prop := IsWord name ∧ Spells s (lit "[" ++ name ++ lit "]")

/-- A directory that is neither dropped nor a parameter. -/
def IsStatic (s : Text) : Prop :=
  s ≠ [] ∧ ¬ IsGroup s ∧ ∀ name, ¬ IsCatchAll s name ∧ ¬ IsDynamic s name

theorem isGroup_iff : isGroup s = true ↔ IsGroup s := by
  have hbody {inner : Text} (h : lineFeed ∉ inner) : lineFeed ∉ lit "(" ++ inner ++ lit ")" := by
    simp only [List.mem_append, not_or]
    exact ⟨⟨by decide, h⟩, by decide⟩
  unfold isGroup
  constructor
  · intro h
    split at h
    · next c rest hdrop =>
      simp only [Bool.and_eq_true, decide_eq_true_eq, Bool.not_eq_true'] at h
      obtain ⟨⟨⟨rfl, hlast⟩, hlength⟩, hbreak⟩ := h
      obtain ⟨inner, rfl⟩ := List.getLast?_eq_some_iff.1 hlast
      have hinner : lineFeed ∉ inner := fun hmem => by simp [hmem] at hbreak
      refine ⟨inner, ?_, hinner, (dropFinalBreak_eq_iff (hbody hinner)).1 hdrop⟩
      rintro rfl
      simp at hlength
    · cases h
  · rintro ⟨inner, hne, hinner, hspells⟩
    rw [(dropFinalBreak_eq_iff (hbody hinner)).2 hspells]
    have hlast : (inner ++ lit ")").getLast? = some (CodePoint.ofChar ')') := List.getLast?_concat
    have hlength : 2 ≤ (inner ++ lit ")").length := by
      rw [List.length_append]
      exact Nat.succ_le_succ (List.length_pos_of_ne_nil hne)
    have hbreak : (inner ++ lit ")").contains lineFeed = false := by
      rw [← Bool.not_eq_true, List.contains_iff_mem, List.mem_append, not_or]
      exact ⟨hinner, by decide⟩
    show (decide (CodePoint.ofChar '(' = '(') && _ && _ && _) = true
    rw [Bool.and_eq_true, Bool.and_eq_true, Bool.and_eq_true]
    exact ⟨⟨⟨rfl, decide_eq_true hlast⟩, decide_eq_true hlength⟩, congrArg not hbreak⟩

/-- The front of a catch-all is one bracket or two, and an ellipsis. -/
theorem opensCatchAll_iff {rest : Text} :
    (∃ t, afterPrefix? (lit "[") s = some t ∧
      afterPrefix? (lit "...") ((afterPrefix? (lit "[") t).getD t) = some rest) ↔
    ∃ before, (before = lit "[" ∨ before = lit "[[") ∧ s = before ++ (lit "..." ++ rest) := by
  constructor
  · rintro ⟨t, hopen, hellipsis⟩
    rw [eq_append_of_afterPrefix? hopen]
    cases hbracket : afterPrefix? (lit "[") t with
    | none =>
        rw [hbracket] at hellipsis
        exact ⟨lit "[", .inl rfl, congrArg (lit "[" ++ ·) (eq_append_of_afterPrefix? hellipsis)⟩
    | some u =>
        rw [hbracket] at hellipsis
        rw [eq_append_of_afterPrefix? hbracket]
        exact ⟨lit "[[", .inr rfl, congrArg (lit "[[" ++ ·) (eq_append_of_afterPrefix? hellipsis)⟩
  · rintro ⟨before, rfl | rfl, rfl⟩
    · exact ⟨lit "..." ++ rest, afterPrefix?_append .., afterPrefix?_append (lit "...") rest⟩
    · exact ⟨lit "[" ++ (lit "..." ++ rest), rfl, afterPrefix?_append (lit "...") rest⟩

theorem catchAllName?_eq_some_iff : catchAllName? s = some name ↔ IsCatchAll s name := by
  have hbody {before after : Text} (hname : IsWord name)
      (hbefore : before = lit "[" ∨ before = lit "[[")
      (hafter : after = lit "]" ∨ after = lit "]]") :
      lineFeed ∉ before ++ (lit "..." ++ (name ++ after)) := by
    simp only [List.mem_append, not_or]
    refine ⟨?_, by decide, hname.notMem (by decide), ?_⟩
    · rcases hbefore with rfl | rfl <;> decide
    · rcases hafter with rfl | rfl <;> decide
  unfold catchAllName?
  constructor
  · intro h
    obtain ⟨t, hopen, h⟩ := Option.bind_eq_some_iff.1 h
    obtain ⟨u, hellipsis, h⟩ := Option.bind_eq_some_iff.1 h
    obtain ⟨⟨word, after⟩, hword, h⟩ := Option.bind_eq_some_iff.1 h
    dsimp only at h
    split at h
    · next hafter =>
      obtain rfl := Option.some.inj h
      rw [Bool.or_eq_true, decide_eq_true_iff, decide_eq_true_iff] at hafter
      obtain ⟨hname, -, rfl⟩ := splitWord?_eq_some_iff.1 hword
      obtain ⟨before, hbefore, hdrop⟩ := opensCatchAll_iff.1 ⟨t, hopen, hellipsis⟩
      exact ⟨hname, before, after, hbefore, hafter,
        (dropFinalBreak_eq_iff (hbody hname hbefore hafter)).1 hdrop⟩
    · cases h
  · rintro ⟨hname, before, after, hbefore, hafter, hspells⟩
    have hdrop := (dropFinalBreak_eq_iff (hbody hname hbefore hafter)).2 hspells
    have hend : EndsWord after := by
      rcases hafter with rfl | rfl <;> exact endsWord_cons (by decide) _
    obtain ⟨t, hopen, hellipsis⟩ := opensCatchAll_iff.2 ⟨before, hbefore, hdrop⟩
    refine Option.bind_eq_some_iff.2 ⟨t, hopen, Option.bind_eq_some_iff.2
      ⟨name ++ after, hellipsis, Option.bind_eq_some_iff.2
        ⟨(name, after), splitWord?_eq_some_iff.2 ⟨hname, hend, rfl⟩, if_pos ?_⟩⟩⟩
    rwa [Bool.or_eq_true, decide_eq_true_iff, decide_eq_true_iff]

theorem dynamicName?_eq_some_iff : dynamicName? s = some name ↔ IsDynamic s name := by
  have hbody (hname : IsWord name) : lineFeed ∉ lit "[" ++ name ++ lit "]" := by
    simp only [List.mem_append, not_or]
    exact ⟨⟨by decide, hname.notMem (by decide)⟩, by decide⟩
  unfold dynamicName?
  constructor
  · intro h
    obtain ⟨t, hopen, h⟩ := Option.bind_eq_some_iff.1 h
    obtain ⟨⟨word, after⟩, hword, h⟩ := Option.bind_eq_some_iff.1 h
    dsimp only at h
    split at h
    · next hafter =>
      obtain rfl := Option.some.inj h
      obtain ⟨hname, -, ht⟩ := splitWord?_eq_some_iff.1 hword
      refine ⟨hname, (dropFinalBreak_eq_iff (hbody hname)).1 ?_⟩
      rw [eq_append_of_afterPrefix? hopen, ht, hafter, List.append_assoc]
    · cases h
  · rintro ⟨hname, hspells⟩
    have hdrop := (dropFinalBreak_eq_iff (hbody hname)).2 hspells
    rw [List.append_assoc] at hdrop
    exact Option.bind_eq_some_iff.2 ⟨name ++ lit "]", hdrop ▸ afterPrefix?_append ..,
      Option.bind_eq_some_iff.2 ⟨(name, lit "]"),
        splitWord?_eq_some_iff.2 ⟨hname, endsWord_cons (by decide) _, rfl⟩, if_pos rfl⟩⟩

/-- What directories become: the parts of a path, and the names of the parameters among them.
Groups and empty names are dropped. -/
inductive Lowers : (segments parts names : List Text) → Prop
  | nil : Lowers [] [] []
  | drop {s : Text} {segments parts names : List Text} (hs : s = [] ∨ IsGroup s)
      (h : Lowers segments parts names) : Lowers (s :: segments) parts names
  | catchAll {s name : Text} {segments parts names : List Text} (hs : IsCatchAll s name)
      (h : Lowers segments parts names) :
      Lowers (s :: segments) ((lit ":" ++ name ++ lit "*") :: parts) (name :: names)
  | dynamic {s name : Text} {segments parts names : List Text} (hs : IsDynamic s name)
      (h : Lowers segments parts names) :
      Lowers (s :: segments) ((lit ":" ++ name) :: parts) (name :: names)
  | static {s : Text} {segments parts names : List Text} (hs : IsStatic s)
      (h : Lowers segments parts names) : Lowers (s :: segments) (s :: parts) names

/-! ## Lowering one directory -/

theorem Spells.head?_eq {body : Text} (h : Spells s body) (hc : body.head? = some c) :
    s.head? = some c := by
  obtain ⟨rest, rfl⟩ := List.head?_eq_some_iff.1 hc
  rcases h with rfl | rfl <;> rfl

theorem IsGroup.head?_eq (h : IsGroup s) : s.head? = some (CodePoint.ofChar '(') := by
  obtain ⟨inner, -, -, hspells⟩ := h
  exact hspells.head?_eq rfl

/-- Behind its first bracket a catch-all goes on with a sign. -/
theorem IsCatchAll.exists_sign (h : IsCatchAll s name) :
    ∃ d rest, d.isWord = false ∧ s = CodePoint.ofChar '[' :: d :: rest := by
  obtain ⟨-, before, after, rfl | rfl, -, rfl | rfl⟩ := h
  all_goals exact ⟨_, _, by decide, rfl⟩

/-- Behind its bracket a dynamic directory goes on with a word. -/
theorem IsDynamic.exists_word (h : IsDynamic s name) :
    ∃ d rest, d.isWord = true ∧ s = CodePoint.ofChar '[' :: d :: rest := by
  obtain ⟨⟨hne, hword⟩, hspells⟩ := h
  obtain ⟨d, name, rfl⟩ := List.exists_cons_of_ne_nil hne
  rcases hspells with rfl | rfl
  all_goals exact ⟨d, _, hword d List.mem_cons_self, rfl⟩

theorem lowerSegment_of_isGroup (h : IsGroup s) : lowerSegment s = none :=
  if_pos (isGroup_iff.2 h)

theorem lowerSegment_of_isCatchAll (h : IsCatchAll s name) :
    lowerSegment s = some (lit ":" ++ name ++ lit "*") := by
  have hgroup : ¬ isGroup s = true := fun hgroup => by
    obtain ⟨d, rest, -, rfl⟩ := h.exists_sign
    have hhead := Option.some.inj (isGroup_iff.1 hgroup).head?_eq
    exact absurd hhead (by decide)
  rw [lowerSegment, if_neg hgroup, catchAllName?_eq_some_iff.2 h]

theorem lowerSegment_of_isDynamic (h : IsDynamic s name) :
    lowerSegment s = some (lit ":" ++ name) := by
  have hgroup : ¬ isGroup s = true := fun hgroup => by
    obtain ⟨d, rest, -, rfl⟩ := h.exists_word
    have hhead := Option.some.inj (isGroup_iff.1 hgroup).head?_eq
    exact absurd hhead (by decide)
  have hcatchAll : catchAllName? s = none := by
    refine Option.eq_none_iff_forall_not_mem.2 fun name' hname' => ?_
    obtain ⟨d, rest, hd, rfl⟩ := h.exists_word
    obtain ⟨d', rest', hd', heq⟩ := (catchAllName?_eq_some_iff.1 hname').exists_sign
    obtain rfl := (List.cons.inj (List.cons.inj heq).2).1
    exact absurd hd (by simp [hd'])
  rw [lowerSegment, if_neg hgroup, hcatchAll, dynamicName?_eq_some_iff.2 h]

theorem lowerSegment_of_isStatic (h : IsStatic s) : lowerSegment s = some s := by
  have hcatchAll : catchAllName? s = none := Option.eq_none_iff_forall_not_mem.2
    fun name hname => (h.2.2 name).1 (catchAllName?_eq_some_iff.1 hname)
  have hdynamic : dynamicName? s = none := Option.eq_none_iff_forall_not_mem.2
    fun name hname => (h.2.2 name).2 (dynamicName?_eq_some_iff.1 hname)
  rw [lowerSegment, if_neg (mt isGroup_iff.1 h.2.1), hcatchAll, hdynamic]

/-- A text that begins with neither an opening parenthesis nor a bracket is static. -/
theorem isStatic_of_head? (hc : s.head? = some c) (hgroup : c ≠ '(') (hbracket : c ≠ '[') :
    IsStatic s := by
  obtain ⟨rest, rfl⟩ := List.head?_eq_some_iff.1 hc
  refine ⟨List.cons_ne_nil _ _, fun h => hgroup (Option.some.inj h.head?_eq), fun name => ⟨?_, ?_⟩⟩
  · intro h
    obtain ⟨d, rest', -, heq⟩ := h.exists_sign
    exact hbracket (List.cons.inj heq).1
  · intro h
    obtain ⟨d, rest', -, heq⟩ := h.exists_word
    exact hbracket (List.cons.inj heq).1

/-! ## Lowering directories -/

/-- The parts of the path that directories make. -/
def partsOf (segments : List Text) : List Text :=
  (segments.filterMap lowerSegment).filter (!·.isEmpty)

theorem partsOf_cons_of_ne_nil (h : lowerSegment s = some part) (hne : part ≠ []) :
    partsOf (s :: segments) = part :: partsOf segments := by
  rw [partsOf, List.filterMap_cons_some h, List.filter_cons_of_pos (by simpa using hne)]
  rfl

theorem partsOf_cons_of_drop (h : s = [] ∨ IsGroup s) :
    partsOf (s :: segments) = partsOf segments := by
  rcases h with rfl | hgroup
  · rfl
  · rw [partsOf, List.filterMap_cons_none (lowerSegment_of_isGroup hgroup)]
    rfl

theorem Lowers.parts_eq (h : Lowers segments parts names) : parts = partsOf segments := by
  induction h with
  | nil => rfl
  | drop hs _ ih => rw [partsOf_cons_of_drop hs, ih]
  | catchAll hs _ ih =>
      rw [partsOf_cons_of_ne_nil (lowerSegment_of_isCatchAll hs) (List.cons_ne_nil _ _), ih]
  | dynamic hs _ ih =>
      rw [partsOf_cons_of_ne_nil (lowerSegment_of_isDynamic hs) (List.cons_ne_nil _ _), ih]
  | static hs _ ih => rw [partsOf_cons_of_ne_nil (lowerSegment_of_isStatic hs) hs.1, ih]

theorem exists_lowers : ∀ segments : List Text, ∃ parts names, Lowers segments parts names
  | [] => ⟨[], [], .nil⟩
  | s :: segments => by
      obtain ⟨parts, names, h⟩ := exists_lowers segments
      by_cases hdrop : s = [] ∨ IsGroup s
      · exact ⟨_, _, h.drop hdrop⟩
      · by_cases hcatchAll : ∃ name, IsCatchAll s name
        · obtain ⟨name, hs⟩ := hcatchAll
          exact ⟨_, _, h.catchAll hs⟩
        · by_cases hdynamic : ∃ name, IsDynamic s name
          · obtain ⟨name, hs⟩ := hdynamic
            exact ⟨_, _, h.dynamic hs⟩
          · push Not at hdrop hcatchAll hdynamic
            exact ⟨_, _, h.static ⟨hdrop.1, hdrop.2, fun name => ⟨hcatchAll name, hdynamic name⟩⟩⟩

/-- The parts of a path are static, so lowering them changes nothing. -/
theorem Lowers.isStatic (h : Lowers segments parts names) : ∀ p ∈ parts, IsStatic p := by
  induction h with
  | nil => exact List.forall_mem_nil _
  | drop _ _ ih => exact ih
  | catchAll _ _ ih =>
      exact List.forall_mem_cons.2 ⟨isStatic_of_head? rfl (by decide) (by decide), ih⟩
  | dynamic _ _ ih =>
      exact List.forall_mem_cons.2 ⟨isStatic_of_head? rfl (by decide) (by decide), ih⟩
  | static hs _ ih => exact List.forall_mem_cons.2 ⟨hs, ih⟩

theorem lowers_of_isStatic (h : ∀ p ∈ parts, IsStatic p) : Lowers parts parts [] := by
  induction parts with
  | nil => exact .nil
  | cons p parts ih =>
      rw [List.forall_mem_cons] at h
      exact .static h.1 (ih h.2)

theorem Lowers.slash_notMem (h : Lowers segments parts names)
    (hsegments : ∀ s ∈ segments, slash ∉ s) : ∀ p ∈ parts, slash ∉ p := by
  induction h with
  | nil => exact List.forall_mem_nil _
  | drop _ _ ih => exact ih fun s hs => hsegments s (List.mem_cons_of_mem _ hs)
  | catchAll hs _ ih =>
      refine List.forall_mem_cons.2 ⟨?_, ih fun s hs => hsegments s (List.mem_cons_of_mem _ hs)⟩
      simp only [List.mem_append, not_or]
      exact ⟨⟨by decide, hs.1.notMem (by decide)⟩, by decide⟩
  | dynamic hs _ ih =>
      refine List.forall_mem_cons.2 ⟨?_, ih fun s hs => hsegments s (List.mem_cons_of_mem _ hs)⟩
      simp only [List.mem_append, not_or]
      exact ⟨by decide, hs.1.notMem (by decide)⟩
  | static hs _ ih =>
      rw [List.forall_mem_cons] at hsegments
      exact List.forall_mem_cons.2 ⟨hsegments.1, ih hsegments.2⟩

/-! ## The parts of a path -/

theorem pathOfSegments_eq (segments : List Text) :
    pathOfSegments segments = lit "/" ++ joinWith (lit "/") (partsOf segments) := rfl

theorem slashed_eq (hne : parts ≠ []) :
    lit "/" ++ joinWith (lit "/") parts = parts.flatMap (slash :: ·) := by
  induction parts with
  | nil => exact absurd rfl hne
  | cons p parts ih =>
      cases parts with
      | nil => exact (List.flatMap_singleton _ _).symm
      | cons q parts =>
          rw [joinWith_cons (List.cons_ne_nil _ _), List.append_assoc p,
            ih (List.cons_ne_nil _ _)]
          rfl

/-- The path consists of the parts, which are not empty, with a slash before each, or is a single
slash where there are none.  Its parts are found in it again, and lowering them gives the path. -/
structure IsPath (path : Text) (parts : List Text) : Prop where
  starts : lit "/" <+: path
  ends : path = lit "/" ∨ ¬ lit "/" <:+ path
  nonempty : ∀ p ∈ parts, p ≠ []
  pieces : splitOn slash path = if parts = [] then [[], []] else [] :: parts
  fixed : pathOfSegments ((splitOn slash path).filter (· ≠ [])) = path

/-- Parts that are not empty and hold no slash do not end in one. -/
theorem not_slash_suffix (hne : parts ≠ []) (hparts : ∀ p ∈ parts, p ≠ [] ∧ slash ∉ p) :
    ¬ lit "/" <:+ parts.flatMap (slash :: ·) := by
  obtain ⟨front, last, rfl⟩ := (List.eq_nil_or_concat parts).resolve_left hne
  rintro ⟨path, hends⟩
  rw [List.concat_eq_append, List.flatMap_append] at hends
  obtain ⟨hlast, hslash⟩ := hparts last (by simp)
  obtain ⟨c, hc⟩ := Option.ne_none_iff_exists'.1 (mt List.getLast?_eq_none_iff.1 hlast)
  have hsame : some slash = some c := calc some slash
    _ = (path ++ lit "/").getLast? := List.getLast?_concat.symm
    _ = _ := congrArg List.getLast? hends
    _ = some c := by simp [List.getLast?_cons, hc]
  exact hslash (Option.some.inj hsame ▸ List.mem_of_getLast? hc)

theorem Lowers.isPath (h : Lowers segments parts names) (hsegments : ∀ s ∈ segments, slash ∉ s) :
    IsPath (pathOfSegments segments) parts := by
  have hstatic := h.isStatic
  have hslash := h.slash_notMem hsegments
  have hpath : pathOfSegments segments = lit "/" ++ joinWith (lit "/") parts := by
    rw [pathOfSegments_eq, ← h.parts_eq]
  have hpieces : splitOn slash (pathOfSegments segments) =
      if parts = [] then [[], []] else [] :: parts := by
    rw [hpath]
    split
    · next hnil =>
      subst hnil
      rfl
    · next hne =>
      exact congrArg ([] :: ·) (splitOn_joinWith hne hslash)
  have hfilter : (splitOn slash (pathOfSegments segments)).filter (· ≠ []) = parts := by
    rw [hpieces]
    split
    · next hnil =>
      subst hnil
      rfl
    · refine (List.filter_cons_of_neg (by simp)).trans (List.filter_eq_self.2 fun p hp => ?_)
      exact decide_eq_true (hstatic p hp).1
  refine ⟨hpath ▸ List.prefix_append .., ?_, fun p hp => (hstatic p hp).1, hpieces, ?_⟩
  · by_cases hne : parts = []
    · subst hne
      exact .inl hpath
    · right
      rw [hpath, slashed_eq hne]
      exact not_slash_suffix hne fun p hp => ⟨(hstatic p hp).1, hslash p hp⟩
  · rw [hfilter, pathOfSegments_eq, ← (lowers_of_isStatic hstatic).parts_eq, hpath]

/-! ## Names of parameters -/

theorem length_afterEllipsis_le (t : Text) :
    ((afterPrefix? (lit "...") t).getD t).length ≤ t.length := by
  cases h : afterPrefix? (lit "...") t with
  | none => exact le_rfl
  | some rest =>
      rw [eq_append_of_afterPrefix? h, List.length_append]
      exact Nat.le_add_left _ _

/-- Fuel for every character is enough. -/
theorem paramsFrom_of_le {n m : ℕ} (hn : t.length ≤ n) (hm : t.length ≤ m) :
    paramsFrom n t = paramsFrom m t := by
  induction n generalizing t m with
  | zero =>
      obtain rfl := List.length_eq_zero_iff.1 (Nat.le_zero.1 hn)
      cases m <;> rfl
  | succ n ih =>
      cases t with
      | nil => cases m <;> rfl
      | cons c t =>
          obtain ⟨m, rfl⟩ := Nat.exists_eq_add_of_le' (Nat.one_le_of_lt hm)
          have hlength := length_afterEllipsis_le t
          have hdrop :=
            List.length_dropWhile_le CodePoint.isWord ((afterPrefix? (lit "...") t).getD t)
          rw [List.length_cons] at hn hm
          have htail : paramsFrom n t = paramsFrom m t := ih (by omega) (by omega)
          have hafter : paramsFrom n (((afterPrefix? (lit "...") t).getD t).dropWhile
              CodePoint.isWord) = paramsFrom m _ := ih (by omega) (by omega)
          simp only [paramsFrom, htail, hafter]

theorem paramNames_cons (hcolon : c ≠ ':') (hbracket : c ≠ '[') (t : Text) :
    paramNames (c :: t) = paramNames t := by
  show paramsFrom (t.length + 1) (c :: t) = _
  rw [paramsFrom, if_neg (by simp [hcolon, hbracket])]
  rfl

theorem paramNames_append (hcolon : CodePoint.ofChar ':' ∉ s) (hbracket : CodePoint.ofChar '[' ∉ s)
    (t : Text) : paramNames (s ++ t) = paramNames t := by
  induction s with
  | nil => rfl
  | cons c s ih =>
      rw [List.mem_cons, not_or] at hcolon hbracket
      rw [List.cons_append, paramNames_cons (Ne.symm hcolon.1) (Ne.symm hbracket.1),
        ih hcolon.2 hbracket.2]

/-- A word behind a colon is a parameter. -/
theorem paramNames_colon (hname : IsWord name) (ht : EndsWord t) :
    paramNames (lit ":" ++ name ++ t) = name :: paramNames t := by
  obtain ⟨hne, hword⟩ := hname
  have hellipsis : afterPrefix? (lit "...") (name ++ t) = none := by
    obtain ⟨d, name, rfl⟩ := List.exists_cons_of_ne_nil hne
    refine if_neg ?_
    rintro rfl
    exact absurd (hword _ List.mem_cons_self) (by decide)
  show paramsFrom ((name ++ t).length + 1) (CodePoint.ofChar ':' :: (name ++ t)) = _
  rw [paramsFrom, if_pos (by decide)]
  dsimp only
  rw [hellipsis, Option.getD_none, takeWhile_word hword ht, dropWhile_word hword ht,
    if_neg (by simpa using hne)]
  exact congrArg (name :: ·) (paramsFrom_of_le (by simp) le_rfl)

theorem endsWord_slashed (parts : List Text) : EndsWord (parts.flatMap (slash :: ·)) := by
  cases parts with
  | nil => exact endsWord_nil
  | cons p parts => exact endsWord_cons (by decide) _

theorem Lowers.paramNames_eq (h : Lowers segments parts names)
    (hplain : ∀ s ∈ segments, IsStatic s → CodePoint.ofChar ':' ∉ s ∧ CodePoint.ofChar '[' ∉ s) :
    paramNames (parts.flatMap (slash :: ·)) = names := by
  -- Each part begins with a slash, so the word of a parameter does not run on into the next part.
  induction h with
  | nil => rfl
  | drop _ _ ih => exact ih fun s hs => hplain s (List.mem_cons_of_mem _ hs)
  | @catchAll s name segments parts names hs _ ih =>
      have hrest := ih fun s hs => hplain s (List.mem_cons_of_mem _ hs)
      have hstar : EndsWord (lit "*" ++ parts.flatMap (slash :: ·)) :=
        endsWord_cons (by decide) _
      rw [List.flatMap_cons, List.cons_append, paramNames_cons (by decide) (by decide),
        List.append_assoc, paramNames_colon hs.1 hstar]
      exact congrArg (name :: ·) ((paramNames_cons (by decide) (by decide) _).trans hrest)
  | @dynamic s name segments parts names hs _ ih =>
      have hrest := ih fun s hs => hplain s (List.mem_cons_of_mem _ hs)
      rw [List.flatMap_cons, List.cons_append, paramNames_cons (by decide) (by decide),
        paramNames_colon hs.1 (endsWord_slashed parts), hrest]
  | static hs _ ih =>
      rw [List.forall_mem_cons] at hplain
      obtain ⟨hcolon, hbracket⟩ := hplain.1 hs
      rw [List.flatMap_cons, List.cons_append, paramNames_cons (by decide) (by decide),
        paramNames_append hcolon hbracket, ih hplain.2]

/-- Directories are lowered to a path and its parameters: groups and empty names are dropped, and
what is left is found in the path again. -/
theorem pathOfSegments_lowers (hsegments : ∀ s ∈ segments, slash ∉ s) :
    (∃ parts names, Lowers segments parts names) ∧
      ∀ parts names, Lowers segments parts names → IsPath (pathOfSegments segments) parts ∧
        ((∀ s ∈ segments, IsStatic s → CodePoint.ofChar ':' ∉ s ∧ CodePoint.ofChar '[' ∉ s) →
          paramNames (pathOfSegments segments) = names) := by
  refine ⟨exists_lowers segments, fun parts names h => ⟨h.isPath hsegments, fun hplain => ?_⟩⟩
  rw [pathOfSegments_eq, ← h.parts_eq, ← h.paramNames_eq hplain]
  by_cases hne : parts = []
  · subst hne
    rfl
  · rw [slashed_eq hne]

/-- The directories of a page for anything below a product. -/
def productSegments : List Text :=
  ["shop", "(public)", "", "[id]", "über-uns", "[[...rest]]"]

theorem pathOfSegments_lowers_product : (∀ s ∈ productSegments, slash ∉ s) ∧
    (∀ s ∈ productSegments, IsStatic s → CodePoint.ofChar ':' ∉ s ∧ CodePoint.ofChar '[' ∉ s) ∧
    Lowers productSegments ["shop", ":id", "über-uns", ":rest*"] ["id", "rest"] ∧
    IsPath (pathOfSegments productSegments) ["shop", ":id", "über-uns", ":rest*"] ∧
    paramNames (pathOfSegments productSegments) = [lit "id", lit "rest"] := by
  have hslash : ∀ s ∈ productSegments, slash ∉ s := by decide
  have hstays : ∀ s ∈ productSegments, lowerSegment s = some s →
      CodePoint.ofChar ':' ∉ s ∧ CodePoint.ofChar '[' ∉ s := by decide
  have hplain : ∀ s ∈ productSegments, IsStatic s →
      CodePoint.ofChar ':' ∉ s ∧ CodePoint.ofChar '[' ∉ s := fun s hs hstatic =>
    hstays s hs (lowerSegment_of_isStatic hstatic)
  have hrest : IsCatchAll (lit "[[...rest]]") (lit "rest") :=
    catchAllName?_eq_some_iff.1 (by decide)
  have hlowers : Lowers productSegments ["shop", ":id", "über-uns", ":rest*"] ["id", "rest"] :=
    .static (isStatic_of_head? rfl (by decide) (by decide)) <|
    .drop (.inr (isGroup_iff.1 (by decide))) <|
    .drop (.inl rfl) <|
    .dynamic (dynamicName?_eq_some_iff.1 (by decide)) <|
    .static (isStatic_of_head? rfl (by decide) (by decide)) <|
    .catchAll hrest .nil
  obtain ⟨hpath, hnames⟩ := (pathOfSegments_lowers hslash).2 _ _ hlowers
  exact ⟨hslash, hplain, hlowers, hpath, hnames hplain⟩

end HelpCenter.Route

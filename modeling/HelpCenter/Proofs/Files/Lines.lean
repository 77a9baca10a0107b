import HelpCenter.Proofs.Files.Braces
import HelpCenter.Proofs.Text.Trim

/-!
# Lines of patterns

A pattern is tidied, which is to say trimmed and freed from a `./` at its front, before its
alternatives are written out, and the alternatives are not tidied again.  So an alternative in a
group is not always read as it is read when the whole pattern is written out beforehand.  What is
said here is just when the two readings agree.  An alternative must not end in a backslash and a
blank, and unless the pattern itself begins with `./` it must not begin with `./` or a blank.

Tidying takes away only what stands around the alternatives, and this holds no brace.  Therefore a
pattern's alternatives are those of the tidied pattern with the same text around each of them
(`Globs.exists_around`), and the readings can be compared line by line.
-/

namespace HelpCenter

open Text

namespace Glob

variable {s t u head inside tail : Text}

/-! ## Expansion between texts without braces -/

theorem splitAtBraces?_append_left (hs : IsBraceless s) (t : Text) :
    splitAtBraces? (s ++ t) =
      (splitAtBraces? t).map fun (head, rest) => (s ++ head, rest) := by
  induction s with
  | nil => simp
  | cons c s ih =>
      obtain ⟨hc, hs⟩ := List.forall_mem_cons.1 hs
      rw [List.cons_append, splitAtBraces?_cons, ih hs, Option.map_map]
      · rfl
      · intro inside tail _ heq
        exact (isBrace_eq_false_iff.1 hc).1 (List.cons.inj heq).1

theorem splitAtBraces?_append_right (hu : IsBraceless u) (t : Text) :
    splitAtBraces? (t ++ u) =
      (splitAtBraces? t).map fun (head, inside, tail) => (head, inside, tail ++ u) := by
  induction t with
  | nil => exact splitAtBraces?_of_isBraceless hu
  | cons c t ih =>
      -- A group at the front stays the first one, and no group comes up that reaches into `u`.
      by_cases hgroup : ∃ inside tail, IsBraceless inside ∧
          c :: t = opening :: (inside ++ closing :: tail)
      · obtain ⟨inside, tail, hinside, heq⟩ := hgroup
        rw [heq, splitAtBraces?_group hinside, List.cons_append, List.append_assoc,
          List.cons_append, splitAtBraces?_group hinside]
        rfl
      · push Not at hgroup
        rw [List.cons_append, splitAtBraces?_cons, ih, splitAtBraces?_cons hgroup]
        · cases splitAtBraces? t <;> rfl
        · intro inside tail hinside heq
          obtain ⟨hc, heq⟩ := List.cons.inj (show c :: (t ++ u) = _ from heq)
          rcases List.append_eq_append_iff.1 heq with ⟨more, -, hmore⟩ | ⟨more, rfl, hmore⟩
          · exact hu.closing_notMem (hmore ▸ List.mem_append_right _ List.mem_cons_self)
          · cases more with
            | nil =>
                exact hu.closing_notMem
                  ((show closing :: tail = u from hmore) ▸ List.mem_cons_self)
            | cons d more =>
                obtain ⟨rfl, -⟩ := List.cons.inj hmore
                exact hgroup inside more hinside (congrArg (· :: _) hc)

theorem expandBraces_between (hs : IsBraceless s) (hu : IsBraceless u) (t : Text) :
    expandBraces (s ++ t ++ u) = (expandBraces t).map fun line => s ++ line ++ u := by
  induction t using wellFounded_step.induction with
  | _ t ih =>
      rw [expandBraces_eq t, expandBraces_eq (s ++ t ++ u), List.append_assoc,
        splitAtBraces?_append_left hs, splitAtBraces?_append_right hu]
      cases hsplit : splitAtBraces? t with
      | none => simp
      | some parts =>
          obtain ⟨head, inside, tail⟩ := parts
          simp only [Option.map_some, List.map_flatMap]
          refine List.flatMap_congr fun alternative hmem => ?_
          rw [← ih _ (.choose hsplit hmem)]
          simp only [List.append_assoc]

theorem expandBraces_of_not_holdsGroup (h : ¬ HoldsGroup t) : expandBraces t = [t] := by
  rw [expandBraces_eq, splitAtBraces?_eq_none_iff.2 h]

theorem HoldsGroup.between (h : HoldsGroup t) (s u : Text) : HoldsGroup (s ++ t ++ u) := by
  obtain ⟨head, inside, tail, hinside, rfl⟩ := h
  exact ⟨s ++ head, inside, tail ++ u, hinside, by simp⟩

theorem isBraceless_of_isBlank (h : isBlank t = true) : IsBraceless t := by
  intro c hc
  refine isBrace_eq_false_iff.2 ⟨?_, ?_⟩ <;> rintro rfl
  all_goals exact absurd (isBlank_iff.1 h _ hc) (by decide)

/-! ## What is read of a line -/

/-- What is read of a line: blanks at its end count only where a backslash stands before them. -/
def lineRead (line : Text) : Text :=
  if endsWith line (lit "\\ ") then line else trimRight line

theorem lineRead_lineRead (line : Text) : lineRead (lineRead line) = lineRead line := by
  unfold lineRead
  by_cases h : endsWith line (lit "\\ ") = true
  · simp only [if_pos h]
  · simp only [if_neg h, trimRight_trimRight, ite_self]

theorem read?_lineRead (line : Text) : read? (lineRead line) = read? line := by
  have h := lineRead_lineRead line
  unfold lineRead at h
  unfold read? lineRead
  dsimp only
  rw [h]

end Glob

namespace Globs

open Glob

variable {pattern line : Text} {patterns : List Text}

/-- A pattern as its alternatives are written out: trimmed and without `./` at its front. -/
def tidied (pattern : Text) : Text := (afterPrefix? (lit "./") (trim pattern)).getD (trim pattern)

theorem linesOf_eq (pattern : Text) : linesOf pattern =
    if (tidied pattern).isEmpty then [] else expandBraces (tidied pattern) := rfl

/-- What is read of the lines of patterns, without lines that say nothing. -/
def linesRead (patterns : List Text) : List Text :=
  ((patterns.flatMap linesOf).map lineRead).filter (· ≠ [])

/-- Reads lines. -/
def readLines (lines : List Text) : Except Failure Globs := do
  return (← lines.mapM read?).filterMap id

theorem readLines_cons (line : Text) (lines : List Text) : readLines (line :: lines) = do
    let g ← read? line
    let gs ← readLines lines
    return g.toList ++ gs := by
  unfold readLines
  rw [List.mapM_cons]
  simp only [bind_assoc, pure_bind]
  refine bind_congr fun g => bind_congr fun gs => congrArg pure ?_
  cases g <;> rfl

/-- Lines are known by what is read of them. -/
theorem readLines_lineRead (lines : List Text) :
    readLines ((lines.map lineRead).filter (· ≠ [])) = readLines lines := by
  induction lines with
  | nil => rfl
  | cons line lines ih =>
      rw [List.map_cons, readLines_cons, ← ih]
      by_cases h : lineRead line = []
      · rw [List.filter_cons_of_neg (by simpa using h), ← read?_lineRead, h]
        exact (bind_pure _).symm
      · rw [List.filter_cons_of_pos (by simpa using h), readLines_cons, read?_lineRead]

theorem read_eq (patterns : List Text) : read patterns = readLines (linesRead patterns) :=
  (readLines_lineRead _).symm

/-! ## Alternatives on their own -/

/-- The line that an alternative of a pattern gives when it stands with what is around the braces as
a pattern of its own. -/
def alone (pattern line : Text) : Text :=
  if startsWith (trim pattern) (lit "./") then trimRight line else tidied line

theorem trimRight_dotSlash (t : Text) : trimRight (lit "./" ++ t) = lit "./" ++ trimRight t :=
  trimRight_append (c := '/') (by decide) (lit ".") t

theorem trim_dotSlash (t : Text) : trim (lit "./" ++ t) = lit "./" ++ trimRight t := by
  rw [← trimRight_dotSlash]
  exact congrArg trimRight (trimLeft_append (c := '.') (by decide) [] (lit "/" ++ t))

theorem tidied_eq_of_startsWith {rest : Text} (h : trim pattern = lit "./" ++ rest) :
    tidied pattern = rest := by
  rw [tidied, h, afterPrefix?_append, Option.getD_some]

theorem tidied_eq_trim (h : startsWith (trim pattern) (lit "./") = false) :
    tidied pattern = trim pattern := by
  have hnone : afterPrefix? (lit "./") (trim pattern) = none :=
    Option.isNone_iff_eq_none.1 (Option.isSome_eq_false_iff.1 h)
  rw [tidied, hnone, Option.getD_none]

theorem tidied_suffix (pattern : Text) : tidied pattern <:+ trim pattern := by
  by_cases h : startsWith (trim pattern) (lit "./") = true
  · obtain ⟨rest, hrest⟩ := Option.isSome_iff_exists.1 h
    have htrim := eq_append_of_afterPrefix? hrest
    rw [tidied_eq_of_startsWith htrim, htrim]
    exact List.suffix_append ..
  · rw [tidied_eq_trim (Bool.not_eq_true _ ▸ h)]

/-- What stands around a pattern when it is tidied has no part in its expansion. -/
theorem exists_around (pattern : Text) : ∃ before after, IsBraceless before ∧ IsBraceless after ∧
    pattern = before ++ tidied pattern ++ after ∧
    ∀ line, tidied (before ++ line ++ after) = alone pattern line := by
  obtain ⟨left, right, hleft, hright, hpattern⟩ := exists_eq_trim pattern
  by_cases h : startsWith (trim pattern) (lit "./") = true
  · obtain ⟨rest, hrest⟩ := Option.isSome_iff_exists.1 h
    have htrim := eq_append_of_afterPrefix? hrest
    refine ⟨left ++ lit "./", right,
      isBraceless_append.2 ⟨isBraceless_of_isBlank hleft, by decide⟩,
      isBraceless_of_isBlank hright, ?_, fun line => ?_⟩
    · rw [tidied_eq_of_startsWith htrim, List.append_assoc left, ← htrim, ← hpattern]
    · have hline : trim (left ++ lit "./" ++ line ++ right) = lit "./" ++ trimRight line := by
        rw [List.append_assoc left, trim_between hleft hright, trim_dotSlash]
      rw [alone, if_pos h, tidied_eq_of_startsWith hline]
  · rw [Bool.not_eq_true] at h
    refine ⟨left, right, isBraceless_of_isBlank hleft, isBraceless_of_isBlank hright, ?_,
      fun line => ?_⟩
    · rw [tidied_eq_trim h, ← hpattern]
    · rw [alone, h, if_neg Bool.false_ne_true, tidied, trim_between hleft hright, tidied]

theorem not_holdsGroup_alone (h : ¬ HoldsGroup line) : ¬ HoldsGroup (alone pattern line) := by
  unfold alone
  split
  · obtain ⟨rest, hrest⟩ := List.rdropWhile_prefix CodePoint.isBlank line
    exact fun hgroup => h (hrest ▸ HoldsGroup.between hgroup [] rest)
  · obtain ⟨before, after, -, -, hline, -⟩ := exists_around line
    exact fun hgroup => h (hline ▸ hgroup.between before after)

theorem trimRight_tidied (line : Text) : trimRight (tidied line) = tidied line := by
  by_cases h : startsWith (trim line) (lit "./") = true
  · obtain ⟨rest, hrest⟩ := Option.isSome_iff_exists.1 h
    have htrim := eq_append_of_afterPrefix? hrest
    have hright := trimRight_trim line
    rw [htrim, trimRight_dotSlash] at hright
    rw [tidied_eq_of_startsWith htrim]
    exact List.append_cancel_left hright
  · rw [tidied_eq_trim (Bool.not_eq_true _ ▸ h), trimRight_trim]

theorem trimRight_alone (pattern line : Text) :
    trimRight (alone pattern line) = alone pattern line := by
  unfold alone
  split
  · exact trimRight_trimRight line
  · exact trimRight_tidied line

theorem lineRead_of_trimRight (h : trimRight line = line) : lineRead line = line := by
  rw [lineRead, h, ite_self]

theorem flatMap_linesOf (pattern : Text) : (expandBraces pattern).flatMap linesOf =
    ((expandBraces (tidied pattern)).map (alone pattern)).filter (· ≠ []) := by
  obtain ⟨before, after, hbefore, hafter, hpattern, halone⟩ := exists_around pattern
  have hlines : expandBraces pattern =
      (expandBraces (tidied pattern)).map fun line => before ++ line ++ after := by
    nth_rewrite 1 [hpattern]
    exact expandBraces_between hbefore hafter _
  have hlinesOf : ∀ line ∈ expandBraces (tidied pattern), linesOf (before ++ line ++ after) =
      if alone pattern line ≠ [] then [alone pattern line] else [] := by
    intro line hline
    rw [linesOf_eq, halone,
      expandBraces_of_not_holdsGroup (not_holdsGroup_alone (not_holdsGroup_of_mem hline))]
    by_cases h : alone pattern line = [] <;> simp [h]
  rw [hlines, List.flatMap_map, List.flatMap_congr hlinesOf]
  induction expandBraces (tidied pattern) with
  | nil => rfl
  | cons line lines ih => by_cases h : alone pattern line = [] <;> simpa [h] using ih

/-! ## Rows of lines -/

/-- The alternatives of patterns, with the patterns that they are of. -/
def alternatives (patterns : List Text) : List (Text × Text) :=
  patterns.flatMap fun pattern => (expandBraces (tidied pattern)).map fun line => (pattern, line)

theorem mem_alternatives {x : Text × Text} : x ∈ alternatives patterns ↔
    x.1 ∈ patterns ∧ x.2 ∈ expandBraces (tidied x.1) := by
  constructor
  · intro h
    obtain ⟨pattern, hpattern, h⟩ := List.mem_flatMap.1 h
    obtain ⟨line, hline, rfl⟩ := List.mem_map.1 h
    exact ⟨hpattern, hline⟩
  · rintro ⟨hpattern, hline⟩
    exact List.mem_flatMap.2 ⟨x.1, hpattern, List.mem_map.2 ⟨x.2, hline, rfl⟩⟩

theorem linesRead_eq (patterns : List Text) : linesRead patterns =
    ((alternatives patterns).map fun x => lineRead x.2).filter (· ≠ []) := by
  unfold linesRead alternatives
  induction patterns with
  | nil => rfl
  | cons pattern patterns ih =>
      rw [List.flatMap_cons, List.flatMap_cons, List.map_append, List.map_append,
        List.filter_append, List.filter_append, ih, linesOf_eq, List.map_map]
      refine congrArg (· ++ _) ?_
      by_cases h : tidied pattern = []
      · rw [h]
        rfl
      · rw [if_neg (by simpa using h)]
        rfl

theorem linesRead_expanded (patterns : List Text) : linesRead (patterns.flatMap expandBraces) =
    ((alternatives patterns).map fun x => alone x.1 x.2).filter (· ≠ []) := by
  unfold linesRead alternatives
  induction patterns with
  | nil => rfl
  | cons pattern patterns ih =>
      rw [List.flatMap_cons, List.flatMap_append, List.flatMap_cons, List.map_append,
        List.map_append, List.filter_append, List.filter_append, ih, flatMap_linesOf, List.map_map]
      have hread : (((expandBraces (tidied pattern)).map (alone pattern)).filter (· ≠ [])).map
          lineRead = ((expandBraces (tidied pattern)).map (alone pattern)).filter (· ≠ []) := by
        refine (List.map_congr_left fun line hline => ?_).trans (List.map_id _)
        obtain ⟨alternative, -, rfl⟩ := List.mem_map.1 (List.mem_filter.1 hline).1
        exact lineRead_of_trimRight (trimRight_alone pattern alternative)
      rw [hread, List.filter_filter]
      simp only [Bool.and_self]
      rfl

/-- Two rows of texts, the second of which is silent where the first one is, agree in what they
say only if they agree everywhere. -/
theorem filter_map_eq_iff {α : Type} {xs : List α} {f g : α → Text}
    (h : ∀ x ∈ xs, f x = [] → g x = []) :
    (xs.map g).filter (· ≠ []) = (xs.map f).filter (· ≠ []) ↔ ∀ x ∈ xs, g x = f x := by
  induction xs with
  | nil => simp
  | cons x xs ih =>
      rw [List.forall_mem_cons] at h
      -- What the second row leaves out is never made up for, since it says nothing more often.
      have hlength : ((xs.map g).filter (· ≠ [])).length ≤ ((xs.map f).filter (· ≠ [])).length := by
        rw [← List.countP_eq_length_filter, ← List.countP_eq_length_filter, List.countP_map,
          List.countP_map]
        exact List.countP_mono_left fun y hy hg => by
          simpa using mt (h.2 y hy) (by simpa using hg)
      rw [List.forall_mem_cons, List.map_cons, List.map_cons]
      by_cases hf : f x = []
      · rw [List.filter_cons_of_neg (by simpa using h.1 hf),
          List.filter_cons_of_neg (by simpa using hf), ih h.2, h.1 hf, hf]
        exact (and_iff_right rfl).symm
      · rw [List.filter_cons_of_pos (a := f x) (by simpa using hf)]
        by_cases hg : g x = []
        · rw [List.filter_cons_of_neg (by simpa using hg)]
          refine iff_of_false (fun heq => ?_) fun ⟨heq, _⟩ => hf (heq ▸ hg)
          have := congrArg List.length heq
          rw [List.length_cons] at this
          omega
        · rw [List.filter_cons_of_pos (by simpa using hg), List.cons.injEq, ih h.2]

/-! ## Alternatives that are read alike -/

/-- An alternative is read alike in its group and on its own. -/
def ReadsAlike (pattern line : Text) : Prop :=
  ¬ lit "\\ " <:+ line ∧ (lit "./" <+: trim pattern ∨ isBlank line = true ∨
    (∀ c ∈ line.head?, c.isBlank = false) ∧ ¬ lit "./" <+: line)

/-- A line that ends in a blank is not trimmed. -/
theorem trimRight_ne_of_suffix (h : lit "\\ " <:+ line) : trimRight line ≠ line := by
  obtain ⟨front, rfl⟩ := h
  intro heq
  have hlength := congrArg List.length heq
  have hblank : isBlank (lit " ") = true := by decide
  have hone : (lit " ").length = 1 := by decide
  rw [show front ++ lit "\\ " = (front ++ lit "\\") ++ lit " " by simp [lit, Text.ofString],
    trimRight_append_of_isBlank hblank, List.length_append, hone] at hlength
  have hle : (trimRight (front ++ lit "\\")).length ≤ (front ++ lit "\\").length :=
    (List.rdropWhile_prefix CodePoint.isBlank _).length_le
  omega

theorem tidied_eq_trimRight_iff : tidied line = trimRight line ↔
    isBlank line = true ∨ (∀ c ∈ line.head?, c.isBlank = false) ∧ ¬ lit "./" <+: line := by
  constructor
  · intro h
    refine or_iff_not_imp_left.2 fun hblank => ?_
    -- Blanks at the front, like a `./`, would make the tidied line the shorter one.
    obtain ⟨a, c, b, ha, hc, rfl⟩ := exists_eq_append_of_not_isBlank hblank
    have htrim : trim (a ++ c :: b) = c :: trimRight b := by
      rw [trim, trimBy]
      show trimRight (trimLeft (a ++ c :: b)) = _
      rw [trimLeft_append hc, trimLeft_of_isBlank ha]
      exact trimRight_append hc [] b
    have hright : trimRight (a ++ c :: b) = a ++ c :: trimRight b := trimRight_append hc a b
    have hle := (tidied_suffix (a ++ c :: b)).length_le
    rw [h, hright, htrim, List.length_append] at hle
    have hzero : a.length = 0 := by omega
    obtain rfl := List.length_eq_zero_iff.1 hzero
    refine ⟨fun d hd => Option.some.inj hd ▸ hc, ?_⟩
    rintro ⟨rest, hrest⟩
    rw [List.nil_append] at hrest h
    rw [← hrest, tidied_eq_of_startsWith (trim_dotSlash rest), trimRight_dotSlash] at h
    have hlength := congrArg List.length h
    rw [List.length_append] at hlength
    have htwo : (lit "./").length = 2 := by decide
    omega
  · rintro (hblank | ⟨hhead, hdot⟩)
    · rw [tidied, trim_of_isBlank hblank, trimRight_of_isBlank hblank]
      rfl
    · have hleft : trimLeft line = line := by
        cases line with
        | nil => rfl
        | cons c line => exact List.dropWhile_cons_of_neg (by simp [hhead c rfl])
      have htrim : trim line = trimRight line := congrArg trimRight hleft
      have hprefix : trimRight line <+: line := List.rdropWhile_prefix CodePoint.isBlank line
      have hstarts : startsWith (trim line) (lit "./") = false := by
        rw [← Bool.not_eq_true, startsWith_iff, htrim]
        exact fun h => hdot (h.trans hprefix)
      rw [tidied_eq_trim hstarts, htrim]

theorem alone_eq_lineRead_iff : alone pattern line = lineRead line ↔ ReadsAlike pattern line := by
  unfold ReadsAlike
  by_cases hback : lit "\\ " <:+ line
  · refine iff_of_false (fun heq => ?_) fun h => h.1 hback
    rw [lineRead, if_pos (endsWith_iff.2 hback)] at heq
    exact trimRight_ne_of_suffix hback (heq ▸ trimRight_alone pattern line)
  · rw [lineRead, if_neg (mt endsWith_iff.1 hback), alone]
    split
    · next h => exact iff_of_true rfl ⟨hback, .inl (startsWith_iff.1 h)⟩
    · next h =>
      rw [tidied_eq_trimRight_iff, and_iff_right hback, or_iff_right (mt startsWith_iff.2 h)]

/-- A line that says nothing in a group says nothing on its own. -/
theorem alone_eq_nil_of_lineRead (h : lineRead line = []) : alone pattern line = [] := by
  have hright : trimRight line = [] := by
    by_cases hback : endsWith line (lit "\\ ") = true
    · rw [lineRead, if_pos hback] at h
      rw [h]
      rfl
    · rwa [lineRead, if_neg hback] at h
  have hblank : isBlank line = true := by
    by_contra hblank
    obtain ⟨a, c, b, -, hc, rfl⟩ := exists_eq_append_of_not_isBlank hblank
    rw [trimRight_append hc] at hright
    simp at hright
  unfold alone
  split
  · exact hright
  · exact (tidied_eq_trimRight_iff.2 (.inl hblank)).trans hright

/-- Patterns and their written-out alternatives are read as the same lines just if each alternative
is read alike in its group and on its own, and then they choose the same files. -/
theorem chooses_expanded (patterns : List Text) :
    (linesRead (patterns.flatMap expandBraces) = linesRead patterns ↔
      ∀ pattern ∈ patterns, ∀ line ∈ expandBraces (tidied pattern), ReadsAlike pattern line) ∧
    ((∀ pattern ∈ patterns, ∀ line ∈ expandBraces (tidied pattern), ReadsAlike pattern line) →
      ∀ file, (read (patterns.flatMap expandBraces)).map (chooses · file) =
        (read patterns).map (chooses · file)) := by
  have hlines : linesRead (patterns.flatMap expandBraces) = linesRead patterns ↔
      ∀ pattern ∈ patterns, ∀ line ∈ expandBraces (tidied pattern), ReadsAlike pattern line := by
    rw [linesRead_expanded, linesRead_eq, filter_map_eq_iff]
    · exact ⟨fun h pattern hpattern line hline =>
          alone_eq_lineRead_iff.1 (h (pattern, line) (mem_alternatives.2 ⟨hpattern, hline⟩)),
        fun h x hx => alone_eq_lineRead_iff.2 (h _ (mem_alternatives.1 hx).1 _
          (mem_alternatives.1 hx).2)⟩
    · exact fun _ _ => alone_eq_nil_of_lineRead
  refine ⟨hlines, fun h file => ?_⟩
  rw [read_eq, read_eq, hlines.2 h]

/-- Two directories written with a brace group, and a group behind a blank at the front. -/
def groupedPatterns : List Text :=
  [lit "./\x7bsrc,lib\x7d/**/*.ts", lit " \x7bapp,pages\x7d/*.\x7bjs,jsx\x7d"]

theorem chooses_expanded_groupedPatterns :
    (∀ pattern ∈ groupedPatterns, ∀ line ∈ expandBraces (tidied pattern),
      ReadsAlike pattern line) ∧
    linesRead (groupedPatterns.flatMap expandBraces) = linesRead groupedPatterns ∧
    (read (groupedPatterns.flatMap expandBraces)).map (chooses · (lit "pages/a.jsx")) =
      (read groupedPatterns).map (chooses · (lit "pages/a.jsx")) := by
  have h : ∀ pattern ∈ groupedPatterns, ∀ line ∈ expandBraces (tidied pattern),
      ReadsAlike pattern line := by
    unfold ReadsAlike
    decide +kernel
  obtain ⟨hlines, hsame⟩ := chooses_expanded groupedPatterns
  exact ⟨h, hlines.2 h, hsame h _⟩

/-- A group whose first alternative begins with `./`. -/
def dottedGroup : List Text := [lit "\x7b./a,b\x7d"]

theorem chooses_dottedGroup :
    (read (dottedGroup.flatMap expandBraces)).map (chooses · (lit "a")) = .ok true ∧
    (read dottedGroup).map (chooses · (lit "a")) = .ok false := by
  decide +kernel

/-- What stands at the front of an alternative is not taken away inside the group. -/
theorem not_chooses_expanded_dottedGroup : ¬ ∀ (patterns : List Text) (file : Text),
    (read (patterns.flatMap expandBraces)).map (chooses · file) =
      (read patterns).map (chooses · file) := by
  intro h
  obtain ⟨halone, hgroup⟩ := chooses_dottedGroup
  have hsame := h dottedGroup (lit "a")
  rw [halone, hgroup] at hsame
  exact absurd hsame (by decide)

end Globs

end HelpCenter

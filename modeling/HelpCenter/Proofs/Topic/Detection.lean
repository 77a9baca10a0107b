import HelpCenter.Proofs.Pattern.Search
import HelpCenter.Topic.Detection

/-!
# Evidence in one source

A source shows a topic if one of the topic's patterns matches in its path, be it with nothing, or
takes something of its text (`map_id_detectFeatures`).  Its evidence is what each pattern finds in
turn: first the pattern's own source for the path, then each part of the text that the pattern takes,
at the line that the line feeds in front of it tell (`located_of_mem_detectFeatures`).  Little of the
evidence may be kept, but all of it counts for the confidence.
-/

namespace HelpCenter

variable {c : Catalog} {t : Topic} {path text : Text}

/-! ## Lines -/

/-- In front of `k` the numbers are at most `x`, and from there on they exceed it. -/
def Topic.IsBoundary (numbers : Array ℕ) (x : ℤ) (k : ℕ) : Prop :=
  k ≤ numbers.size ∧ (∀ j (h : j < numbers.size), j < k → (numbers[j] : ℤ) ≤ x) ∧
    ∀ j (h : j < numbers.size), k ≤ j → x < (numbers[j] : ℤ)

/-- Halving keeps the boundary between `lo` and `hi`. -/
theorem Topic.isBoundary_countUpTo {numbers : Array ℕ} {x : ℤ}
    (hsorted : numbers.Pairwise (· < ·)) {fuel lo hi : ℕ} (hfuel : hi - lo ≤ fuel) (hle : lo ≤ hi)
    (hhi : hi ≤ numbers.size) (hbefore : ∀ j (h : j < numbers.size), j < lo → (numbers[j] : ℤ) ≤ x)
    (hbehind : ∀ j (h : j < numbers.size), hi ≤ j → x < (numbers[j] : ℤ)) :
    IsBoundary numbers x (countUpTo numbers x fuel lo hi) := by
  induction fuel generalizing lo hi with
  | zero =>
      obtain rfl : lo = hi := by omega
      exact ⟨hhi, hbefore, hbehind⟩
  | succ fuel ih =>
      rw [countUpTo]
      split
      · have hmid : (lo + hi) / 2 < numbers.size := by omega
        have hmono {i j : ℕ} (hij : i ≤ j) (hj : j < numbers.size) : numbers[i] ≤ numbers[j] := by
          rcases hij.eq_or_lt with rfl | hlt
          · exact le_rfl
          · exact (Array.pairwise_iff_getElem.1 hsorted i j (by omega) hj hlt).le
        dsimp only
        rw [Array.getElem?_eq_getElem hmid, Option.getD_some]
        split
        · next hx =>
            refine ih (by omega) (by omega) hmid.le hbefore fun j h hj => hx.trans_le ?_
            exact_mod_cast hmono hj h
        · next hx =>
            refine ih (by omega) (by omega) hhi (fun j h hj => ?_) hbehind
            refine le_trans ?_ (not_lt.1 hx)
            exact_mod_cast hmono (Nat.lt_succ_iff.1 hj) hmid
      · obtain rfl : lo = hi := by omega
        exact ⟨hhi, hbefore, hbehind⟩

theorem Topic.IsBoundary.countP_eq {numbers : Array ℕ} {x : ℤ} {k : ℕ}
    (h : IsBoundary numbers x k) : numbers.toList.countP (fun n : ℕ => (n : ℤ) ≤ x) = k := by
  obtain ⟨hk, hbefore, hbehind⟩ := h
  rw [← List.take_append_drop k numbers.toList, List.countP_append, List.countP_eq_length.2,
    List.countP_eq_zero.2, List.length_take, Array.length_toList, Nat.add_zero, min_eq_left hk]
  · intro n hn
    obtain ⟨j, hj, rfl⟩ := List.mem_drop_iff_getElem.1 hn
    simpa using hbehind (k + j) (by rwa [Nat.add_comm]) (Nat.le_add_right k j)
  · intro n hn
    obtain ⟨j, hj, rfl⟩ := List.mem_take_iff_getElem.1 hn
    simpa using hbefore j (hj.trans_le (min_le_right _ _)) (hj.trans_le (min_le_left _ _))

theorem Topic.pairwise_lineBreaks (text : Text) : (lineBreaks text).Pairwise (· < ·) := by
  have hplaces : (text.zipIdx.map (·.2)).Pairwise (· < ·) := by
    rw [List.zipIdx_map_snd]
    exact List.pairwise_lt_range'
  exact hplaces.sublist (List.filter_sublist.map _)

theorem Topic.countP_zipIdx (text : Text) (start place : ℕ) :
    (text.zipIdx start).countP (fun x => x.2 < start + place && x.1.is '\n') =
      (text.take place).countP (CodePoint.is '\n') := by
  induction text generalizing start place with
  | nil => simp
  | cons c text ih =>
      cases place with
      | zero =>
          refine List.countP_eq_zero.2 fun x hx => ?_
          simp [(List.le_snd_of_mem_zipIdx hx).not_gt]
      | succ place =>
          have hrest := ih (start + 1) place
          rw [show start + 1 + place = start + (place + 1) by omega] at hrest
          rw [List.zipIdx_cons, List.countP_cons, hrest, List.take_succ_cons, List.countP_cons]
          simp

/-- The line feeds in front of a place are the numbers below it. -/
theorem Topic.countP_lineBreaks (text : Text) (place : ℕ) :
    (lineBreaks text).toList.countP (fun n : ℕ => (n : ℤ) ≤ (place : ℤ) - 1) =
      (text.take place).count ('\n' : CodePoint) := by
  unfold lineBreaks
  rw [List.countP_map, List.countP_filter]
  refine Eq.trans (List.countP_congr fun x _ => ?_) (countP_zipIdx text 0 place)
  simp only [Function.comp_apply, Bool.and_eq_true, decide_eq_true_eq]
  refine and_congr_left' ?_
  omega

/-- The line of a place is told by the line feeds in front of it. -/
theorem Topic.lineAt_lineBreaks (text : Text) (place : ℕ) :
    lineAt (lineBreaks text) place = 1 + (text.take place).count ('\n' : CodePoint) := by
  have hboundary : IsBoundary (lineBreaks text) ((place : ℤ) - 1) _ :=
    isBoundary_countUpTo (pairwise_lineBreaks text) (Nat.sub_zero _).le (Nat.zero_le _) le_rfl
      (fun j h hj => absurd hj (Nat.not_lt_zero j)) (fun j h hj => absurd h hj.not_gt)
  rw [lineAt, ← hboundary.countP_eq, countP_lineBreaks, Nat.add_comm]

/-! ## The evidence of a pattern -/

/-- The evidence that a pattern gives, with the parts that it takes of the text: its own source for
the path, and each part at its line. -/
def CompiledPattern.hits (p : CompiledPattern) (path text : Text) (parts : List (ℕ × ℕ)) :
    List Evidence :=
  (if p.Occurs path.toArray then [⟨p.source, path, 1⟩] else []) ++
    parts.map fun part =>
      ⟨(text.drop part.1).take (part.2 - part.1), path,
        (1 + (text.take part.1).count ('\n' : CodePoint) : ℕ)⟩

theorem Topic.evidenceOf_eq {p : CompiledPattern} {parts : List (ℕ × ℕ)}
    (h : p.Spans text.toArray 0 parts) :
    evidenceOf path text.toArray (lineBreaks text) p = p.hits path text parts := by
  obtain rfl := h.unique CompiledPattern.spans_allMatches
  unfold evidenceOf CompiledPattern.hits
  simp only [CompiledPattern.matchesIn_iff, lineAt_lineBreaks, Array.toList_extract]
  congr 1
  rw [← List.filterMap_eq_map, List.filterMap_filter]
  refine List.filterMap_congr fun part _ => ?_
  by_cases hempty : part.1 = part.2
  · simp [hempty]
  · simp [hempty]

theorem Topic.evidenceOf_ne_nil_iff {text : Array CodePoint} {breaks : Array ℕ}
    {p : CompiledPattern} : evidenceOf path text breaks p ≠ [] ↔
      p.matchesIn path = true ∨ ∃ found ∈ p.allMatches text, found.1 ≠ found.2 := by
  unfold evidenceOf
  by_cases hpath : p.matchesIn path = true
  · simp [hpath]
  · simp [hpath, List.filterMap_eq_nil_iff]

theorem Topic.sourceFile_of_mem_evidenceOf {text : Array CodePoint} {breaks : Array ℕ}
    {p : CompiledPattern} {e : Evidence} (he : e ∈ evidenceOf path text breaks p) :
    e.sourceFile = path := by
  rcases List.mem_append.1 he with he | he
  · split at he
    · rw [List.mem_singleton.1 he]
    · cases he
  · obtain ⟨⟨first, behind⟩, -, he⟩ := List.mem_filterMap.1 he
    dsimp only at he
    split at he
    · cases he
    · rw [← Option.some.inj he]

/-! ## The evidence of a topic -/

/-- All evidence of a topic in a source. -/
def Topic.evidenceIn (t : Topic) (path text : Text) : List Evidence :=
  t.patterns.flatMap (evidenceOf path text.toArray (lineBreaks text))

theorem Topic.evidenceIn_eq {parts : List (List (ℕ × ℕ))}
    (h : t.patterns.Forall₂ (fun p parts => p.Spans text.toArray 0 parts) parts) :
    t.evidenceIn path text =
      (t.patterns.zipWith (fun p parts => p.hits path text parts) parts).flatten := by
  unfold evidenceIn
  generalize t.patterns = patterns at h ⊢
  induction h with
  | nil => rfl
  | cons hspans _ ih =>
      rw [List.flatMap_cons, ih, evidenceOf_eq hspans, List.zipWith_cons_cons, List.flatten_cons]

theorem Topic.evidenceIn_ne_nil_iff : t.evidenceIn path text ≠ [] ↔
    ∃ p ∈ t.patterns, p.matchesIn path = true ∨
      ∃ found ∈ p.allMatches text.toArray, found.1 ≠ found.2 := by
  simp only [evidenceIn, Ne, List.flatMap_eq_nil_iff, not_forall, exists_prop]
  simp only [← Ne.eq_def, evidenceOf_ne_nil_iff]

/-- A pattern of the topic matches in the path, if only with nothing, or takes something of the
text. -/
def Topic.IsShownBy (t : Topic) (path text : Text) : Prop :=
  ∃ p ∈ t.patterns, p.Occurs path.toArray ∨ p.Takes text.toArray

/-- A pattern of the topic takes something of the path or of the text. -/
def Topic.TakesOf (t : Topic) (path text : Text) : Prop :=
  ∃ p ∈ t.patterns, p.Takes path.toArray ∨ p.Takes text.toArray

instance (t : Topic) (path text : Text) : Decidable (t.IsShownBy path text) := by
  unfold Topic.IsShownBy; infer_instance

instance (t : Topic) (path text : Text) : Decidable (t.TakesOf path text) := by
  unfold Topic.TakesOf; infer_instance

theorem Topic.isShownBy_iff : t.IsShownBy path text ↔ t.evidenceIn path text ≠ [] := by
  simp only [evidenceIn_ne_nil_iff, CompiledPattern.matchesIn_iff, IsShownBy,
    CompiledPattern.takes_iff_allMatches]

theorem Topic.TakesOf.isShownBy (h : t.TakesOf path text) : t.IsShownBy path text := by
  obtain ⟨p, hp, htakes⟩ := h
  exact ⟨p, hp, htakes.imp_left CompiledPattern.Takes.occurs⟩

/-! ## The features of a source -/

/-- The feature that the evidence of a topic makes. -/
def Topic.featureIn (t : Topic) (path text : Text) : Feature where
  id := t.id
  confidence := boosted t.confidence (t.evidenceIn path text).length
  evidence := (t.evidenceIn path text).take maxEvidence

theorem detectFeatures_eq : detectFeatures c path text =
    (c.filter fun t => t.IsShownBy path text).map fun t => t.featureIn path text := by
  rw [← List.filterMap_eq_map, List.filterMap_filter]
  refine List.filterMap_congr fun t _ => ?_
  show (if (t.evidenceIn path text).isEmpty then none else some (t.featureIn path text)) = _
  by_cases h : t.evidenceIn path text = []
  · simp [h, Topic.isShownBy_iff]
  · simp [h, Topic.isShownBy_iff]

theorem mem_detectFeatures_iff {f : Feature} : f ∈ detectFeatures c path text ↔
    ∃ t ∈ c, t.evidenceIn path text ≠ [] ∧ f = t.featureIn path text := by
  simp only [detectFeatures_eq, List.mem_map, List.mem_filter, decide_eq_true_eq,
    Topic.isShownBy_iff, and_assoc, @eq_comm _ f]

/-- A feature of a source has evidence, all of it in that source. -/
theorem evidence_of_mem_detectFeatures {f : Feature} (hf : f ∈ detectFeatures c path text) :
    f.evidence ≠ [] ∧ ∀ e ∈ f.evidence, e.sourceFile = path := by
  obtain ⟨t, -, hne, rfl⟩ := mem_detectFeatures_iff.1 hf
  refine ⟨?_, fun e he => ?_⟩
  · simpa [Topic.featureIn, List.take_eq_nil_iff, Topic.maxEvidence] using hne
  · obtain ⟨p, -, he⟩ := List.mem_flatMap.1 (List.mem_of_mem_take he)
    exact Topic.sourceFile_of_mem_evidenceOf he

/-- The features of a source are those of the topics that it shows, in the order of the catalog.
They are the topics with a pattern that takes something of the path or of the text, just if every
topic is one that has a pattern which matches in the path, be it with nothing. -/
theorem map_id_detectFeatures (c : Catalog) (path text : Text) :
    (detectFeatures c path text).map Feature.id =
        (c.filter fun t => t.IsShownBy path text).map Topic.id ∧
      ((detectFeatures c path text).map Feature.id =
          (c.filter fun t => t.TakesOf path text).map Topic.id ↔
        ∀ t ∈ c, (∃ p ∈ t.patterns, p.Occurs path.toArray) → t.TakesOf path text) := by
  have hids : (detectFeatures c path text).map Feature.id =
      (c.filter fun t => t.IsShownBy path text).map Topic.id := by
    rw [detectFeatures_eq, List.map_map]
    rfl
  refine ⟨hids, ?_⟩
  rw [hids]
  constructor
  · rintro heq t ht ⟨p, hp, hoccurs⟩
    -- lists of the same length, one of which is left of the other, are the same
    have hsublist : (c.filter fun t => t.TakesOf path text).Sublist
        (c.filter fun t => t.IsShownBy path text) :=
      List.monotone_filter_right c fun t ht =>
        decide_eq_true (of_decide_eq_true ht : t.TakesOf path text).isShownBy
    have hlength := congrArg List.length heq
    rw [List.length_map, List.length_map] at hlength
    have hmem : t ∈ c.filter fun t => t.IsShownBy path text :=
      List.mem_filter.2 ⟨ht, decide_eq_true ⟨p, hp, .inl hoccurs⟩⟩
    rw [← hsublist.eq_of_length hlength.symm] at hmem
    exact of_decide_eq_true (List.mem_filter.1 hmem).2
  · intro h
    refine congrArg _ (List.filter_congr fun t ht => decide_eq_decide.2 ⟨?_, fun htakes =>
      htakes.isShownBy⟩)
    rintro ⟨p, hp, hoccurs | htakes⟩
    · exact h t ht ⟨p, hp, hoccurs⟩
    · exact ⟨p, hp, .inr htakes⟩

/-- A topic that nothing at all is enough for. -/
def starCatalog : Catalog :=
  (Topic.readPatterns [lit "x*"]).toOption.toList.map fun patterns =>
    { id := lit "x.y", patterns, confidence := Catalog.customConfidence }

/-- The topic is found in a source without the letter, neither in its path nor in its text. -/
theorem not_takesOf_starCatalog :
    (detectFeatures starCatalog (lit "src/a.ts") (lit "const b = 1;\n")).map Feature.id =
        [lit "x.y"] ∧
      (starCatalog.filter fun t => t.TakesOf (lit "src/a.ts") (lit "const b = 1;\n")) = [] := by
  decide +kernel

/-- Each feature is that of a topic and holds the first pieces of its evidence, which is that of its
patterns in turn.  All evidence counts for the confidence. -/
theorem located_of_mem_detectFeatures {f : Feature} (hf : f ∈ detectFeatures c path text) :
    ∃ t ∈ c, t.id = f.id ∧ ∃ parts : List (List (ℕ × ℕ)),
      t.patterns.Forall₂ (fun p parts => p.Spans text.toArray 0 parts) parts ∧
      let hits := (t.patterns.zipWith (fun p parts => p.hits path text parts) parts).flatten
      f.evidence = hits.take 10 ∧ f.confidence = Topic.boosted t.confidence hits.length := by
  obtain ⟨t, ht, -, rfl⟩ := mem_detectFeatures_iff.1 hf
  have hspans : t.patterns.Forall₂ (fun p parts => p.Spans text.toArray 0 parts)
      (t.patterns.map fun p => (p.allMatches text.toArray).filter fun found =>
        found.1 ≠ found.2) := by
    rw [List.forall₂_map_right_iff, List.forall₂_same]
    exact fun p _ => CompiledPattern.spans_allMatches
  refine ⟨t, ht, rfl, _, hspans, ?_⟩
  rw [← Topic.evidenceIn_eq hspans]
  exact ⟨rfl, rfl⟩

/-- A path and two lines show the topic. -/
theorem located_starCatalog : ∃ f ∈ detectFeatures starCatalog (lit "src/a.ts") (lit "b\nxx;\nx"),
    (f.evidence.map fun e => (e.pattern, e.line)) =
        [(lit "x*", 1), (lit "xx", 2), (lit "x", 3)] ∧
      ∃ t ∈ starCatalog, t.id = f.id ∧ ∃ parts : List (List (ℕ × ℕ)),
        t.patterns.Forall₂ (fun p parts => p.Spans (lit "b\nxx;\nx").toArray 0 parts) parts ∧
        let hits := (t.patterns.zipWith (fun p parts => p.hits (lit "src/a.ts")
          (lit "b\nxx;\nx") parts) parts).flatten
        f.evidence = hits.take 10 ∧ f.confidence = Topic.boosted t.confidence hits.length := by
  have hall : (detectFeatures starCatalog (lit "src/a.ts") (lit "b\nxx;\nx")).map
      (fun f => f.evidence.map fun e => (e.pattern, e.line)) =
        [[(lit "x*", 1), (lit "xx", 2), (lit "x", 3)]] := by
    decide +kernel
  obtain ⟨f, hf, hevidence⟩ := List.map_eq_singleton_iff.1 hall
  have hmem : f ∈ detectFeatures starCatalog (lit "src/a.ts") (lit "b\nxx;\nx") := by simp [hf]
  exact ⟨f, hmem, hevidence, located_of_mem_detectFeatures hmem⟩

end HelpCenter

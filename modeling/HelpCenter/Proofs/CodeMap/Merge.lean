import HelpCenter.CodeMap.Merge
import HelpCenter.Proofs.Number.Order
import Mathlib.Data.List.Nodup

/-!
# Merging features

What the merge holds on a topic is made of the features on that topic alone, in their order
(`on?_mergeFeatures`), and its topics are those of the features in order of appearance
(`mergeFeatures_ids`).  The two determine the merge, so it does not matter in which groups the
features are merged (`mergeFeatures_regroups`).
-/

namespace HelpCenter

/-! ## First appearances -/

section FirstSeen

variable {α : Type} [DecidableEq α] {x : α} {xs : List α}

@[simp]
theorem mem_firstSeen : x ∈ firstSeen xs ↔ x ∈ xs := by
  induction xs with
  | nil => simp [firstSeen]
  | cons y ys ih => by_cases h : x = y <;> simp [firstSeen, ih, h]

theorem nodup_firstSeen (xs : List α) : (firstSeen xs).Nodup := by
  induction xs with
  | nil => exact List.nodup_nil
  | cons x xs ih => exact List.nodup_cons.2 ⟨by simp, ih.filter _⟩

/-- The second list holds each member of the first one once, in the order in which they first
appear there. -/
structure ListsOnce (xs ys : List α) : Prop where
  mem_iff : ∀ x, x ∈ ys ↔ x ∈ xs
  ordered : ys.Pairwise fun x y => xs.idxOf x < xs.idxOf y

theorem listsOnce_firstSeen (xs : List α) : ListsOnce xs (firstSeen xs) := by
  refine ⟨fun x => mem_firstSeen, ?_⟩
  induction xs with
  | nil => exact .nil
  | cons x xs ih =>
      have hne {y : α} (hy : y ∈ (firstSeen xs).filter (· ≠ x)) : y ≠ x := by
        simpa using (List.mem_filter.1 hy).2
      refine List.pairwise_cons.2 ⟨fun y hy => ?_, (ih.filter _).imp_of_mem fun hy hz hlt => ?_⟩
      · rw [List.idxOf_cons_self, List.idxOf_cons_ne _ (hne hy).symm]
        exact Nat.succ_pos _
      · rw [List.idxOf_cons_ne _ (hne hy).symm, List.idxOf_cons_ne _ (hne hz).symm]
        exact Nat.succ_lt_succ hlt

theorem firstSeen_append (xs ys : List α) :
    firstSeen (xs ++ ys) = firstSeen xs ++ (firstSeen ys).filter (· ∉ xs) := by
  induction xs with
  | nil => simp [firstSeen]
  | cons x xs ih =>
      simp only [List.cons_append, firstSeen, ih, List.filter_append, List.filter_filter]
      congr 3
      funext y
      simp [not_or]

theorem firstSeen_concat (xs : List α) (x : α) :
    firstSeen (xs ++ [x]) = if x ∈ xs then firstSeen xs else firstSeen xs ++ [x] := by
  rw [firstSeen_append]
  by_cases h : x ∈ xs <;> simp [firstSeen, h]

theorem firstSeen_of_nodup (h : xs.Nodup) : firstSeen xs = xs := by
  induction xs with
  | nil => rfl
  | cons x xs ih =>
      obtain ⟨hx, hxs⟩ := List.nodup_cons.1 h
      rw [firstSeen, ih hxs, List.filter_eq_self.2]
      rintro y hy
      exact decide_eq_true fun heq => hx (heq ▸ hy)

/-- First appearances can be taken in parts before they are taken in the whole. -/
theorem firstSeen_firstSeen_append (xs ys : List α) :
    firstSeen (firstSeen xs ++ firstSeen ys) = firstSeen (xs ++ ys) := by
  rw [firstSeen_append, firstSeen_append, firstSeen_of_nodup (nodup_firstSeen xs),
    firstSeen_of_nodup (nodup_firstSeen ys)]
  simp

end FirstSeen

namespace Feature

/-! ## Features on one topic -/

/-- Two features as one on the topic of the first. -/
def join (g f : Feature) : Feature :=
  { g with evidence := g.evidence ++ f.evidence, confidence := g.confidence.max f.confidence }

/-- All features of a list as one on the topic of the first. -/
def joined? : List Feature → Option Feature
  | [] => none
  | f :: rest => some (rest.foldl join f)

variable {f g k : Feature} {features others : List Feature} {id : Text}

theorem join_assoc (hf : f.confidence.IsDefined) (hg : g.confidence.IsDefined)
    (hk : k.confidence.IsDefined) : (f.join g).join k = f.join (g.join k) := by
  simp only [join, Number.max_assoc hf hg hk, List.append_assoc]

theorem foldl_join (f : Feature) (rest : List Feature) : rest.foldl join f =
    { id := f.id
      evidence := f.evidence ++ rest.flatMap evidence
      confidence := (rest.map confidence).foldl Number.max f.confidence } := by
  induction rest generalizing f with
  | nil => simp
  | cons g rest ih => simp [ih, join]

/-- The features have confidences that can be compared. -/
def AreDefined (features : List Feature) : Prop := ∀ f ∈ features, f.confidence.IsDefined

theorem evidence_joined? (h : joined? features = some g) :
    g.evidence = features.flatMap evidence := by
  cases features with
  | nil => cases h
  | cons f rest =>
      obtain rfl := Option.some.inj h
      simp [foldl_join]

theorem isGreatest_joined? (h : joined? features = some g) (hdefined : AreDefined features) :
    g.confidence.IsGreatest (features.map confidence) := by
  cases features with
  | nil => cases h
  | cons f rest =>
      obtain rfl := Option.some.inj h
      rw [foldl_join]
      refine Number.isGreatest_foldl_max fun x hx => ?_
      rw [← List.map_cons, List.mem_map] at hx
      obtain ⟨f', hf', rfl⟩ := hx
      exact hdefined f' hf'

theorem joined?_concat (features : List Feature) (f : Feature) :
    joined? (features ++ [f]) = some (((joined? features).map (·.join f)).getD f) := by
  cases features with
  | nil => rfl
  | cons g rest => simp [joined?]

theorem join_foldl (hf : f.confidence.IsDefined) (hg : g.confidence.IsDefined)
    (hothers : AreDefined others) : others.foldl join (f.join g) = f.join (others.foldl join g) := by
  induction others generalizing g with
  | nil => rfl
  | cons k others ih =>
      obtain ⟨hk, hothers⟩ := List.forall_mem_cons.1 hothers
      rw [List.foldl_cons, List.foldl_cons, join_assoc hf hg hk]
      exact ih (hg.max hk) hothers

/-- Features can be joined in parts before they are joined in the whole. -/
theorem joined?_append (h : AreDefined (features ++ others)) :
    joined? ((joined? features).toList ++ (joined? others).toList) = joined? (features ++ others) := by
  obtain ⟨hfeatures, hothers⟩ := List.forall_mem_append.1 h
  cases features with
  | nil => cases others <;> rfl
  | cons f rest =>
      cases others with
      | nil => simp [joined?]
      | cons g others =>
          obtain ⟨hg, hothers⟩ := List.forall_mem_cons.1 hothers
          have hdefined : (rest.foldl join f).confidence.IsDefined := by
            obtain ⟨hmem, -⟩ := isGreatest_joined? rfl hfeatures
            obtain ⟨f', hf', heq⟩ := List.mem_map.1 hmem
            exact heq ▸ hfeatures f' hf'
          simp [joined?, join_foldl hdefined hg hothers]

/-! ## Joining to a list -/

theorem joinTo_ids (f : Feature) (features : List Feature) :
    (f.joinTo features).map Feature.id =
      if f.id ∈ features.map Feature.id then features.map Feature.id
      else features.map Feature.id ++ [f.id] := by
  induction features with
  | nil => simp [joinTo]
  | cons g rest ih =>
      unfold joinTo
      split
      · next h => simp [h]
      · next h =>
        rw [List.map_cons, ih]
        split <;> simp_all [eq_comm]

/-- The feature on a topic: of several, the first. -/
def on? (id : Text) (features : List Feature) : Option Feature := features.find? (·.id = id)

theorem on?_joinTo (f : Feature) (features : List Feature) (id : Text) :
    on? id (f.joinTo features) =
      if f.id = id then some (((on? id features).map (·.join f)).getD f) else on? id features := by
  induction features with
  | nil => by_cases h : f.id = id <;> simp [joinTo, on?, h]
  | cons g rest ih =>
      unfold joinTo
      by_cases hgf : g.id = f.id
      · rw [if_pos hgf]
        by_cases hf : f.id = id
        · simp [on?, hgf, hf, join]
        · simp [on?, hgf, hf]
      · rw [if_neg hgf]
        by_cases hg : g.id = id
        · have hf : f.id ≠ id := fun hf => hgf (hg.trans hf.symm)
          simp [on?, hg, hf]
        · unfold on? at ih ⊢
          simp only [List.find?_cons, hg, decide_false, ih]

end Feature

/-! ## The merge -/

open Feature

variable {xs ys features features' : List Feature} {f : Feature} {id : Text}

theorem mergeFeatures_concat (features : List Feature) (f : Feature) :
    mergeFeatures (features ++ [f]) = f.joinTo (mergeFeatures features) := by
  simp [mergeFeatures]

/-- The topics of the merge, in order of appearance. -/
theorem mergeFeatures_ids (features : List Feature) :
    (mergeFeatures features).map Feature.id = firstSeen (features.map Feature.id) := by
  induction features using List.reverseRecOn with
  | nil => rfl
  | append_singleton features f ih =>
      rw [mergeFeatures_concat, joinTo_ids, ih, List.map_append, List.map_singleton,
        firstSeen_concat]
      by_cases h : f.id ∈ features.map Feature.id
      · rw [if_pos (mem_firstSeen.2 h), if_pos h]
      · rw [if_neg (mt mem_firstSeen.1 h), if_neg h]

theorem mergeFeatures_nodup (features : List Feature) :
    ((mergeFeatures features).map Feature.id).Nodup := by
  rw [mergeFeatures_ids]
  exact nodup_firstSeen _

/-- What the merge holds on a topic comes from the features on that topic. -/
theorem on?_mergeFeatures (features : List Feature) (id : Text) :
    on? id (mergeFeatures features) = joined? (features.filter (·.id = id)) := by
  induction features using List.reverseRecOn with
  | nil => rfl
  | append_singleton features f ih =>
      rw [mergeFeatures_concat, on?_joinTo, ih, List.filter_append]
      by_cases h : f.id = id
      · simp [h, joined?_concat]
      · simp [h]

theorem on?_of_mem (h : (features.map Feature.id).Nodup) (hf : f ∈ features) :
    on? f.id features = some f := by
  unfold on?
  cases hon : features.find? (·.id = f.id) with
  | none => exact absurd (decide_eq_true rfl) (List.find?_eq_none.1 hon f hf)
  | some g =>
      have hid : g.id = f.id := by simpa using List.find?_some hon
      rw [List.inj_on_of_nodup_map h (List.mem_of_find?_eq_some hon) hf hid]

/-- Features on different topics are known by their topics and by what there is on each. -/
theorem eq_of_ids_of_on? (h : (features.map Feature.id).Nodup)
    (hids : features.map Feature.id = features'.map Feature.id)
    (hon : ∀ id, on? id features = on? id features') : features = features' := by
  have told {l : List Feature} (hl : (l.map Feature.id).Nodup) :
      l.map some = (l.map Feature.id).map fun id => on? id l := by
    rw [List.map_map]
    exact List.map_congr_left fun f hf => (on?_of_mem hl hf).symm
  apply List.map_injective_iff.2 (Option.some_injective _)
  rw [told h, told (hids ▸ h), hids]
  exact List.map_congr_left fun id _ => hon id

theorem filter_eq_toList (h : (features.map Feature.id).Nodup) (id : Text) :
    features.filter (·.id = id) = (on? id features).toList := by
  induction features with
  | nil => rfl
  | cons g rest ih =>
      rw [List.map_cons, List.nodup_cons] at h
      by_cases hg : g.id = id
      · have hrest : rest.filter (·.id = id) = [] := by
          rw [List.filter_eq_nil_iff]
          intro f hf heq
          exact h.1 (List.mem_map.2 ⟨f, hf, (of_decide_eq_true heq).trans hg.symm⟩)
        simp [on?, hg, hrest]
      · unfold on? at ih ⊢
        simp [hg, ih h.2]

/-- Features can be merged in parts before they are merged in the whole. -/
theorem mergeFeatures_append (h : AreDefined (xs ++ ys)) :
    mergeFeatures (mergeFeatures xs ++ mergeFeatures ys) = mergeFeatures (xs ++ ys) := by
  refine eq_of_ids_of_on? (mergeFeatures_nodup _) ?_ fun id => ?_
  · simp only [mergeFeatures_ids, List.map_append, firstSeen_firstSeen_append]
  · rw [on?_mergeFeatures, on?_mergeFeatures, List.filter_append, List.filter_append,
      filter_eq_toList (mergeFeatures_nodup xs), filter_eq_toList (mergeFeatures_nodup ys),
      on?_mergeFeatures, on?_mergeFeatures, joined?_append]
    intro f hf
    rw [← List.filter_append] at hf
    exact h f (List.mem_of_mem_filter hf)

/-- Features on different topics are merged already. -/
theorem mergeFeatures_of_nodup (h : (features.map Feature.id).Nodup) :
    mergeFeatures features = features := by
  refine eq_of_ids_of_on? (mergeFeatures_nodup _) ?_ fun id => ?_
  · rw [mergeFeatures_ids, firstSeen_of_nodup h]
  · rw [on?_mergeFeatures, filter_eq_toList h]
    cases on? id features <;> rfl

/-! ## Regrouping -/

/-- What the merge of batches is: one feature for each topic in order of appearance, with all
evidence on the topic in order and the greatest of its confidences. -/
structure IsMergeOf (merged : List Feature) (batches : List (List Feature)) : Prop where
  ids : merged.map Feature.id = firstSeen (batches.flatten.map Feature.id)
  evidence : ∀ f ∈ merged,
    f.evidence = (batches.flatten.filter (·.id = f.id)).flatMap Feature.evidence
  confidence : ∀ f ∈ merged,
    f.confidence.IsGreatest ((batches.flatten.filter (·.id = f.id)).map Feature.confidence)

theorem isMergeOf_mergeFeatures {batches : List (List Feature)} (h : AreDefined batches.flatten) :
    IsMergeOf (mergeFeatures batches.flatten) batches := by
  have joined : ∀ f ∈ mergeFeatures batches.flatten,
      joined? (batches.flatten.filter (·.id = f.id)) = some f := by
    intro f hf
    rw [← on?_mergeFeatures]
    exact on?_of_mem (mergeFeatures_nodup _) hf
  exact ⟨mergeFeatures_ids _, fun f hf => evidence_joined? (joined f hf), fun f hf =>
    isGreatest_joined? (joined f hf) fun g hg => h g (List.mem_of_mem_filter hg)⟩

/-- The order of the batches matters neither for the topics nor for the confidences. -/
theorem IsMergeOf.perm {merged merged' : List Feature} {batches batches' : List (List Feature)}
    (h : IsMergeOf merged batches) (h' : IsMergeOf merged' batches') (hperm : batches.Perm batches') :
    (∀ id, id ∈ merged.map Feature.id ↔ id ∈ merged'.map Feature.id) ∧
      ∀ f ∈ merged, ∀ g ∈ merged', f.id = g.id → f.confidence.Ties g.confidence := by
  refine ⟨fun id => ?_, fun f hf g hg hid => ?_⟩
  · rw [h.ids, h'.ids, mem_firstSeen, mem_firstSeen]
    exact (hperm.flatten.map _).mem_iff
  · refine (h.confidence f hf).ties (h'.confidence g hg) fun x => ?_
    rw [hid]
    exact ((hperm.flatten.filter _).map _).mem_iff

/-- Merging batches keeps all evidence in order and the greatest confidence on each topic, whatever
the groups in which they are merged, and for topics and confidences whatever their order. -/
theorem mergeFeatures_regroups (xs ys : List (List Feature))
    (h : AreDefined (xs ++ ys).flatten) :
    IsMergeOf (mergeFeatures xs.flatten) xs ∧
      mergeFeatures (xs ++ ys).flatten =
        mergeFeatures [mergeFeatures xs.flatten, mergeFeatures ys.flatten].flatten ∧
      mergeFeatures [mergeFeatures xs.flatten].flatten = mergeFeatures xs.flatten ∧
      ∀ zs : List (List Feature), zs.Perm xs →
        (∀ id, id ∈ (mergeFeatures zs.flatten).map Feature.id ↔
          id ∈ (mergeFeatures xs.flatten).map Feature.id) ∧
        ∀ f ∈ mergeFeatures zs.flatten, ∀ g ∈ mergeFeatures xs.flatten, f.id = g.id →
          f.confidence.Ties g.confidence := by
  have hxs : AreDefined xs.flatten := fun f hf => h f (by simp [hf])
  refine ⟨isMergeOf_mergeFeatures hxs, ?_, ?_, fun zs hperm => ?_⟩
  · rw [List.flatten_append] at h ⊢
    simp [mergeFeatures_append h]
  · simp [mergeFeatures_of_nodup (mergeFeatures_nodup _)]
  · have hzs : AreDefined zs.flatten := fun f hf => hxs f (hperm.flatten.mem_iff.1 hf)
    exact (isMergeOf_mergeFeatures hzs).perm (isMergeOf_mergeFeatures hxs) hperm

/-- A double with few decimals. -/
def hundredths (n : ℕ) : Number := .double (.ofDecimal false n (-2))

/-- Features of a file on two topics. -/
def ofSignIn : List Feature := [
  { id := lit "authentication.sign-in", confidence := hundredths 80
    evidence := [⟨lit "signIn", lit "src/a.ts", 3⟩] },
  { id := lit "billing.plan", confidence := hundredths 70
    evidence := [⟨lit "plan", lit "src/a.ts", 9⟩] }]

/-- Features of another file, one of them on a topic of the first file. -/
def ofPlans : List Feature := [
  { id := lit "billing.plan", confidence := .int 1
    evidence := [⟨lit "plan", lit "src/b.ts", 1⟩, ⟨lit "plan", lit "src/b.ts", 2⟩] },
  { id := lit "billing.refund", confidence := hundredths 85
    evidence := [⟨lit "refund", lit "src/b.ts", 4⟩] }]

theorem mergeFeatures_regroups_plans :
    AreDefined ([ofSignIn, ofPlans] ++ [ofSignIn]).flatten ∧
      IsMergeOf (mergeFeatures [ofSignIn, ofPlans].flatten) [ofSignIn, ofPlans] ∧
      mergeFeatures ([ofSignIn, ofPlans] ++ [ofSignIn]).flatten =
        mergeFeatures [mergeFeatures [ofSignIn, ofPlans].flatten,
          mergeFeatures [ofSignIn].flatten].flatten ∧
      mergeFeatures [mergeFeatures [ofSignIn, ofPlans].flatten].flatten =
        mergeFeatures [ofSignIn, ofPlans].flatten ∧
      [ofPlans, ofSignIn].Perm [ofSignIn, ofPlans] ∧
      ∀ f ∈ mergeFeatures [ofPlans, ofSignIn].flatten,
        ∀ g ∈ mergeFeatures [ofSignIn, ofPlans].flatten, f.id = g.id →
          f.confidence.Ties g.confidence := by
  have h : AreDefined ([ofSignIn, ofPlans] ++ [ofSignIn]).flatten := by
    unfold AreDefined
    decide +kernel
  obtain ⟨hmerge, hparts, hagain, hperm⟩ := mergeFeatures_regroups _ _ h
  exact ⟨h, hmerge, hparts, hagain, .swap .., (hperm _ (.swap ..)).2⟩

end HelpCenter

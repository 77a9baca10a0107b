import HelpCenter.Proofs.Except
import HelpCenter.Settings.Check

/-!
# What the checks of settings let pass

Settings pass the checks just if they are usable (`check_eq_ok_iff`).  A failed check tells what is
wrong with the settings; only patterns that the reader of patterns gives up on without calling them
malformed fail otherwise (`faults_check`).
-/

namespace HelpCenter

open Except

/-! ## Usable settings -/

/-- A custom topic that can be looked for. -/
structure CustomTopic.IsUsable (t : CustomTopic) : Prop where
  id : t.id ≠ []
  patterns : t.patterns ≠ []
  readable : ∀ pattern ∈ t.patterns, ∀ body, patternBody? pattern = some body →
    ∃ compiled, CompiledPattern.read {} body = .ok compiled

namespace Settings

/-- Settings that everything else can work with. -/
structure IsUsable (s : Settings) : Prop where
  includes : s.scan.includes ≠ []
  framework : s.scan.framework ∈ frameworks
  workers : ∀ n, s.scan.workers = some n → 1 ≤ n
  format : s.docs.format ∈ formats
  topics : s.docs.topics ≠ []
  customTopics : ∀ t ∈ s.docs.customTopics, t.IsUsable
  provider : s.model.provider ∈ providers
  model : s.model.provider ≠ lit "mock" → ∃ name ≠ [], s.model.model = some name
  maxTokens : 0 < s.model.maxTokens
  concurrency : 1 ≤ s.model.concurrency

variable {s : Settings} {t : CustomTopic} {id pattern : Text}

theorem checkPattern_eq_ok_iff : checkPattern id pattern = .ok () ↔
    ∀ body, patternBody? pattern = some body →
      ∃ compiled, CompiledPattern.read {} body = .ok compiled := by
  unfold checkPattern
  cases patternBody? pattern with
  | none => simp
  | some body =>
      cases hread : CompiledPattern.read {} body with
      | ok compiled => simp [hread]
      | error fault => cases fault <;> simp [hread]

theorem checkTopic_eq_ok_iff : checkTopic t = .ok () ↔ t.IsUsable := by
  unfold checkTopic
  by_cases hempty : (t.id.isEmpty || t.patterns.isEmpty) = true
  · rw [if_pos hempty]
    refine iff_of_false nofun fun h => ?_
    simp [h.id, h.patterns] at hempty
  · rw [if_neg hempty, forM_eq_ok_iff]
    simp only [checkPattern_eq_ok_iff]
    rw [Bool.or_eq_true, not_or, List.isEmpty_iff, List.isEmpty_iff] at hempty
    exact ⟨fun h => ⟨hempty.1, hempty.2, h⟩, fun h => h.readable⟩

theorem checkScan_eq_ok_iff (s : ScanSettings) : checkScan s = .ok () ↔
    s.includes ≠ [] ∧ s.framework ∈ frameworks ∧ ∀ n, s.workers = some n → 1 ≤ n := by
  unfold checkScan
  by_cases hincludes : s.includes = []
  · simp [hincludes]
  by_cases hframework : s.framework ∈ frameworks
  · cases hworkers : s.workers with
    | none => simp [hincludes, hframework]
    | some n =>
        by_cases hn : n < 1
        · simp [hincludes, hframework, hn]
        · simpa [hincludes, hframework, hn] using by omega
  · simp [hincludes, hframework]

/-- The checks of documents, one behind the other. -/
theorem checkDocs_eq (s : DocsSettings) : checkDocs s =
    if !formats.contains s.format then .error (.config (.badFormat formats))
    else if s.topics.isEmpty then .error (.config .noTopics)
    else s.customTopics.forM checkTopic := by
  unfold checkDocs
  split
  · rfl
  · split <;> rfl

theorem checkDocs_eq_ok_iff (s : DocsSettings) : checkDocs s = .ok () ↔
    s.format ∈ formats ∧ s.topics ≠ [] ∧ ∀ t ∈ s.customTopics, t.IsUsable := by
  have htopics : s.customTopics.forM checkTopic = .ok () ↔ ∀ t ∈ s.customTopics, t.IsUsable := by
    simp only [forM_eq_ok_iff, checkTopic_eq_ok_iff]
  rw [checkDocs_eq]
  by_cases hformat : s.format ∈ formats
  · by_cases hnone : s.topics = []
    · simp [hformat, hnone]
    · simpa [hformat, hnone] using htopics
  · simp [hformat]

theorem checkModel_eq_ok_iff (s : ModelSettings) : checkModel s = .ok () ↔
    s.provider ∈ providers ∧ (s.provider ≠ lit "mock" → ∃ name ≠ [], s.model = some name) ∧
      0 < s.maxTokens ∧ 1 ≤ s.concurrency := by
  have hmodel : (s.model.getD []).isEmpty = true ↔ ¬ ∃ name ≠ [], s.model = some name := by
    cases s.model <;> simp
  unfold checkModel
  by_cases hempty : s.provider = []
  · have hknown : s.provider ∉ providers := by
      rw [hempty]
      decide
    rw [if_pos (List.isEmpty_iff.2 hempty)]
    exact iff_of_false nofun fun h => hknown h.1
  rw [if_neg (by simpa using hempty)]
  by_cases hprovider : s.provider ∈ providers
  · rw [if_neg (by simpa using hprovider)]
    by_cases hnoModel : ((s.model.getD []).isEmpty && s.provider ≠ lit "mock") = true
    · rw [if_pos hnoModel]
      rw [Bool.and_eq_true, hmodel, decide_eq_true_iff] at hnoModel
      exact iff_of_false nofun fun h => hnoModel.1 (h.2.1 hnoModel.2)
    · rw [if_neg hnoModel]
      rw [Bool.and_eq_true, hmodel, decide_eq_true_iff, not_and', not_not] at hnoModel
      by_cases htokens : s.maxTokens ≤ 0
      · rw [if_pos htokens]
        exact iff_of_false nofun fun h => by omega
      rw [if_neg htokens]
      by_cases hcalls : s.concurrency < 1
      · rw [if_pos hcalls]
        exact iff_of_false nofun fun h => by omega
      · rw [if_neg hcalls]
        exact iff_of_true rfl ⟨hprovider, hnoModel, by omega, by omega⟩
  · rw [if_pos (by simpa using hprovider)]
    exact iff_of_false nofun fun h => hprovider h.1

/-- The checks let usable settings pass and no others. -/
theorem check_eq_ok_iff : s.check = .ok () ↔ s.IsUsable := by
  simp only [check, bind_eq_ok_iff]
  constructor
  · rintro ⟨⟨⟩, hscan, ⟨⟩, hdocs, hmodel⟩
    obtain ⟨hincludes, hframework, hworkers⟩ := (checkScan_eq_ok_iff _).1 hscan
    obtain ⟨hformat, htopics, hcustom⟩ := (checkDocs_eq_ok_iff _).1 hdocs
    obtain ⟨hprovider, hmodel, htokens, hcalls⟩ := (checkModel_eq_ok_iff _).1 hmodel
    exact ⟨hincludes, hframework, hworkers, hformat, htopics, hcustom, hprovider, hmodel, htokens,
      hcalls⟩
  · intro h
    exact ⟨(), (checkScan_eq_ok_iff _).2 ⟨h.includes, h.framework, h.workers⟩, (),
      (checkDocs_eq_ok_iff _).2 ⟨h.format, h.topics, h.customTopics⟩,
      (checkModel_eq_ok_iff _).2 ⟨h.provider, h.model, h.maxTokens, h.concurrency⟩⟩

/-! ## Failed checks -/

/-- The failures of the checks: what is wrong with the settings, or that a custom topic has a pattern
that the reader of patterns gives up on. -/
inductive Rejects (s : Settings) : Failure → Prop
  | config (fault : ConfigFault) : s.Rejects (.config fault)
  | pattern {t : CustomTopic} {pattern body : Text} {fault : PatternFault}
      (ht : t ∈ s.docs.customTopics) (hpattern : pattern ∈ t.patterns)
      (hbody : patternBody? pattern = some body)
      (hfault : CompiledPattern.read {} body = .error fault) (hbad : fault ≠ .malformed) :
      s.Rejects fault.failure

theorem faults_checkScan : Faults s.Rejects (checkScan s.scan) := by
  unfold checkScan
  split_ifs <;> first | exact faults_error (.config _) | exact faults_ok ()

theorem faults_checkPattern (ht : t ∈ s.docs.customTopics) (hpattern : pattern ∈ t.patterns) :
    Faults s.Rejects (checkPattern t.id pattern) := by
  unfold checkPattern
  cases hbody : patternBody? pattern with
  | none => exact faults_ok ()
  | some body =>
      have hrejects {fault : PatternFault} (hfault : CompiledPattern.read {} body = .error fault)
          (hbad : fault ≠ .malformed) : s.Rejects fault.failure :=
        .pattern ht hpattern hbody hfault hbad
      cases hread : CompiledPattern.read {} body with
      | ok compiled =>
          simp only [hread]
          exact faults_ok ()
      | error fault =>
          simp only [hread]
          cases fault with
          | malformed => exact faults_error (.config _)
          | hugeCount => exact faults_error (hrejects hread (by decide))
          | conflictingFlags => exact faults_error (hrejects hread (by decide))

theorem faults_checkDocs : Faults s.Rejects (checkDocs s.docs) := by
  have htopics : Faults s.Rejects (s.docs.customTopics.forM checkTopic) := by
    refine Faults.forM fun t ht => ?_
    unfold checkTopic
    split
    · exact faults_error (.config _)
    · exact Faults.forM fun pattern hpattern => faults_checkPattern ht hpattern
  rw [checkDocs_eq]
  split_ifs
  · exact faults_error (.config _)
  · exact faults_error (.config _)
  · exact htopics

theorem faults_checkModel : Faults s.Rejects (checkModel s.model) := by
  unfold checkModel
  split_ifs <;> first | exact faults_error (.config _) | exact faults_ok ()

theorem faults_check : Faults s.Rejects s.check :=
  faults_checkScan.bind fun _ _ => faults_checkDocs.bind fun _ _ => faults_checkModel

end Settings

end HelpCenter

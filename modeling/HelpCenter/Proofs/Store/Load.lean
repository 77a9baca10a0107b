import HelpCenter.Proofs.Article.Record
import HelpCenter.Proofs.Workspace.Action
import HelpCenter.Store.Basic

/-!
# What loading gives

Loading only reads, and what it gives is `Store.content`: the records of the state files that fit,
in order.  It does not put up with everything, though.  `Store.Loadable` lists what it needs of the
files, and `load_eq_ok_iff` says that it fails without: a number that has no counterpart among the
doubles or integers, a list that is none, and circumstances of a scan that are no object all get
past the handlers that leave out what does not fit.
-/

namespace HelpCenter

open Json

namespace Store

variable {t : FileTree} {file : Place}

/-! ## Contents of the state files -/

/-- The value in a state file, none where the file is missing or cannot be understood. -/
def stateIn (file : Place) (t : FileTree) : Option Json :=
  match t.readText file with
  | .ok text => (parse text).toOption
  | .error _ => none

/-- The members of an object, none of anything else. -/
def membersOf : Option Json → List (Text × Json)
  | some (.obj members) => members
  | _ => []

/-- The file holds an integer with more digits than are read. -/
def HoldsHugeInteger (file : Place) (t : FileTree) : Prop :=
  ∃ text, t.readText file = .ok text ∧ parse text = .error .hugeInteger

/-- What an object is read as, none for an object that does not fit and for other values. -/
def recordOf {α : Type} (read : Json → Except DataFault α) : Json → Option α
  | .obj members => (read (.obj members)).toOption
  | _ => none

/-- The records in a list of an object. -/
def recordsIn {α : Type} (member : String) (read : Json → Except DataFault α)
    (members : List (Text × Json)) : List α :=
  (itemsOrNone (field members member)).filterMap (recordOf read)

/-- The knowledge base that the state files hold. -/
def content (s : Store) (t : FileTree) : KnowledgeBase where
  articles := recordsIn "items" Article.ofJson (membersOf (stateIn s.itemsFile t))
  gaps := recordsIn "gaps" Gap.ofJson (membersOf (stateIn s.gapsFile t))
  codeMap := (stateIn s.codeMapFile t).bind (recordOf CodeMap.ofJson)
  info := s.infoOf (.obj (membersOf (stateIn s.itemsFile t)))

/-! ## Reading a state file -/

/-- What a state file counts as, given what reading its text gave. -/
def stateOf : Except Failure Text → Except Failure (Option Json)
  | .error (.file _) => .ok none
  | .error (.data (.notUtf8 _)) => .ok none
  | .error e => .error e
  | .ok text =>
    match parse text with
    | .ok v => .ok (some v)
    | .error .malformed => .ok none
    | .error .hugeInteger => .error (.data .unreadable)

theorem reads_warn {α : Type} (message cause : Text) (x : α) :
    Action.Reads (do warn message cause; pure x) fun _ => .ok x :=
  (Action.reads_log _).bind fun _ => Action.reads_pure x

/-- What reading a state file gives. -/
def stateRead (file : Place) (t : FileTree) : Except Failure (Option Json) :=
  stateOf (Action.checkNames file >>= fun _ => t.readText file)

theorem reads_readState (file : Place) : Action.Reads (readState file) (stateRead file) := by
  unfold readState
  refine (Action.reads_readText file).attempt.bind (g := fun r _ => stateOf r) fun r => ?_
  cases r with
  | error e =>
      cases e with
      | file fault =>
          cases fault with
          | missing => exact Action.reads_pure none
          | _ => exact reads_warn _ _ none
      | data fault =>
          cases fault with
          | notUtf8 fault => exact reads_warn _ _ none
          | _ => exact Action.reads_throw _
      | _ => exact Action.reads_throw _
  | ok text =>
      unfold stateOf
      dsimp only
      cases parse text with
      | ok v => exact Action.reads_pure (some v)
      | error fault =>
          cases fault with
          | malformed => exact reads_warn _ _ none
          | hugeInteger => exact Action.reads_throw _

theorem readText_eq_error {e : Failure} (h : t.readText file = .error e) :
    (∃ fault, e = .file fault) ∨ ∃ fault, e = .data (.notUtf8 fault) := by
  unfold FileTree.readText at h
  cases hr : t.read file with
  | error fault => rw [hr] at h; cases h; exact .inl ⟨fault, rfl⟩
  | ok bytes =>
      simp only [hr] at h
      cases hd : Utf8.decode bytes with
      | error fault => rw [hd] at h; cases h; exact .inr ⟨fault, rfl⟩
      | ok text => rw [hd] at h; cases h

theorem checkNames_eq_error {e : Failure} (h : Action.checkNames file = .error e) :
    e = .data .unreadable ∨ e = .data .notEncodable := by
  unfold Action.checkNames at h
  split at h
  · cases h; exact .inl rfl
  · split at h
    · cases h
    · cases h; exact .inr rfl

theorem stateRead_eq_ok_iff {r : Option Json} :
    stateRead file t = .ok r ↔
      Action.checkNames file = .ok () ∧ ¬ HoldsHugeInteger file t ∧ r = stateIn file t := by
  unfold stateRead HoldsHugeInteger stateIn
  cases hc : Action.checkNames file with
  | error e =>
      rcases checkNames_eq_error hc with rfl | rfl <;> simp [bind, Except.bind, stateOf]
  | ok u =>
      cases ht : t.readText file with
      | error e =>
          rcases readText_eq_error ht with ⟨fault, rfl⟩ | ⟨fault, rfl⟩ <;>
            simp [bind, Except.bind, stateOf, @eq_comm _ r]
      | ok text =>
          cases hp : parse text with
          | ok v => simp [hp, bind, Except.bind, stateOf, Except.toOption, @eq_comm _ r]
          | error fault =>
              cases fault <;> simp [hp, bind, Except.bind, stateOf, Except.toOption, @eq_comm _ r]

/-! ## Reading records -/

variable {α : Type} {read : Json → Except DataFault α}

/-- What fits, none in place of what does not, given what reading gave. -/
def fitting : Except DataFault α → Except Failure (Option α)
  | .ok r => .ok (some r)
  | .error fault => if isMisfit fault then .ok none else .error (.data fault)

theorem fitting_eq_ok_iff {x : Except DataFault α} {r : Option α} :
    fitting x = .ok r ↔ x.Faults (isMisfit · = true) ∧ r = x.toOption := by
  unfold Except.Faults
  cases x with
  | ok a => simp [fitting, Except.toOption, @eq_comm _ r]
  | error fault => cases h : isMisfit fault <;> simp [fitting, h, Except.toOption, @eq_comm _ r]

/-- Reading the value as a record gives no fault that gets past the handlers. -/
def Fits (read : Json → Except DataFault α) (v : Json) : Prop :=
  ∀ members, v = .obj members → (read (.obj members)).Faults (isMisfit · = true)

/-- What reading a record gives, none in place of one that does not fit. -/
def recordRead (read : Json → Except DataFault α) : Json → Except Failure (Option α)
  | .obj members => fitting (read (.obj members))
  | _ => .ok none

theorem recordRead_eq_ok_iff (v : Json) (r : Option α) :
    recordRead read v = .ok r ↔ Fits read v ∧ r = recordOf read v := by
  unfold Fits
  cases v with
  | obj members => simp [recordRead, recordOf, fitting_eq_ok_iff]
  | _ => simp [recordRead, recordOf, @eq_comm _ r]

theorem reads_readRecord (kind : String) (v : Json) :
    Action.Reads (readRecord kind read v) fun _ => recordRead read v := by
  unfold readRecord recordRead
  cases v with
  | obj members =>
      dsimp only
      cases read (.obj members) with
      | ok r => exact Action.reads_pure (some r)
      | error fault =>
          unfold fitting
          dsimp only
          split
          · exact reads_warn _ _ none
          · exact Action.reads_throw _
  | _ => exact Action.reads_pure none

/-- What reading the records in a list of an object gives. -/
def recordsRead (member : String) (read : Json → Except DataFault α)
    (members : List (Text × Json)) : Except Failure (List α) :=
  match (Json.obj members).list member with
  | .error fault => .error (.data fault)
  | .ok vs => vs.mapM (recordRead read) >>= fun rs => .ok (rs.filterMap id)

theorem recordsRead_eq_ok_iff {member : String} {members : List (Text × Json)} {rs : List α} :
    recordsRead member read members = .ok rs ↔
      IsIterable (field members member) ∧
        (∀ v ∈ itemsOrNone (field members member), Fits read v) ∧
        rs = recordsIn member read members := by
  unfold recordsRead
  cases hl : (Json.obj members).list member with
  | error fault => simp [(list_obj_eq_error_iff.1 hl).1]
  | ok vs =>
      obtain ⟨hi, rfl⟩ := list_obj_eq_ok_iff.1 hl
      simp only [Except.bind_eq_ok_iff, Except.mapM_eq_ok_map_iff recordRead_eq_ok_iff, hi,
        true_and]
      unfold recordsIn
      constructor
      · rintro ⟨os, ⟨hv, rfl⟩, h⟩
        exact ⟨hv, by simpa [List.filterMap_map] using (Except.ok.inj h).symm⟩
      · rintro ⟨hv, rfl⟩
        exact ⟨_, ⟨hv, rfl⟩, by simp [List.filterMap_map]⟩

theorem reads_readRecords (kind member : String) (members : List (Text × Json)) :
    Action.Reads (readRecords kind member read (.obj members)) fun _ =>
      recordsRead member read members := by
  unfold readRecords recordsRead
  cases (Json.obj members).list member with
  | error fault => exact Action.reads_throw _
  | ok vs =>
      exact (Action.Reads.mapM (fun v => reads_readRecord kind v) vs).bind fun rs =>
        Action.reads_pure (rs.filterMap id)

/-! ## Loading -/

/-- What loading needs of the files. -/
structure Loadable (s : Store) (t : FileTree) : Prop where
  /-- The file system can be asked about the state files. -/
  names : ∀ file ∈ [s.itemsFile, s.gapsFile, s.codeMapFile], Action.checkNames file = .ok ()
  /-- No state file holds an integer with more digits than are read. -/
  integers : ∀ file ∈ [s.itemsFile, s.gapsFile, s.codeMapFile], ¬ HoldsHugeInteger file t
  /-- The articles and questions can be gone through. -/
  items : IsIterable (field (membersOf (stateIn s.itemsFile t)) "items")
  gaps : IsIterable (field (membersOf (stateIn s.gapsFile t)) "gaps")
  /-- No article has a confidence beyond all doubles. -/
  confidence : ∀ members,
    .obj members ∈ itemsOrNone (field (membersOf (stateIn s.itemsFile t)) "items") →
      ¬ Article.IsBeyondDoubles members
  /-- No question has an infinite frequency. -/
  frequency : ∀ members,
    .obj members ∈ itemsOrNone (field (membersOf (stateIn s.gapsFile t)) "gaps") →
      ¬ Gap.IsBeyondIntegers members
  /-- What does not fit in the code map is a missing member or a value that cannot be converted. -/
  codeMap : ∀ members, stateIn s.codeMapFile t = some (.obj members) →
    (CodeMap.ofJson (.obj members)).Faults DataFault.IsPlain

/-- The faults that lead to leaving something out are the plain ones. -/
theorem isMisfit_iff_isPlain {e : DataFault} (h : e.IsPlainOrRange ∨ e = .noPart) :
    isMisfit e = true ↔ e.IsPlain := by
  unfold DataFault.IsPlainOrRange at h
  cases e <;> simp_all [isMisfit, DataFault.IsPlain]

/-- If reading can only give plain faults and `outOfRange`, then just objects that give the
latter do not fit. -/
theorem fits_iff {P : List (Text × Json) → Prop}
    (hf : ∀ members, (read (.obj members)).Faults DataFault.IsPlainOrRange)
    (hP : ∀ members, read (.obj members) = .error .outOfRange ↔ P members) (v : Json) :
    Fits read v ↔ ∀ members, v = .obj members → ¬ P members := by
  refine forall₂_congr fun members _ => ?_
  rw [← hP]
  constructor
  · intro h he
    exact nomatch h _ he
  · intro h e he
    rcases hf members e he with hp | rfl
    · exact (isMisfit_iff_isPlain (.inl (.inl hp))).2 hp
    · exact absurd he h

theorem fits_codeMap_iff (v : Json) :
    Fits CodeMap.ofJson v ↔
      ∀ members, v = .obj members → (CodeMap.ofJson (.obj members)).Faults DataFault.IsPlain := by
  refine forall₂_congr fun members _ => ?_
  exact forall₂_congr fun e he => isMisfit_iff_isPlain (CodeMap.faults_ofJson members e he)

/-- What the code map is read as, given the value in its file. -/
def codeMapRead : Option Json → Except Failure (Option CodeMap)
  | some v => recordRead CodeMap.ofJson v
  | none => .ok none

theorem codeMapRead_eq_ok_iff {state : Option Json} {r : Option CodeMap} :
    codeMapRead state = .ok r ↔
      (∀ v, state = some v → Fits CodeMap.ofJson v) ∧ r = state.bind (recordOf CodeMap.ofJson) := by
  cases state with
  | none => simp [codeMapRead, @eq_comm _ r]
  | some v => simp [codeMapRead, recordRead_eq_ok_iff]

theorem reads_loadCodeMap (s : Store) :
    Action.Reads s.loadCodeMap fun t => stateRead s.codeMapFile t >>= codeMapRead := by
  unfold loadCodeMap
  refine (reads_readState s.codeMapFile).bind (g := fun state _ => codeMapRead state)
    fun state => ?_
  match state with
  | some (.obj members) =>
      unfold codeMapRead recordRead
      dsimp only
      cases CodeMap.ofJson (.obj members) with
      | ok m => exact Action.reads_pure (some m)
      | error fault =>
          unfold fitting
          dsimp only
          split
          · exact reads_warn _ _ none
          · exact Action.reads_throw _
  | none | some .null | some (.bool _) | some (.int _) | some (.float _) | some (.str _)
  | some (.arr _) => exact Action.reads_pure none

/-- What loading gives. -/
def loaded (s : Store) (t : FileTree) : Except Failure KnowledgeBase := do
  let items ← stateRead s.itemsFile t
  let gaps ← stateRead s.gapsFile t
  let articles ← recordsRead "items" Article.ofJson (membersOf items)
  let gaps ← recordsRead "gaps" Gap.ofJson (membersOf gaps)
  let codeMap ← stateRead s.codeMapFile t >>= codeMapRead
  return { articles, gaps, codeMap, info := s.infoOf (.obj (membersOf items)) }

theorem objectOf_eq (state : Option Json) : objectOf state = .obj (membersOf state) := by
  match state with
  | some (.obj members) => rfl
  | none | some .null | some (.bool _) | some (.int _) | some (.float _) | some (.str _)
  | some (.arr _) => rfl

theorem reads_load (s : Store) : Action.Reads s.load s.loaded := by
  unfold load loaded
  refine (reads_readState _).bind fun items => (reads_readState _).bind fun gaps => ?_
  rw [objectOf_eq, objectOf_eq]
  exact (reads_readRecords _ _ _).bind fun articles => (reads_readRecords _ _ _).bind fun gaps =>
    (reads_loadCodeMap s).bind fun codeMap => Action.reads_pure _

theorem loaded_eq_ok_iff {s : Store} {k : KnowledgeBase} :
    s.loaded t = .ok k ↔ s.Loadable t ∧ k = s.content t := by
  simp only [loaded, Except.bind_eq_ok_iff, stateRead_eq_ok_iff, recordsRead_eq_ok_iff,
    codeMapRead_eq_ok_iff, fits_iff Article.faults_ofJson fun _ => Article.ofJson_eq_outOfRange_iff,
    fits_iff Gap.faults_ofJson fun _ => Gap.ofJson_eq_outOfRange_iff, fits_codeMap_iff]
  constructor
  · rintro ⟨items, ⟨hi₁, hi₂, rfl⟩, gaps, ⟨hg₁, hg₂, rfl⟩, as, ⟨ha₁, ha₂, rfl⟩, gs, ⟨hs₁, hs₂, rfl⟩,
      m, ⟨state, ⟨hm₁, hm₂, rfl⟩, hm, rfl⟩, hk⟩
    exact ⟨⟨by simp [hi₁, hg₁, hm₁], by simp [hi₂, hg₂, hm₂], ha₁, hs₁,
      fun members h => ha₂ _ h members rfl, fun members h => hs₂ _ h members rfl,
      fun members h => hm _ h members rfl⟩, (Except.ok.inj hk).symm⟩
  · rintro ⟨h, rfl⟩
    have names := h.names
    have integers := h.integers
    simp only [List.forall_mem_cons, List.not_mem_nil, false_implies, implies_true,
      and_true] at names integers
    exact ⟨_, ⟨names.1, integers.1, rfl⟩, _, ⟨names.2.1, integers.2.1, rfl⟩,
      _, ⟨h.items, fun v hv members hm => h.confidence members (hm ▸ hv), rfl⟩,
      _, ⟨h.gaps, fun v hv members hm => h.frequency members (hm ▸ hv), rfl⟩,
      _, ⟨_, ⟨names.2.2, integers.2.2, rfl⟩,
        fun v hv members hm => h.codeMap members (hm ▸ hv), rfl⟩,
      rfl⟩

/-- A file of questions whose only one was asked infinitely often. -/
def endlessQuestion : Text :=
  "\x7b\"gaps\": [\x7b\"id\": \"g\", \"question\": \"q\", \"frequency\": Infinity\x7d]\x7d"

/-- A workspace with nothing but this file. -/
def endlessWorkspace : Workspace where
  files := ⟨[([lit ".kodex"], .dir),
    ([lit ".kodex", lit "gaps.json"], .file (endlessQuestion.flatMap CodePoint.utf8))]⟩
  now := ⟨0⟩

end Store

end HelpCenter

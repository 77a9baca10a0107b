import HelpCenter.Article.Basic
import HelpCenter.Proofs.Json.Fields

/-!
# Faults of reading records

Reading a record from an object gives few faults.  Which articles and questions give `outOfRange`
is said exactly: the fields before the number must fit, and the number must be an integer beyond
all doubles or infinite.
-/

namespace HelpCenter

open Json

/-- A member is missing, or a value cannot be converted. -/
def DataFault.IsPlain : DataFault → Prop
  | .missing _ | .wrongKind | .unreadable => True
  | _ => False

/-- The fault of a number without counterpart, or a plain one. -/
def DataFault.IsPlainOrRange (e : DataFault) : Prop := e.IsPlain ∨ e = .outOfRange

namespace Json

variable {members : List (Text × Json)} {name : String}

theorem faults_text : ((Json.obj members).text name).Faults DataFault.IsPlainOrRange := by
  intro e h
  rw [(text_obj_eq_error_iff.1 h).2]
  exact .inl trivial

theorem faults_list : ((Json.obj members).list name).Faults DataFault.IsPlainOrRange := by
  intro e h
  rw [(list_obj_eq_error_iff.1 h).2]
  exact .inl trivial

theorem faults_integerOr {default : Int} :
    ((Json.obj members).integerOr name default).Faults DataFault.IsPlainOrRange := by
  intro e h
  rcases integerOr_obj_eq_error h with rfl | rfl | rfl
  · exact .inl trivial
  · exact .inl trivial
  · exact .inr rfl

theorem faults_doubleOrZero :
    ((Json.obj members).doubleOrZero name).Faults DataFault.IsPlainOrRange := by
  intro e h
  rcases doubleOrZero_obj_eq_error h with rfl | rfl | rfl
  · exact .inl trivial
  · exact .inl trivial
  · exact .inr rfl

theorem faults_optional : ((Json.obj members).optional name).Faults DataFault.IsPlainOrRange :=
  Except.faults_ok _

theorem faults_flag : ((Json.obj members).flag name).Faults DataFault.IsPlainOrRange :=
  Except.faults_ok _

theorem faults_textOr {default : Text} :
    ((Json.obj members).textOr name default).Faults DataFault.IsPlainOrRange :=
  Except.faults_ok _

theorem faults_listOf {α : Type} {read : Json → Except DataFault α}
    (h : ∀ v, (read v).Faults DataFault.IsPlainOrRange) :
    ((Json.obj members).listOf name read).Faults DataFault.IsPlainOrRange :=
  faults_list.bind fun _ _ => Except.Faults.mapM fun v _ => h v

/-- A reader that begins with a required text refuses everything but objects. -/
theorem faults_of_obj {α : Type} {read : Json → Except DataFault α} {name : String}
    {next : Json → Text → Except DataFault α} (hread : ∀ j, read j = j.text name >>= next j)
    (h : ∀ members, (read (.obj members)).Faults DataFault.IsPlainOrRange) (j : Json) :
    (read j).Faults DataFault.IsPlainOrRange := by
  cases j with
  | obj members => exact h members
  | _ =>
      intro e he
      rw [hread] at he
      cases he
      exact .inl trivial

end Json

/-! ## Articles and questions -/

/-- The members fit an article but for a confidence beyond all doubles. -/
def Article.IsBeyondDoubles (members : List (Text × Json)) : Prop :=
  HasField members "id" ∧ HasField members "topic" ∧ IsIterable (field members "pages") ∧
    IsIterable (field members "source_files") ∧ IsHuge (field members "confidence")

/-- The members fit a question but for an infinite frequency. -/
def Gap.IsBeyondIntegers (members : List (Text × Json)) : Prop :=
  HasField members "id" ∧ HasField members "question" ∧
    IsInfinite (field members "frequency")

theorem Article.ofJson_eq_outOfRange_iff {members : List (Text × Json)} :
    Article.ofJson (.obj members) = .error .outOfRange ↔ Article.IsBeyondDoubles members := by
  unfold Article.ofJson Article.IsBeyondDoubles
  simp [Except.bind_eq_error_iff, pure, Except.pure, and_assoc]

theorem Gap.ofJson_eq_outOfRange_iff {members : List (Text × Json)} :
    Gap.ofJson (.obj members) = .error .outOfRange ↔ Gap.IsBeyondIntegers members := by
  unfold Gap.ofJson Gap.IsBeyondIntegers
  simp [Except.bind_eq_error_iff, pure, Except.pure, and_assoc]

theorem Article.faults_ofJson (members : List (Text × Json)) :
    (Article.ofJson (.obj members)).Faults DataFault.IsPlainOrRange := by
  unfold Article.ofJson
  refine faults_text.bind fun _ _ => faults_text.bind fun _ _ => faults_textOr.bind fun _ _ =>
    faults_list.bind fun _ _ => faults_textOr.bind fun _ _ => faults_list.bind fun _ _ =>
    faults_textOr.bind fun _ _ => faults_textOr.bind fun _ _ => faults_textOr.bind fun _ _ =>
    faults_doubleOrZero.bind fun _ _ => faults_flag.bind fun _ _ => faults_flag.bind fun _ _ =>
    faults_optional.bind fun _ _ => faults_optional.bind fun _ _ => Except.faults_ok _

theorem Gap.faults_ofJson (members : List (Text × Json)) :
    (Gap.ofJson (.obj members)).Faults DataFault.IsPlainOrRange := by
  unfold Gap.ofJson
  refine faults_text.bind fun _ _ => faults_text.bind fun _ _ => faults_textOr.bind fun _ _ =>
    faults_integerOr.bind fun _ _ => faults_textOr.bind fun _ _ => faults_optional.bind fun _ _ =>
    faults_optional.bind fun _ _ => faults_optional.bind fun _ _ => faults_optional.bind fun _ _ =>
    faults_optional.bind fun _ _ => Except.faults_ok _

/-! ## Code maps -/

theorem Route.faults_ofJson : ∀ j, (Route.ofJson j).Faults DataFault.IsPlainOrRange := by
  refine faults_of_obj (fun _ => rfl) fun members => ?_
  refine faults_text.bind fun _ _ => faults_text.bind fun _ _ => faults_optional.bind fun _ _ =>
    faults_optional.bind fun _ _ => faults_list.bind fun _ _ => Except.faults_ok _

theorem Component.faults_ofJson : ∀ j, (Component.ofJson j).Faults DataFault.IsPlainOrRange := by
  refine faults_of_obj (fun _ => rfl) fun members => ?_
  refine faults_text.bind fun _ _ => faults_text.bind fun _ _ => faults_integerOr.bind fun _ _ =>
    faults_flag.bind fun _ _ => faults_optional.bind fun _ _ => faults_list.bind fun _ _ =>
    Except.faults_ok _

theorem UiText.faults_ofJson : ∀ j, (UiText.ofJson j).Faults DataFault.IsPlainOrRange := by
  refine faults_of_obj (fun _ => rfl) fun members => ?_
  refine faults_text.bind fun _ _ => faults_text.bind fun _ _ => faults_integerOr.bind fun _ _ =>
    faults_textOr.bind fun _ _ => faults_optional.bind fun _ _ => Except.faults_ok _

theorem Evidence.faults_ofJson : ∀ j, (Evidence.ofJson j).Faults DataFault.IsPlainOrRange := by
  refine faults_of_obj (fun _ => rfl) fun members => ?_
  refine faults_text.bind fun _ _ => faults_text.bind fun _ _ => faults_integerOr.bind fun _ _ =>
    Except.faults_ok _

theorem Feature.faults_ofJson : ∀ j, (Feature.ofJson j).Faults DataFault.IsPlainOrRange := by
  refine faults_of_obj (fun _ => rfl) fun members => ?_
  refine faults_text.bind fun _ _ => faults_doubleOrZero.bind fun _ _ =>
    (faults_listOf Evidence.faults_ofJson).bind fun _ _ => Except.faults_ok _

theorem Page.faults_ofJson : ∀ j, (Page.ofJson j).Faults DataFault.IsPlainOrRange := by
  refine faults_of_obj (fun _ => rfl) fun members => ?_
  refine faults_text.bind fun _ _ => faults_list.bind fun _ _ => faults_list.bind fun _ _ =>
    (faults_listOf UiText.faults_ofJson).bind fun _ _ => faults_list.bind fun _ _ =>
    Except.faults_ok _

theorem Endpoint.faults_ofJson : ∀ j, (Endpoint.ofJson j).Faults DataFault.IsPlainOrRange := by
  refine faults_of_obj (fun _ => rfl) fun members => ?_
  refine faults_text.bind fun _ _ => faults_text.bind fun _ _ => faults_text.bind fun _ _ =>
    faults_optional.bind fun _ _ => Except.faults_ok _

theorem ScanInfo.faults_ofJson (members : List (Text × Json)) :
    (ScanInfo.ofJson (.obj members)).Faults DataFault.IsPlainOrRange := by
  refine faults_textOr.bind fun _ _ => faults_integerOr.bind fun _ _ =>
    faults_integerOr.bind fun _ _ => faults_optional.bind fun _ _ =>
    faults_integerOr.bind fun _ _ => Except.faults_ok _

/-- Circumstances that are no object have no parts. -/
theorem ScanInfo.ofJson_eq_error {j : Json} {e : DataFault} (h : ScanInfo.ofJson j = .error e) :
    e.IsPlainOrRange ∨ (∀ members, j ≠ .obj members) ∧ e = .noPart := by
  cases j with
  | obj members => exact .inl (ScanInfo.faults_ofJson members e h)
  | _ => cases h; exact .inr ⟨nofun, rfl⟩

theorem CodeMap.faults_ofJson (members : List (Text × Json)) :
    (CodeMap.ofJson (.obj members)).Faults fun e => e.IsPlainOrRange ∨ e = .noPart := by
  have loose {α : Type} {x : Except DataFault α} (h : x.Faults DataFault.IsPlainOrRange) :
      x.Faults fun e => e.IsPlainOrRange ∨ e = .noPart := h.mono fun _ => .inl
  refine (loose (faults_listOf Route.faults_ofJson)).bind fun _ _ =>
    (loose (faults_listOf Component.faults_ofJson)).bind fun _ _ =>
    (loose (faults_listOf Page.faults_ofJson)).bind fun _ _ =>
    (loose (faults_listOf UiText.faults_ofJson)).bind fun _ _ =>
    (loose (faults_listOf Endpoint.faults_ofJson)).bind fun _ _ =>
    (loose (faults_listOf Feature.faults_ofJson)).bind fun _ _ =>
    (loose faults_optional).bind fun _ _ =>
    Except.Faults.bind (fun e h => ?_) fun _ _ => Except.faults_ok _
  exact (ScanInfo.ofJson_eq_error h).imp_right And.right

end HelpCenter

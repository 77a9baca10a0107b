import HelpCenter.Json.Loose
import HelpCenter.Proofs.Except
import HelpCenter.Proofs.Number.Rounding

/-!
# Reading the fields of an object

Each reader of a field is described by the member it looks at (`field`) and, where it can fail, by
the faults it can give: going through a value gives `wrongKind` only, an infinite number is no
integer (`toInteger_eq_outOfRange_iff`), and an integer can be too large for a double
(`toDouble_eq_outOfRange_iff`).
-/

namespace HelpCenter.Json

/-- The value of a member, null where there is none. -/
def field (members : List (Text × Json)) (name : String) : Json :=
  (member? (lit name) members).getD .null

/-- The object has a member of a name. -/
def HasField (members : List (Text × Json)) (name : String) : Prop :=
  (member? (lit name) members).isSome = true

variable {members : List (Text × Json)} {name : String}

@[simp] theorem optional_obj : (Json.obj members).optional name = .ok (field members name) := rfl

@[simp] theorem text_obj_eq_ok_iff {t : Text} :
    (Json.obj members).text name = .ok t ↔
      HasField members name ∧ t = (field members name).display := by
  unfold text required HasField field
  cases h : member? (lit name) members with
  | none => simp [h, Functor.map, Except.map]
  | some v => simp [h, Functor.map, Except.map, eq_comm]

@[simp] theorem text_obj_eq_error_iff {e : DataFault} :
    (Json.obj members).text name = .error e ↔
      ¬ HasField members name ∧ e = .missing (lit name) := by
  unfold text required HasField
  cases h : member? (lit name) members with
  | none => simp [h, Functor.map, Except.map, eq_comm]
  | some v => simp [h, Functor.map, Except.map]

@[simp] theorem textOr_obj (default : Text) :
    (Json.obj members).textOr name default =
      .ok (if (field members name).isNothing then default else (field members name).display) :=
  rfl

@[simp] theorem flag_obj :
    (Json.obj members).flag name = .ok (!(field members name).isNothing) := rfl

/-! ## Values to go through -/

/-- The items that a list field has, none where it stands for nothing or is no list. -/
def itemsOrNone (v : Json) : List Json :=
  if v.isNothing then [] else v.items.toOption.getD []

/-- The value stands for nothing or can be gone through. -/
def IsIterable (v : Json) : Prop := v.isNothing = true ∨ ∃ items, v.items = .ok items

theorem items_eq_error {v : Json} {e : DataFault} (h : v.items = .error e) : e = .wrongKind := by
  cases v <;> cases h <;> rfl

theorem list_obj :
    (Json.obj members).list name =
      if (field members name).isNothing then .ok [] else (field members name).items := by
  unfold list
  rw [optional_obj]
  rfl

@[simp] theorem list_obj_eq_ok_iff {items : List Json} :
    (Json.obj members).list name = .ok items ↔
      IsIterable (field members name) ∧ items = itemsOrNone (field members name) := by
  rw [list_obj]
  unfold IsIterable itemsOrNone
  split
  · next h => simp [h, eq_comm]
  · next h =>
    cases (field members name).items with
    | error e => simp [h]
    | ok xs => simp [h, Except.toOption, eq_comm]

@[simp] theorem list_obj_eq_error_iff {e : DataFault} :
    (Json.obj members).list name = .error e ↔
      ¬ IsIterable (field members name) ∧ e = .wrongKind := by
  rw [list_obj]
  unfold IsIterable
  split
  · next h => simp [h]
  · next h =>
    cases hi : (field members name).items with
    | error e' => simp [h, items_eq_error hi, eq_comm]
    | ok xs => simp [h]

/-! ## Numbers -/

/-- The value is plus or minus infinity. -/
def IsInfinite (v : Json) : Prop := ∃ neg, v = .float (.infinite neg)

/-- The value is an integer beyond all doubles. -/
def IsHuge (v : Json) : Prop := ∃ n, v = .int n ∧ (Binary64.ofInt n).isFinite = false

theorem toInteger_eq_outOfRange_iff {v : Json} :
    v.toInteger = .error .outOfRange ↔ v.IsInfinite := by
  unfold IsInfinite
  cases v with
  | float x =>
      cases x with
      | nan => simp [toInteger]
      | infinite neg => exact ⟨fun _ => ⟨neg, rfl⟩, fun _ => rfl⟩
      | finite neg m e h =>
          unfold toInteger Binary64.truncate?
          exact ⟨nofun, nofun⟩
  | str t => cases h : Text.readInteger? t <;> simp [toInteger, h]
  | _ => simp [toInteger]

theorem toInteger_eq_error {v : Json} {e : DataFault} (h : v.toInteger = .error e) :
    e = .unreadable ∨ e = .wrongKind ∨ e = .outOfRange := by
  cases v with
  | float x => cases x <;> cases h <;> simp
  | str t =>
      cases hr : Text.readInteger? t with
      | none => rw [toInteger, hr] at h; cases h; simp
      | some n => rw [toInteger, hr] at h; cases h
  | _ => cases h <;> simp

theorem toDouble_eq_outOfRange_iff {v : Json} :
    v.toDouble = .error .outOfRange ↔ v.IsHuge := by
  unfold IsHuge
  cases v with
  | int n => cases h : (Binary64.ofInt n).isFinite <;> simp [toDouble, h]
  | str t => cases h : Text.readDouble? t <;> simp [toDouble, h]
  | _ => simp [toDouble]

theorem toDouble_eq_error {v : Json} {e : DataFault} (h : v.toDouble = .error e) :
    e = .unreadable ∨ e = .wrongKind ∨ e = .outOfRange := by
  cases v with
  | int n =>
      cases hr : (Binary64.ofInt n).isFinite <;> simp only [toDouble, hr] at h <;> cases h
      simp
  | str t =>
      cases hr : Text.readDouble? t with
      | none => rw [toDouble, hr] at h; cases h; simp
      | some x => rw [toDouble, hr] at h; cases h
  | _ => cases h <;> simp

theorem integerOr_obj (default : Int) :
    (Json.obj members).integerOr name default =
      if (field members name).isNothing then .ok default else (field members name).toInteger := by
  unfold integerOr
  rw [optional_obj]
  rfl

theorem doubleOrZero_obj :
    (Json.obj members).doubleOrZero name =
      if (field members name).isNothing then .ok (.zero false)
      else (field members name).toDouble := by
  unfold doubleOrZero
  rw [optional_obj]
  rfl

theorem integerOr_obj_eq_error {default : Int} {e : DataFault}
    (h : (Json.obj members).integerOr name default = .error e) :
    e = .unreadable ∨ e = .wrongKind ∨ e = .outOfRange := by
  rw [integerOr_obj] at h
  split at h
  · cases h
  · exact toInteger_eq_error h

@[simp] theorem integerOr_obj_eq_outOfRange_iff {default : Int} :
    (Json.obj members).integerOr name default = .error .outOfRange ↔
      (field members name).IsInfinite := by
  rw [integerOr_obj]
  split
  · next h =>
    refine ⟨nofun, fun ⟨neg, hv⟩ => ?_⟩
    rw [hv] at h
    cases h
  · exact toInteger_eq_outOfRange_iff

theorem doubleOrZero_obj_eq_error {e : DataFault}
    (h : (Json.obj members).doubleOrZero name = .error e) :
    e = .unreadable ∨ e = .wrongKind ∨ e = .outOfRange := by
  rw [doubleOrZero_obj] at h
  split at h
  · cases h
  · exact toDouble_eq_error h

@[simp] theorem doubleOrZero_obj_eq_outOfRange_iff :
    (Json.obj members).doubleOrZero name = .error .outOfRange ↔
      (field members name).IsHuge := by
  rw [doubleOrZero_obj]
  split
  · next h =>
    refine ⟨nofun, fun ⟨n, hv, hn⟩ => ?_⟩
    have hz : n = 0 := by rw [hv] at h; simpa [isNothing] using h
    rw [hz, Binary64.ofInt_zero] at hn
    cases hn
  · exact toDouble_eq_outOfRange_iff

end HelpCenter.Json

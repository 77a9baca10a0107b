import HelpCenter.Failure
import HelpCenter.Json.Display
import HelpCenter.Number.Basic
import HelpCenter.Number.Reading

/-!
# Records from loose values

A record is read member by member. A member of another kind than the record wants is converted
where that makes sense, a member that stands for nothing counts as absent, and the first member
that does not fit gives the fault.
-/

namespace HelpCenter.Json

/-- The member of a name, which must be there. -/
def required (name : String) : Json → Except DataFault Json
  | .obj members =>
    match member? (lit name) members with
    | some v => .ok v
    | none => .error (.missing (lit name))
  | _ => .error .wrongKind

/-- The member of a name, null where there is none. -/
def optional (name : String) : Json → Except DataFault Json
  | .obj members => .ok ((member? (lit name) members).getD .null)
  | _ => .error .noPart

/-- The value as an integer; a fraction is cut off. -/
def toInteger : Json → Except DataFault Int
  | .int n => .ok n
  | .bool b => .ok (if b then 1 else 0)
  | .float .nan => .error .unreadable
  | .float x =>
    match x.truncate? with
    | some n => .ok n
    | none => .error .outOfRange
  | .str t =>
    match Text.readInteger? t with
    | some n => .ok n
    | none => .error .unreadable
  | _ => .error .wrongKind

/-- The value as a double. -/
def toDouble : Json → Except DataFault Binary64
  | .int n =>
    let x := Binary64.ofInt n
    if x.isFinite then .ok x else .error .outOfRange
  | .bool b => .ok (.ofInt (if b then 1 else 0))
  | .float x => .ok x
  | .str t =>
    match Text.readDouble? t with
    | some x => .ok x
    | none => .error .unreadable
  | _ => .error .wrongKind

/-- The items that a value can be gone through by: a text has its characters and an object the
names of its members. -/
def items : Json → Except DataFault (List Json)
  | .arr items => .ok items
  | .str t => .ok (t.map fun c => .str [c])
  | .obj members => .ok (members.map fun (n, _) => .str n)
  | _ => .error .wrongKind

/-- The required text of a record. -/
def text (name : String) (j : Json) : Except DataFault Text := display <$> j.required name

/-- A text of a record, `default` where there is nothing. -/
def textOr (name : String) (default : Text) (j : Json) : Except DataFault Text := do
  let v ← j.optional name
  return if v.isNothing then default else v.display

/-- An integer of a record, `default` where there is nothing. -/
def integerOr (name : String) (default : Int) (j : Json) : Except DataFault Int := do
  let v ← j.optional name
  if v.isNothing then return default else v.toInteger

/-- A double of a record, zero where there is nothing. -/
def doubleOrZero (name : String) (j : Json) : Except DataFault Binary64 := do
  let v ← j.optional name
  if v.isNothing then return .zero false else v.toDouble

/-- A truth value of a record: whether there is something. -/
def flag (name : String) (j : Json) : Except DataFault Bool := do
  return !(← j.optional name).isNothing

/-- A list of a record, empty where there is nothing. -/
def list (name : String) (j : Json) : Except DataFault (List Json) := do
  let v ← j.optional name
  if v.isNothing then return [] else v.items

/-- A list of a record with all its items read. -/
def listOf (name : String) (read : Json → Except DataFault α) (j : Json) :
    Except DataFault (List α) := do
  (← j.list name).mapM read

/-- Whether the value can be looked up in a set: lists and objects cannot. -/
def isKey : Json → Bool
  | .arr _ | .obj _ => false
  | _ => true

end HelpCenter.Json

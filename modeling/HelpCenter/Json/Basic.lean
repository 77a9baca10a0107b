import HelpCenter.Number.Binary64
import HelpCenter.Text.Basic

/-!
# JSON values

Integers and doubles are kept apart, and an object is its list of members in order. In an object
that was read no two members have the same name.
-/

namespace HelpCenter

/-- A JSON value. -/
inductive Json where
  | null
  | bool (value : Bool)
  | int (value : Int)
  | float (value : Binary64)
  | str (value : Text)
  | arr (items : List Json)
  | obj (members : List (Text × Json))

namespace Json

instance : Inhabited Json := ⟨.null⟩

/-- Sets a member: an existing one keeps its place, a new one goes to the end. -/
def put (name : Text) (value : Json) : List (Text × Json) → List (Text × Json)
  | [] => [(name, value)]
  | (n, v) :: rest => if n = name then (n, value) :: rest else (n, v) :: put name value rest

/-- The member of a name in a list of members. -/
def member? (name : Text) : List (Text × Json) → Option Json
  | [] => none
  | (n, v) :: rest => if n = name then some v else member? name rest

/-- The member of a name, if the value is an object and has it. -/
def get? (name : Text) : Json → Option Json
  | .obj members => member? name members
  | _ => none

/-- Whether the value stands for nothing: null, false, zero, or an empty text, list or object. -/
def isNothing : Json → Bool
  | .null => true
  | .bool b => !b
  | .int n => n == 0
  | .float x => x.isZero
  | .str t => t.isEmpty
  | .arr items => items.isEmpty
  | .obj members => members.isEmpty

/-- The text, if the value is one. -/
def str? : Json → Option Text
  | .str t => some t
  | _ => none

/-- An optional text, null where there is none. -/
def ofText? : Option Text → Json
  | some t => .str t
  | none => .null

/-- A list of texts. -/
def ofTexts (ts : List Text) : Json := .arr (ts.map .str)

/-- An object from names and values. -/
def ofFields (fields : List (String × Json)) : Json :=
  .obj (fields.map fun (n, v) => (Text.ofString n, v))

end Json

end HelpCenter

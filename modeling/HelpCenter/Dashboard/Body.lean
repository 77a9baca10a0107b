import HelpCenter.Json.Basic
import HelpCenter.Number.Binary64

/-!
# Bodies of requests

The body of a request is an object whose members are checked one by one. All faults are reported
together, each with its kind and the way to the value.
-/

namespace HelpCenter

/-- What is wrong with a value of a body. -/
inductive BodyFaultKind where
  | missing
  | notObject
  | notText
  | notList
  | notTruth
  | noTruthValue
deriving DecidableEq

/-- The name of a kind of fault. -/
def BodyFaultKind.name : BodyFaultKind → Text
  | .missing => lit "missing"
  | .notObject => lit "model_attributes_type"
  | .notText => lit "string_type"
  | .notList => lit "list_type"
  | .notTruth => lit "bool_type"
  | .noTruthValue => lit "bool_parsing"

/-- A fault of a body and the way to the value. -/
structure BodyFault where
  kind : BodyFaultKind
  way : List Json

/-- A value that was checked, or all its faults. -/
abbrev Checked (α : Type) := Except (List BodyFault) α

namespace Checked

/-- Both values, or the faults of both. -/
def and {α β : Type} : Checked α → Checked β → Checked (α × β)
  | .ok a, .ok b => .ok (a, b)
  | .error es, .ok _ => .error es
  | .ok _, .error fs => .error fs
  | .error es, .error fs => .error (es ++ fs)

/-- All values, or the faults of all. -/
def all {α : Type} : List (Checked α) → Checked (List α)
  | [] => .ok []
  | c :: rest => ((c.and (all rest)).map fun (a, as) => a :: as)

end Checked

namespace Body

/-- Reports a fault of a member. -/
def fault {α : Type} (kind : BodyFaultKind) (name : String) (inside : List Json) : Checked α :=
  .error [⟨kind, .str (lit "body") :: .str (lit name) :: inside⟩]

/-- The members of a body, which must be there and be an object. -/
def members : Option Json → Checked (List (Text × Json))
  | none => .error [⟨.missing, [.str (lit "body")]⟩]
  | some (.obj ms) => .ok ms
  | some _ => .error [⟨.notObject, [.str (lit "body")]⟩]

/-- A text that must be there. -/
def text (name : String) (ms : List (Text × Json)) : Checked Text :=
  match Json.member? (lit name) ms with
  | none => fault .missing name []
  | some (.str t) => .ok t
  | some _ => fault .notText name []

/-- A text that may be missing or null. -/
def text? (name : String) (ms : List (Text × Json)) : Checked (Option Text) :=
  match Json.member? (lit name) ms with
  | none | some .null => .ok none
  | some (.str t) => .ok (some t)
  | some _ => fault .notText name []

/-- The texts in a list, whose first item has the number `n`. -/
def itemTexts (name : String) : (n : Nat) → List Json → List (Checked Text)
  | _, [] => []
  | n, .str t :: rest => .ok t :: itemTexts name (n + 1) rest
  | n, _ :: rest => fault .notText name [.int n] :: itemTexts name (n + 1) rest

/-- A list of texts that may be missing or null. -/
def texts? (name : String) (ms : List (Text × Json)) : Checked (Option (List Text)) :=
  match Json.member? (lit name) ms with
  | none | some .null => .ok none
  | some (.arr items) => (Checked.all (itemTexts name 0 items)).map some
  | some _ => fault .notList name []

/-- An ASCII letter in lower case. -/
def lowerAscii (c : CodePoint) : CodePoint :=
  if c.between 'A' 'Z' then CodePoint.ofNat (c.toNat + 32) else c

/-- The truth value that a word stands for. -/
def truthOfWord? (t : Text) : Option Bool :=
  let word := t.map lowerAscii
  if [lit "0", lit "f", lit "n", lit "no", lit "off", lit "false"].contains word then some false
  else if [lit "1", lit "t", lit "y", lit "on", lit "yes", lit "true"].contains word then some true
  else none

/-- The truth value that an integer stands for. -/
def truthOfInteger? (n : Int) : Option Bool :=
  if n = 0 then some false else if n = 1 then some true else none

/-- A truth value; words and the numbers zero and one can stand for it. -/
def truth (name : String) (default : Bool) (ms : List (Text × Json)) : Checked Bool :=
  let parsed := fun b : Option Bool =>
    match b with
    | some b => .ok b
    | none => fault .noTruthValue name []
  match Json.member? (lit name) ms with
  | none => .ok default
  | some (.bool b) => .ok b
  | some (.str t) => parsed (truthOfWord? t)
  | some (.int n) => parsed (truthOfInteger? n)
  | some (.float x) =>
    match x.truncate? with
    | some n => if x.isZero || x = .ofInt n then parsed (truthOfInteger? n) else fault .notTruth name []
    | none => fault .notTruth name []
  | some _ => fault .notTruth name []

end Body

end HelpCenter

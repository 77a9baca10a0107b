import HelpCenter.Json.Basic
import HelpCenter.Number.Decimal

/-!
# Numbers of either kind

Some options take an integer or a double and show it as it was given.
-/

namespace HelpCenter

/-- An integer or a double. -/
inductive Number where
  | int (value : Int)
  | double (value : Binary64)
deriving DecidableEq

namespace Number

/-- The text of a number. -/
def toText : Number → Text
  | .int n => Text.ofInt n
  | .double x => x.toText

/-- The number as JSON. -/
def toJson : Number → Json
  | .int n => .int n
  | .double x => .float x

end Number

end HelpCenter

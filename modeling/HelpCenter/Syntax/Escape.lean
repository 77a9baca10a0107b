import HelpCenter.Failure
import HelpCenter.Number.Reading

/-!
# Escape sequences of string literals

A backslash and what follows it stand for one character, or for none where a line continues.
-/

namespace HelpCenter.Escape

/-- Whether a code point ends a line in a literal. -/
def endsLine (c : CodePoint) : Bool :=
  c = '\r' || c = '\n' || c.toNat == 0x2028 || c.toNat == 0x2029

/-- The control character of a one-letter escape. -/
def simple? (c : CodePoint) : Option CodePoint :=
  match c.toChar with
  | 'n' => some '\n'
  | 't' => some '\t'
  | 'r' => some '\r'
  | 'b' => some (CodePoint.ofNat 8)
  | 'f' => some (CodePoint.ofNat 12)
  | 'v' => some (CodePoint.ofNat 11)
  | '0' => some (CodePoint.ofNat 0)
  | _ => none

/-- The numbers that may be asked for as a code point; one outside `0 … 0x10FFFF` names none. -/
def isAddressable (n : Int) : Bool := -0x80000000 ≤ n && n < 0x80000000

/-- The text of a numeric escape whose body, its letter first, is `body`. -/
def decodeNumeric (body : Text) : Except Failure Text :=
  match Text.readIntegerIn? .sixteen (Text.trimBy (fun c => c = '{' || c = '}') (body.drop 1)) with
  | none => .ok body
  | some n =>
    if !isAddressable n then .error (.data .outOfRange)
    else
      match n with
      | .ofNat n => .ok ((CodePoint.ofNat? n).elim body ([·]))
      | .negSucc _ => .ok body

/-- The text that an escape sequence stands for; its first character is the backslash. -/
def decode (sequence : Text) : Except Failure Text :=
  match sequence.drop 1 with
  | [] => .ok []
  | c :: rest =>
    if endsLine c then .ok []
    else if c = 'x' || c = 'u' then decodeNumeric (c :: rest)
    else
      match simple? c, rest with
      | some d, [] => .ok [d]
      | _, _ => .ok (c :: rest)

end HelpCenter.Escape

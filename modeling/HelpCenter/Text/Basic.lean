/-!
# Text

A text is a list of code points. It is not a `String`, because escapes in JSON, in YAML and in
script sources can name a surrogate on its own, and such a code point has to survive until the
text is written somewhere. A `String` literal is read as the text of its characters.
-/

namespace HelpCenter

/-- A Unicode code point, surrogates included. -/
structure CodePoint where
  toNat : Nat
  isLt : toNat < 0x110000
deriving DecidableEq

namespace CodePoint

/-- The code point of a character. -/
def ofChar (c : Char) : CodePoint where
  toNat := c.toNat
  isLt := by
    have v := c.valid
    have e : c.val.toNat = c.toNat := rfl
    simp only [UInt32.isValidChar, Nat.isValidChar] at v
    rw [e] at v
    omega

instance : Coe Char CodePoint := ⟨ofChar⟩

/-- Whether the code point is the given character. -/
def is (char : Char) (c : CodePoint) : Bool := c = ofChar char

/-- The replacement character `U+FFFD`. -/
def replacement : CodePoint := ⟨0xFFFD, by omega⟩

instance : Inhabited CodePoint := ⟨replacement⟩

/-- The code point numbered `n`, if there is one. -/
def ofNat? (n : Nat) : Option CodePoint :=
  if h : n < 0x110000 then some ⟨n, h⟩ else none

/-- The code point numbered `n`, or the replacement character where there is none. -/
def ofNat (n : Nat) : CodePoint := (ofNat? n).getD replacement

/-- Whether the code point is one half of a surrogate pair. -/
def isSurrogate (c : CodePoint) : Bool := 0xD800 ≤ c.toNat && c.toNat ≤ 0xDFFF

/-- The character, with the replacement character standing in for a surrogate. -/
def toChar (c : CodePoint) : Char :=
  if c.isSurrogate then '\uFFFD' else Char.ofNat c.toNat

/-- Whether the code point lies between two characters, both included. -/
def between (lo hi : Char) (c : CodePoint) : Bool := lo.toNat ≤ c.toNat && c.toNat ≤ hi.toNat

/-- One of the ASCII digits `0` to `9`. -/
def isDigit : CodePoint → Bool := between '0' '9'

/-- An ASCII letter. -/
def isLetter (c : CodePoint) : Bool := between 'a' 'z' c || between 'A' 'Z' c

/-- The value of an ASCII hexadecimal digit. -/
def hexValue? (c : CodePoint) : Option Nat :=
  if between '0' '9' c then some (c.toNat - '0'.toNat)
  else if between 'a' 'f' c then some (c.toNat - 'a'.toNat + 10)
  else if between 'A' 'F' c then some (c.toNat - 'A'.toNat + 10)
  else none

/-- An ASCII hexadecimal digit. -/
def isHexDigit (c : CodePoint) : Bool := c.hexValue?.isSome

theorem ofNat_toNat (c : CodePoint) : ofNat c.toNat = c := by
  simp [ofNat, ofNat?, c.isLt]

end CodePoint

/-- A sequence of code points. -/
abbrev Text := List CodePoint

namespace Text

/-- The text of a string. -/
def ofString (s : String) : Text := s.toList.map CodePoint.ofChar

instance : Coe String Text := ⟨ofString⟩

/-- The string with each surrogate replaced by `U+FFFD`. -/
def toString (t : Text) : String := String.ofList (t.map CodePoint.toChar)

/-- Whether no code point is a surrogate, so that the text has an encoding. -/
def isEncodable (t : Text) : Bool := t.all fun c => !c.isSurrogate

/-- Order by code points. -/
def lt : Text → Text → Bool
  | [], [] => false
  | [], _ :: _ => true
  | _ :: _, [] => false
  | a :: s, b :: t => a.toNat < b.toNat || (a.toNat == b.toNat && lt s t)

/-- The order that sorting uses. -/
def le (s t : Text) : Bool := !lt t s

/-- A natural number in decimal digits. -/
def ofNat (n : Nat) : Text := ofString n.repr

/-- An integer in decimal digits, a minus sign before a negative one. -/
def ofInt (n : Int) : Text := if n < 0 then '-' :: ofNat n.natAbs else ofNat n.natAbs

/-- A natural number in decimal with at least `width` digits. -/
def ofNatPadded (width n : Nat) : Text :=
  let digits := ofNat n
  List.replicate (width - digits.length) ('0' : CodePoint) ++ digits

/-- The value of a lower case hexadecimal digit's place. -/
def hexDigit (n : Nat) : CodePoint :=
  if n < 10 then CodePoint.ofNat (n + 48) else CodePoint.ofNat (n + 87)

/-- The lowest `width` hexadecimal digits of `n`. -/
def hexPadded : (width n : Nat) → Text
  | 0, _ => []
  | width + 1, n => hexPadded width (n / 16) ++ [hexDigit (n % 16)]

end Text

/-- The text of a string literal. -/
abbrev lit (s : String) : Text := Text.ofString s

end HelpCenter

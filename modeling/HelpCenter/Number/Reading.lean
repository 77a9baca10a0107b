import HelpCenter.Number.Binary64
import HelpCenter.Text.Blank
import HelpCenter.Text.Case
import HelpCenter.Text.Search
import HelpCenter.Text.Word

/-!
# Reading numbers from free text

Integers and doubles as people write them: blanks around, a sign, digits of any script, and
single underscores between digits.
-/

namespace HelpCenter

namespace Text

/-- White space that may surround a number; the four separator controls may not. -/
def isNumberBlank (c : CodePoint) : Bool := c.isBlank && !(0x1C ≤ c.toNat && c.toNat ≤ 0x1F)

/-- Digits of every script in ASCII; other characters stay. -/
def asciiDigits (t : Text) : Text :=
  t.map fun c => match c.digitValue? with
    | some d => CodePoint.ofNat (d + 48)
    | none => c

/-- Removes underscores that stand between two digits; another underscore makes it fail. The flag
tells whether the character before was a digit. -/
def dropUnderscores : Bool → Text → Option Text
  | _, [] => some []
  | afterDigit, c :: t =>
    if c = '_' then
      match t with
      | d :: _ => if afterDigit && d.isDigit then dropUnderscores false t else none
      | [] => none
    else (dropUnderscores c.isDigit t).map (c :: ·)

/-- The trimmed text with plain digits and without separating underscores. -/
def plainNumber? (t : Text) : Option Text :=
  dropUnderscores false (asciiDigits (trimBy isNumberBlank t))

/-- The sign and what follows it. -/
def splitSign : Text → Bool × Text
  | [] => (false, [])
  | c :: t =>
    if c = '-' then (true, t)
    else if c = '+' then (false, t)
    else (false, c :: t)

/-- The number that ASCII digits denote. -/
def digitsValue (t : Text) : Nat := t.foldl (fun n c => n * 10 + (c.toNat - 48)) 0

/-- The longest run of digits that is read as an integer. -/
def maxIntegerDigits : Nat := 4300

/-- Reads an integer. -/
def readInteger? (t : Text) : Option Int := do
  let plain ← plainNumber? t
  let (neg, digits) := splitSign plain
  if digits.isEmpty || !digits.all CodePoint.isDigit || maxIntegerDigits < digits.length then none
  else some (if neg then -(digitsValue digits : Int) else digitsValue digits)

/-- The bases other than ten in which integers are read. -/
inductive Base where
  | two
  | eight
  | sixteen
deriving DecidableEq

/-- The base as a number. -/
def Base.radix : Base → Nat
  | .two => 2
  | .eight => 8
  | .sixteen => 16

/-- The mark that may stand in front of the digits, in lower case. -/
def Base.mark : Base → Text
  | .two => lit "0b"
  | .eight => lit "0o"
  | .sixteen => lit "0x"

/-- Whether a character is a digit of the base. -/
def Base.isDigit (base : Base) (c : CodePoint) : Bool :=
  (c.hexValue?.map fun v => decide (v < base.radix)).getD false

/-- The number that digits of a base denote. -/
def Base.value (base : Base) (t : Text) : Nat :=
  t.foldl (fun n c => n * base.radix + c.hexValue?.getD 0) 0

/-- Whether every underscore stands after another character and before one that is none. -/
def underscoresSeparate : Bool → Text → Bool
  | afterDigit, [] => afterDigit
  | afterDigit, c :: t =>
    if c.is '_' then afterDigit && underscoresSeparate false t else underscoresSeparate true t

/-- Reads an integer in a base; its mark may stand in front of the digits, then an underscore may
follow it. -/
def readIntegerIn? (base : Base) (t : Text) : Option Int :=
  let (neg, body) := splitSign (asciiDigits (trimBy isNumberBlank t))
  let marked := startsWith (toLower body) base.mark
  let body := if marked then body.drop 2 else body
  let body := if marked && body.head? = some '_' then body.drop 1 else body
  let digits := body.filter fun c => !c.is '_'
  if digits.isEmpty || !digits.all base.isDigit || !underscoresSeparate false body then none
  else some (if neg then -(base.value digits : Int) else base.value digits)

/-- The exponent part of a decimal number; nothing stands for zero. -/
def readExponent? : Text → Option Int
  | [] => some 0
  | c :: t =>
    if c = 'e' || c = 'E' then
      let (neg, digits) := splitSign t
      if digits.isEmpty || !digits.all CodePoint.isDigit then none
      else some (if neg then -(digitsValue digits : Int) else digitsValue digits)
    else none

/-- Reads unsigned decimal notation: digits with an optional point, then an optional exponent. -/
def readDecimal? (neg : Bool) (t : Text) : Option Binary64 := do
  let whole := t.takeWhile CodePoint.isDigit
  let rest := t.dropWhile CodePoint.isDigit
  let (fraction, rest) :=
    match rest with
    | c :: r =>
      if c = '.' then (r.takeWhile CodePoint.isDigit, r.dropWhile CodePoint.isDigit)
      else ([], rest)
    | [] => ([], [])
  if whole.isEmpty && fraction.isEmpty then none
  let exponent ← readExponent? rest
  return Binary64.ofDecimal neg (digitsValue (whole ++ fraction)) (exponent - fraction.length)

/-- Reads a double; the words for infinity and for an undefined value count as well. -/
def readDouble? (t : Text) : Option Binary64 := do
  let plain ← plainNumber? t
  let (neg, body) := splitSign plain
  let word := Text.toLower body
  if word = ofString "inf" || word = ofString "infinity" then some (.infinite neg)
  else if word = ofString "nan" then some .nan
  else readDecimal? neg body

end Text

end HelpCenter

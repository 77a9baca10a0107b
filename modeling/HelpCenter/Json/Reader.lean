import HelpCenter.Json.Basic
import HelpCenter.Number.Reading
import HelpCenter.Text.Search
import HelpCenter.Text.Utf16

/-!
# Reading JSON

The reader accepts a little more than the standard: `NaN`, `Infinity` and `-Infinity` are
numbers, and an escaped surrogate may stand alone. Of two members with one name the later value
takes the place of the earlier.
-/

namespace HelpCenter

/-- Why a text is not read as JSON. -/
inductive JsonFault where
  /-- The text does not follow the grammar. -/
  | malformed
  /-- An integer has more digits than are read. -/
  | hugeInteger
deriving DecidableEq

namespace Json

/-- Blanks between tokens. -/
def isGap (c : CodePoint) : Bool :=
  c.toNat == 32 || c.toNat == 9 || c.toNat == 10 || c.toNat == 13

/-- The text after leading blanks. -/
def skipGap (t : Text) : Text := t.dropWhile isGap

/-- Four hexadecimal digits. -/
def readUnit? : Text → Option (Nat × Text)
  | a :: b :: c :: d :: rest => do
    let a ← a.hexValue?
    let b ← b.hexValue?
    let c ← c.hexValue?
    let d ← d.hexValue?
    return (((a * 16 + b) * 16 + c) * 16 + d, rest)
  | _ => none

/-- The character that a one-letter escape stands for. -/
def simpleEscape? (c : CodePoint) : Option CodePoint :=
  match c.toChar with
  | '"' => some c
  | '\\' => some c
  | '/' => some c
  | 'b' => some (CodePoint.ofNat 8)
  | 'f' => some (CodePoint.ofNat 12)
  | 'n' => some (CodePoint.ofNat 10)
  | 'r' => some (CodePoint.ofNat 13)
  | 't' => some (CodePoint.ofNat 9)
  | _ => none

/-- One character of a string, or its end. -/
inductive StringPart where
  | char (c : CodePoint) (rest : Text)
  | close (rest : Text)

/-- Reads the next character of a string. -/
def readPart? : Text → Option StringPart
  | [] => none
  | c :: rest =>
    if c = '"' then some (.close rest)
    else if c = '\\' then
      match rest with
      | [] => none
      | e :: rest =>
        if e = 'u' then
          match readUnit? rest with
          | none => none
          | some (u, rest) =>
            let c := CodePoint.ofNat u
            match rest with
            | b :: l :: more =>
              if c.isHigh && b == '\\' && l == 'u' then
                match readUnit? more with
                | none => none
                | some (v, more) =>
                  let d := CodePoint.ofNat v
                  if d.isLow then some (.char (CodePoint.ofPair c d) more)
                  else some (.char c rest)
              else some (.char c rest)
            | _ => some (.char c rest)
        else (simpleEscape? e).map (.char · rest)
    else if c.toNat < 32 then none
    else some (.char c rest)

/-- Reads a string whose opening quote has been read. -/
def readString? : Nat → Text → Option (Text × Text)
  | 0, _ => none
  | fuel + 1, t =>
    match readPart? t with
    | none => none
    | some (.close rest) => some ([], rest)
    | some (.char c rest) => (readString? fuel rest).map fun (s, r) => (c :: s, r)

/-- The digits of a fraction after the point, if there is a fraction. -/
def readFraction : Text → Option Text × Text
  | c :: d :: rest =>
    if c = '.' && d.isDigit then
      (some ((d :: rest).takeWhile CodePoint.isDigit), rest.dropWhile CodePoint.isDigit)
    else (none, c :: d :: rest)
  | t => (none, t)

/-- The exponent, if there is one. -/
def readPower (t : Text) : Option Int × Text :=
  match t with
  | c :: rest =>
    let (neg, digits) := Text.splitSign rest
    if (c = 'e' || c = 'E') && digits.any CodePoint.isDigit
        && (digits.takeWhile CodePoint.isDigit) ≠ [] then
      let n : Int := Text.digitsValue (digits.takeWhile CodePoint.isDigit)
      (some (if neg then -n else n), digits.dropWhile CodePoint.isDigit)
    else (none, t)
  | [] => (none, [])

/-- The digits of a number before its point; a zero stands alone. -/
def wholeDigits (t : Text) : Text :=
  match t with
  | c :: _ => if c = '0' then [c] else t.takeWhile CodePoint.isDigit
  | [] => []

/-- Reads a number after its sign. -/
def readNumber (neg : Bool) (t : Text) : Except JsonFault (Json × Text) :=
  let whole := wholeDigits t
  if whole.isEmpty then .error .malformed
  else
    let rest := t.drop whole.length
    let (fraction, rest) := readFraction rest
    let (power, rest) := readPower rest
    if fraction.isNone && power.isNone then
      if Text.maxIntegerDigits < whole.length then .error .hugeInteger
      else
        let n : Int := Text.digitsValue whole
        .ok (.int (if neg then -n else n), rest)
    else
      let digits := fraction.getD []
      let value := Text.digitsValue (whole ++ digits)
      .ok (.float (Binary64.ofDecimal neg value (power.getD 0 - digits.length)), rest)

/-- Reads one of the words that stand for a value. -/
def readWord (t : Text) : Except JsonFault (Json × Text) :=
  let words : List (String × Json) := [("null", .null), ("true", .bool true),
    ("false", .bool false), ("NaN", .float .nan), ("Infinity", .float (.infinite false)),
    ("-Infinity", .float (.infinite true))]
  match words.findSome? fun (w, v) => (Text.afterPrefix? (Text.ofString w) t).map ((v, ·)) with
  | some found => .ok found
  | none => .error .malformed

mutual

/-- Reads a value at the front of the text. -/
def readValue : Nat → Text → Except JsonFault (Json × Text)
  | 0, _ => .error .malformed
  | fuel + 1, t =>
    match t with
    | [] => .error .malformed
    | c :: rest =>
      if c = '"' then
        match readString? fuel rest with
        | some (s, rest) => .ok (.str s, rest)
        | none => .error .malformed
      else if c = '[' then
        match skipGap rest with
        | d :: more =>
          if d = ']' then .ok (.arr [], more)
          else do
            let (items, more) ← readItems fuel (d :: more)
            return (.arr items, more)
        | [] => .error .malformed
      else if c = '{' then
        match skipGap rest with
        | d :: more =>
          if d = '}' then .ok (.obj [], more)
          else do
            let (members, more) ← readMembers fuel [] (d :: more)
            return (.obj members, more)
        | [] => .error .malformed
      else if c.isDigit then readNumber false t
      else if c = '-' && (rest.head?.map CodePoint.isDigit).getD false then
        readNumber true rest
      else readWord t

/-- Reads items up to the closing bracket. -/
def readItems : Nat → Text → Except JsonFault (List Json × Text)
  | 0, _ => .error .malformed
  | fuel + 1, t => do
    let (item, rest) ← readValue fuel t
    match skipGap rest with
    | c :: rest =>
      if c = ']' then return ([item], rest)
      else if c = ',' then
        let (items, rest) ← readItems fuel (skipGap rest)
        return (item :: items, rest)
      else .error .malformed
    | [] => .error .malformed

/-- Reads members up to the closing brace, adding them to those already read. -/
def readMembers : Nat → List (Text × Json) → Text →
    Except JsonFault (List (Text × Json) × Text)
  | 0, _, _ => .error .malformed
  | fuel + 1, known, t =>
    match t with
    | q :: rest =>
      if q = '"' then
        match readString? fuel rest with
        | none => .error .malformed
        | some (name, rest) =>
          match skipGap rest with
          | colon :: rest =>
            if colon = ':' then do
              let (value, rest) ← readValue fuel (skipGap rest)
              let known := put name value known
              match skipGap rest with
              | c :: rest =>
                if c = '}' then return (known, rest)
                else if c = ',' then readMembers fuel known (skipGap rest)
                else .error .malformed
              | [] => .error .malformed
            else .error .malformed
          | [] => .error .malformed
      else .error .malformed
    | [] => .error .malformed

end

/-- Reads a text that holds one value and blanks around it; a byte order mark is refused. -/
def parse (t : Text) : Except JsonFault Json :=
  if t.head? = some (CodePoint.ofNat 0xFEFF) then .error .malformed
  else do
    let (value, rest) ← readValue (2 * t.length + 2) (skipGap t)
    if (skipGap rest).isEmpty then return value else .error .malformed

end Json

end HelpCenter

import HelpCenter.Text.Search

/-!
# Kinds of plain scalars

A plain scalar without a tag is null, a truth value, a number, a time or one of two marks if it
looks like one, and a text otherwise.
-/

namespace HelpCenter.Yaml

/-- The full tag of a kind that every document knows. -/
def coreTag (name : String) : Text := lit "tag:yaml.org,2002:" ++ lit name

/-- The number that decimal digits denote. -/
def decimalValue (t : Text) : Nat := t.foldl (fun n c => n * 10 + (c.toNat - 48)) 0

/-- The text after a sign, if there is one. -/
def dropSign : Text → Text
  | [] => []
  | c :: t => if c.is '-' || c.is '+' then t else c :: t

/-- Digits and underscores. -/
def isLooseDigit (c : CodePoint) : Bool := c.isDigit || c.is '_'

/-- The words for truth values. -/
def truthWords : List Text := [
  "yes", "Yes", "YES", "no", "No", "NO", "true", "True", "TRUE", "false", "False", "FALSE",
  "on", "On", "ON", "off", "Off", "OFF"]

/-- Whether the texts are one or more places of base sixty. -/
def areSixties (parts : List Text) : Bool :=
  !parts.isEmpty && parts.all fun p =>
    match p with
    | [d] => d.isDigit
    | [t, d] => CodePoint.between '0' '5' t && d.isDigit
    | _ => false

/-- Whether a text looks like an integer: binary, octal, decimal, hexadecimal or base sixty. -/
def looksInteger (t : Text) : Bool :=
  match dropSign t with
  | [] => false
  | c :: rest =>
    if c.is '0' then
      match rest with
      | [] => true
      | d :: more =>
        if d.is 'b' then !more.isEmpty && more.all fun e => e.is '0' || e.is '1' || e.is '_'
        else if d.is 'x' then !more.isEmpty && more.all fun e => e.isHexDigit || e.is '_'
        else rest.all fun e => CodePoint.between '0' '7' e || e.is '_'
    else if CodePoint.between '1' '9' c then
      match Text.splitOn ':' rest with
      | [] => false
      | [digits] => digits.all isLooseDigit
      | digits :: parts => digits.all isLooseDigit && areSixties parts
    else false

/-- Whether a text is an exponent with its sign, or nothing. -/
def isExponent : Text → Bool
  | [] => true
  | e :: s :: digits =>
    (e.is 'e' || e.is 'E') && (s.is '-' || s.is '+') && !digits.isEmpty
      && digits.all CodePoint.isDigit
  | _ => false

/-- Whether a text looks like a number with a point, or like infinity or an undefined value. -/
def looksFloat (t : Text) : Bool :=
  let body := dropSign t
  let infinities : List Text := [".inf", ".Inf", ".INF"]
  let undefineds : List Text := [".nan", ".NaN", ".NAN"]
  if infinities.contains body || undefineds.contains t then true
  else
    match body with
    | [] => false
    | c :: rest =>
      if c.isDigit then
        let (whole, fraction) := Text.cutAtFirst '.' rest
        if !rest.contains '.' then false
        else
          match Text.splitOn ':' whole with
          | [] => false
          | [digits] => digits.all isLooseDigit && isExponent (fraction.dropWhile isLooseDigit)
          | digits :: parts =>
            digits.all isLooseDigit && areSixties parts && fraction.all isLooseDigit
      else
        match t with
        | p :: d :: more => p.is '.' && d.isDigit && isExponent (more.dropWhile isLooseDigit)
        | _ => false

/-! ## Times -/

/-- A point in time as written. -/
structure Timestamp where
  year : Nat
  month : Nat
  day : Nat
  /-- Hour, minute and second. -/
  time : Option (Nat × Nat × Nat)
  /-- Hours and minutes away from universal time. -/
  offset : Option (Nat × Nat)

/-- Exactly `n` digits at the front. -/
def readDigits? (n : Nat) (t : Text) : Option (Nat × Text) :=
  let digits := t.take n
  if digits.length = n && digits.all CodePoint.isDigit then some (decimalValue digits, t.drop n)
  else none

/-- Two digits or one at the front. -/
def readShort? (t : Text) : Option (Nat × Text) :=
  match readDigits? 2 t with
  | some r => some r
  | none => readDigits? 1 t

/-- Whether a character is a space or a tab. -/
def isGapChar (c : CodePoint) : Bool := c.is ' ' || c.is '\t'

/-- The text after a character, which has to come first. -/
def after? (char : Char) : Text → Option Text
  | c :: t => if c.is char then some t else none
  | [] => none

/-- The offset at the end of a time: nothing, `Z`, or hours and minutes with a sign. -/
def readOffset? (t : Text) : Option (Option (Nat × Nat)) :=
  if t.isEmpty then some none
  else
    match t.dropWhile isGapChar with
    | [] => none
    | c :: rest =>
      if c.is 'Z' then if rest.isEmpty then some none else none
      else if c.is '-' || c.is '+' then do
        let (hour, rest) ← readShort? rest
        if rest.isEmpty then return some (hour, 0)
        let rest ← after? ':' rest
        let (minute, rest) ← readDigits? 2 rest
        if rest.isEmpty then some (some (hour, minute)) else none
      else none

/-- The separator between date and time. -/
def readTimeGap? : Text → Option Text
  | [] => none
  | c :: t =>
    if c.is 'T' || c.is 't' then some t
    else if isGapChar c then some (t.dropWhile isGapChar)
    else none

/-- Reads a date, with or without a time. -/
def readTimestamp? (t : Text) : Option Timestamp := do
  let (year, t) ← readDigits? 4 t
  let (month, t) ← readShort? (← after? '-' t)
  let (day, t) ← readShort? (← after? '-' t)
  if t.isEmpty then return ⟨year, month, day, none, none⟩
  let (hour, t) ← readShort? (← readTimeGap? t)
  let (minute, t) ← readDigits? 2 (← after? ':' t)
  let (second, t) ← readDigits? 2 (← after? ':' t)
  let t := ((after? '.' t).map (·.dropWhile CodePoint.isDigit)).getD t
  let offset ← readOffset? t
  return ⟨year, month, day, some (hour, minute, second), offset⟩

/-- Whether a text looks like a time; a date alone needs two digits for month and day. -/
def looksTimestamp (t : Text) : Bool :=
  match readTimestamp? t with
  | some s => s.time.isSome || t.length = 10
  | none => false

/-- The number of days in a month. -/
def daysInMonth (year month : Nat) : Nat :=
  if month = 2 then
    if year % 4 = 0 && (year % 100 ≠ 0 || year % 400 = 0) then 29 else 28
  else if month = 4 || month = 6 || month = 9 || month = 11 then 30 else 31

/-- Whether date, time and offset exist. -/
def Timestamp.isValid (s : Timestamp) : Bool :=
  1 ≤ s.year && 1 ≤ s.month && s.month ≤ 12 && 1 ≤ s.day && s.day ≤ daysInMonth s.year s.month
    && (s.time.all fun (h, m, sec) => h < 24 && m < 60 && sec < 60)
    && (s.offset.all fun (h, m) => h * 60 + m < 24 * 60)

/-! ## The kind -/

/-- The tag of a scalar without one. One line feed at its end is overlooked. -/
def implicitTag (text : Text) : Text :=
  let t := if text.getLast? = some '\n' && 1 < text.length then text.dropLast else text
  if truthWords.contains t then coreTag "bool"
  else if looksFloat t then coreTag "float"
  else if looksInteger t then coreTag "int"
  else if t = lit "<<" then coreTag "merge"
  else if (([ "", "~", "null", "Null", "NULL"] : List Text)).contains t then coreTag "null"
  else if looksTimestamp t then coreTag "timestamp"
  else if t = lit "=" then coreTag "value"
  else if t = lit "!" || t = lit "&" || t = lit "*" then coreTag "yaml"
  else coreTag "str"

end HelpCenter.Yaml

import HelpCenter.Json.Basic
import HelpCenter.Number.Decimal
import HelpCenter.Number.Reading
import HelpCenter.Text.Utf16

/-!
# Printing JSON

Printed JSON is ASCII: every other character is written as the escapes of its UTF-16 units. A
value is printed on one line, or over lines with two spaces for each level. An integer with more
digits than are read is not printed either.
-/

namespace HelpCenter.Json

/-- The escape of a UTF-16 unit. -/
def unitEscape (u : Nat) : Text := lit "\\u" ++ Text.hexPadded 4 u

/-- A character inside a string. -/
def escapeChar (c : CodePoint) : Text :=
  match c.toNat with
  | 34 => lit "\\\""
  | 92 => lit "\\\\"
  | 10 => lit "\\n"
  | 13 => lit "\\r"
  | 9 => lit "\\t"
  | 12 => lit "\\f"
  | 8 => lit "\\b"
  | n => if 32 ≤ n && n < 127 then [c] else c.units.flatMap unitEscape

/-- A string in quotes. -/
def quote (t : Text) : Text := lit "\"" ++ t.flatMap escapeChar ++ lit "\""

/-- A double; the values that are no number have names of their own. -/
def floatText : Binary64 → Text
  | .nan => lit "NaN"
  | .infinite neg => lit (if neg then "-Infinity" else "Infinity")
  | x => x.toText

/-- A value that is neither list nor object. -/
def scalarText : Json → Text
  | .null => lit "null"
  | .bool b => lit (if b then "true" else "false")
  | .int n => Text.ofInt n
  | .float x => floatText x
  | .str t => quote t
  | .arr _ => lit "[]"
  | .obj _ => lit "\x7b\x7d"

mutual

/-- The value on one line. -/
def print : Json → Text
  | .arr [] => lit "[]"
  | .arr (item :: items) => lit "[" ++ print item ++ printItems items
  | .obj [] => lit "\x7b\x7d"
  | .obj ((name, value) :: members) =>
    lit "\x7b" ++ quote name ++ (lit ": " ++ (print value ++ printMembers members))
  | v => scalarText v

/-- The items after the first, and the closing bracket. -/
def printItems : List Json → Text
  | [] => [']']
  | item :: items => lit ", " ++ (print item ++ printItems items)

/-- The members after the first, and the closing brace. -/
def printMembers : List (Text × Json) → Text
  | [] => ['}']
  | (name, value) :: members =>
    lit ", " ++ (quote name ++ (lit ": " ++ (print value ++ printMembers members)))

end

/-- A line break before a line that is `depth` levels deep. -/
def lineBreak (depth : Nat) : Text := '\n' :: List.replicate (2 * depth) (' ' : CodePoint)

mutual

/-- The value over lines, at `depth` levels. -/
def prettyAt (depth : Nat) : Json → Text
  | .arr [] => lit "[]"
  | .arr (item :: items) =>
    lit "[" ++ lineBreak (depth + 1) ++ (prettyAt (depth + 1) item ++ prettyItems depth items)
  | .obj [] => lit "\x7b\x7d"
  | .obj ((name, value) :: members) =>
    lit "\x7b" ++ lineBreak (depth + 1) ++ (quote name ++ (lit ": " ++
      (prettyAt (depth + 1) value ++ prettyMembers depth members)))
  | v => scalarText v

/-- The items after the first, and the closing bracket on its own line. -/
def prettyItems (depth : Nat) : List Json → Text
  | [] => lineBreak depth ++ lit "]"
  | item :: items =>
    lit "," ++ lineBreak (depth + 1) ++ (prettyAt (depth + 1) item ++ prettyItems depth items)

/-- The members after the first, and the closing brace on its own line. -/
def prettyMembers (depth : Nat) : List (Text × Json) → Text
  | [] => lineBreak depth ++ lit "\x7d"
  | (name, value) :: members =>
    lit "," ++ lineBreak (depth + 1) ++ (quote name ++ (lit ": " ++
      (prettyAt (depth + 1) value ++ prettyMembers depth members)))

end

/-- The value over lines. -/
def pretty (v : Json) : Text := prettyAt 0 v

mutual

/-- Whether every integer in the value has few enough digits to be printed. -/
def isPrintable : Json → Bool
  | .int n => digitCount n.natAbs ≤ Text.maxIntegerDigits
  | .arr items => allPrintable items
  | .obj members => membersPrintable members
  | _ => true

/-- Whether all items can be printed. -/
def allPrintable : List Json → Bool
  | [] => true
  | item :: items => isPrintable item && allPrintable items

/-- Whether the values of all members can be printed. -/
def membersPrintable : List (Text × Json) → Bool
  | [] => true
  | (_, value) :: members => isPrintable value && membersPrintable members

end

/-- The value over lines, if it can be printed. -/
def pretty? (v : Json) : Option Text := if v.isPrintable then some v.pretty else none

end HelpCenter.Json

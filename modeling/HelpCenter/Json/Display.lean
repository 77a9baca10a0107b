import HelpCenter.Json.Basic
import HelpCenter.Number.Decimal
import HelpCenter.Text.Printable

/-!
# Display text of loose values

Where a field asks for a text and the data hold something else, the value's display text is
taken: a text is itself, and a nested text is quoted, with apostrophes unless only they occur.
-/

namespace HelpCenter.Json

/-- A character inside a displayed quotation that is delimited by `delimiter`. -/
def displayChar (delimiter c : CodePoint) : Text :=
  let n := c.toNat
  if c = delimiter || n == 92 then [CodePoint.ofChar '\\', c]
  else if n == 9 then lit "\\t"
  else if n == 10 then lit "\\n"
  else if n == 13 then lit "\\r"
  else if c.isPrintable then [c]
  else if n < 0x100 then lit "\\x" ++ Text.hexPadded 2 n
  else if n < 0x10000 then lit "\\u" ++ Text.hexPadded 4 n
  else lit "\\U" ++ Text.hexPadded 8 n

/-- A quoted text. -/
def displayQuoted (t : Text) : Text :=
  let apostrophe := '\''
  let delimiter :=
    if t.contains apostrophe && !t.contains (CodePoint.ofChar '"') then CodePoint.ofChar '"'
    else apostrophe
  delimiter :: t.flatMap (displayChar delimiter) ++ [delimiter]

mutual

/-- A value inside another. -/
def displayNested : Json → Text
  | .null => lit "None"
  | .bool b => lit (if b then "True" else "False")
  | .int n => Text.ofInt n
  | .float x => x.toText
  | .str t => displayQuoted t
  | .arr items => '[' :: displayItems items
  | .obj members => '{' :: displayMembers members

/-- The items of a list and the closing bracket. -/
def displayItems : List Json → Text
  | [] => [']']
  | [item] => displayNested item ++ [(']' : CodePoint)]
  | item :: next :: items =>
    displayNested item ++ (lit ", " ++ displayItems (next :: items))

/-- The members of an object and the closing brace. -/
def displayMembers : List (Text × Json) → Text
  | [] => ['}']
  | [(name, value)] =>
    displayQuoted name ++ (lit ": " ++ (displayNested value ++ [('}' : CodePoint)]))
  | (name, value) :: next :: members =>
    displayQuoted name ++ (lit ": " ++ (displayNested value ++
      (lit ", " ++ displayMembers (next :: members))))

end

/-- The display text of a value; a text is itself. -/
def display : Json → Text
  | .str t => t
  | v => displayNested v

end HelpCenter.Json

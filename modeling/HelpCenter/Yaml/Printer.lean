import HelpCenter.Json.Basic
import HelpCenter.Number.Decimal
import HelpCenter.Yaml.Style

/-!
# Printing mappings

A mapping is written with one entry a line. A list or mapping of scalars only is written in
brackets, every other one over lines. Lines longer than the width are broken at blanks where the
style of the scalar allows that.
-/

namespace HelpCenter.Yaml

/-- The width after which lines are broken. -/
def lineWidth : Nat := 80

/-- What is written so far, the last character first, and the state of the current line. -/
structure Pen where
  written : Text := []
  column : Nat := 0
  /-- A blank stands before the place of writing. -/
  afterGap : Bool := true
  /-- Only indentation and marks of structure stand on the line. -/
  isIndented : Bool := true

namespace Pen

/-- Writes a text without line breaks. -/
def put (p : Pen) (t : Text) : Pen :=
  { p with written := t.reverse ++ p.written, column := p.column + t.length }

/-- Writes a line break. -/
def breakLine (p : Pen) (mark : CodePoint) : Pen :=
  { written := mark :: p.written }

/-- Goes to a new line of an indentation, unless the line is at it already. -/
def toIndent (p : Pen) (indent : Nat) : Pen :=
  let p :=
    if !p.isIndented || indent < p.column || (p.column == indent && !p.afterGap) then
      p.breakLine '\n'
    else p
  if p.column < indent then
    { p.put (List.replicate (indent - p.column) (CodePoint.ofChar ' ')) with afterGap := true }
  else p

/-- Writes a mark of structure, after a blank where one is needed. -/
def mark (p : Pen) (m : String) (needsGap opensGap keepsIndent : Bool) : Pen :=
  let t := if p.afterGap || !needsGap then lit m else lit " " ++ lit m
  { p.put t with afterGap := opensGap, isIndented := p.isIndented && keepsIndent }

/-- The pen in the middle of a scalar. -/
def inside (p : Pen) : Pen := { p with afterGap := false, isIndented := false }

end Pen

/-! ## Scalars -/

/-- The kinds of characters that scalars are written in runs of. -/
inductive RunKind where
  | spaces
  | breaks
  | others
deriving DecidableEq

/-- The kind of a character. -/
def runKind (c : CodePoint) : RunKind :=
  if c.is ' ' then .spaces else if isWrittenBreak c then .breaks else .others

/-- The runs of characters of one kind. -/
def runs (t : Text) : List Text := t.splitBy fun a b => runKind a = runKind b

/-- Writes the words of a plain scalar and the blanks between them. -/
def Pen.plainRuns (p : Pen) (indent : Nat) (mayBreak : Bool) : List Text → Pen
  | [] => p
  | run :: rest =>
    let p :=
      if run.map runKind = [.spaces] && lineWidth < p.column && mayBreak then
        (p.toIndent indent).inside
      else p.put run
    p.plainRuns indent mayBreak rest

/-- Writes a plain scalar. -/
def Pen.plain (p : Pen) (indent : Nat) (mayBreak : Bool) (t : Text) : Pen :=
  if t.isEmpty then p
  else
    let p := if p.afterGap then p else p.put (lit " ")
    p.inside.plainRuns indent mayBreak (runs t)

/-- Writes a run of line breaks; a line feed at its front is doubled. -/
def Pen.breaks (p : Pen) (run : Text) : Pen :=
  let p := if run.head? = some '\n' then p.breakLine '\n' else p
  run.foldl Pen.breakLine p

/-- Writes the inside of single quotes. -/
def Pen.singleRuns (p : Pen) (indent : Nat) (mayBreak : Bool) : (isFirst : Bool) → List Text → Pen
  | _, [] => p
  | isFirst, run :: rest =>
    let p :=
      match run.head?.map runKind with
      | some .breaks => (p.breaks run).toIndent indent
      | some .spaces =>
        if run.length = 1 && lineWidth < p.column && mayBreak && !isFirst && !rest.isEmpty then
          p.toIndent indent
        else p.put run
      | _ => p.put (Text.substitute '\'' (lit "''") run)
    p.singleRuns indent mayBreak false rest

/-- Writes a scalar in single quotes. -/
def Pen.single (p : Pen) (indent : Nat) (mayBreak : Bool) (t : Text) : Pen :=
  ((p.mark "'" true false false).singleRuns indent mayBreak true (runs t)).mark "'" false false false

/-- The characters with short escapes. -/
def shortEscapes : List (Nat × String) := [
  (0, "0"), (7, "a"), (8, "b"), (9, "t"), (10, "n"), (11, "v"), (12, "f"), (13, "r"), (27, "e"),
  (34, "\""), (92, "\\"), (0x85, "N"), (0xA0, "_"), (0x2028, "L"), (0x2029, "P")]

/-- Whether a character is escaped inside double quotes. -/
def isEscaped (c : CodePoint) : Bool :=
  let n := c.toNat
  c.is '"' || c.is '\\' || n == 0x2028 || n == 0x2029 || n == 0xFEFF ||
    !((0x20 ≤ n && n ≤ 0x7E) || (0xA0 ≤ n && n ≤ 0xD7FF) || (0xE000 ≤ n && n ≤ 0xFFFD))

/-- The escape of a character, with capital hexadecimal digits. -/
def escapeOf (c : CodePoint) : Text :=
  let n := c.toNat
  let hex (width : Nat) : Text := (Text.hexPadded width n).map capitalHex
  match shortEscapes.lookup n with
  | some letter => lit "\\" ++ lit letter
  | none =>
    if n ≤ 0xFF then lit "\\x" ++ hex 2
    else if n ≤ 0xFFFF then lit "\\u" ++ hex 4
    else lit "\\U" ++ hex 8

/-- Writes the inside of double quotes. Characters that stand for themselves are held back in
`held`. A long line is ended by a backslash at a blank or after an escape; a blank that begins the
next line is escaped. -/
def Pen.doubleChars (p : Pen) (indent : Nat) (mayBreak : Bool) :
    (isFirst : Bool) → (held : Text) → Text → Pen
  | _, held, [] => p.put held
  | isFirst, held, c :: rest =>
    let escaped := isEscaped c
    let p := if escaped then (p.put held).put (escapeOf c) else p
    let held := if escaped then [] else held
    let used := p.column + held.length - (if escaped then 1 else 0)
    let next := if escaped then [] else [c]
    if !isFirst && !rest.isEmpty && (c.is ' ' || escaped || held.isEmpty) && lineWidth < used &&
        mayBreak then
      let p := ((p.put (held ++ lit "\\")).toIndent indent).inside
      let begins := if escaped then rest.head? else some c
      let p := if begins = some ' ' then p.put (lit "\\") else p
      p.doubleChars indent mayBreak false next rest
    else p.doubleChars indent mayBreak false (held ++ next) rest

/-- Writes a scalar in double quotes. -/
def Pen.double (p : Pen) (indent : Nat) (mayBreak : Bool) (t : Text) : Pen :=
  ((p.mark "\"" true false false).doubleChars indent mayBreak true [] t).mark "\"" false false false

/-- The text of a double; one that is an integer with an exponent gets a fraction. -/
def doubleText (x : Binary64) : Text :=
  match x with
  | .nan => lit ".nan"
  | .infinite neg => if neg then lit "-.inf" else lit ".inf"
  | x =>
    let t := x.toText
    if !t.contains '.' && t.contains 'e' then
      let (mantissa, exponent) := Text.cutAtFirst 'e' t
      mantissa ++ lit ".0e" ++ exponent
    else t

/-- The text of a scalar that is no text. -/
def scalarText? : Json → Option Text
  | .null => some (lit "null")
  | .bool b => some (lit (if b then "true" else "false"))
  | .int n => some (Text.ofInt n)
  | .float x => some (doubleText x)
  | _ => none

/-- Writes a text. -/
def Pen.text (p : Pen) (indent : Nat) (inFlow isKey : Bool) (t : Text) : Pen :=
  match textStyle inFlow isKey t with
  | .plain => p.plain indent (!isKey) t
  | .single => p.single indent (!isKey) t
  | .double => p.double indent (!isKey) t

/-- Writes a scalar; lists and mappings are none. -/
def Pen.scalar (p : Pen) (indent : Nat) (inFlow : Bool) : Json → Pen
  | .str t => p.text indent inFlow false t
  | v =>
    match scalarText? v with
    | some t => p.plain indent true t
    | none => p

/-- The longest key that is written before a colon on its line, with the five characters of its
tag counted in. -/
def maxKeyLength : Nat := 127

/-- Whether a key is written before a colon on its line. -/
def isSimpleKey (t : Text) : Bool := !t.isEmpty && !isMultiline t && t.length + 5 ≤ maxKeyLength

/-! ## Collections -/

/-- Whether a value is neither a list nor a mapping. -/
def isScalar : Json → Bool
  | .arr _ | .obj _ => false
  | _ => true

/-- A comma before an item that is not the first, and a new line where the line is full. -/
def Pen.separate (p : Pen) (indent : Nat) (isFirst : Bool) : Pen :=
  let p := if isFirst then p else p.mark "," false false false
  if lineWidth < p.column then p.toIndent indent else p

/-- Writes the items of a list of scalars. -/
def Pen.flowItems (p : Pen) (indent : Nat) : (isFirst : Bool) → List Json → Pen
  | _, [] => p
  | isFirst, v :: rest =>
    ((p.separate indent isFirst).scalar (indent + 2) true v).flowItems indent false rest

/-- Writes the members of a mapping of scalars. -/
def Pen.flowMembers (p : Pen) (indent : Nat) : (isFirst : Bool) → List (Text × Json) → Pen
  | _, [] => p
  | isFirst, (k, v) :: rest =>
    let p := p.separate indent isFirst
    let p :=
      if isSimpleKey k then (p.text (indent + 2) true true k).mark ":" false false false
      else
        let p := (p.mark "?" true false false).text (indent + 2) true false k
        let p := if lineWidth < p.column then p.toIndent indent else p
        p.mark ":" true false false
    (p.scalar (indent + 2) true v).flowMembers indent false rest

/-- Writes the key of an entry at an indentation. -/
def Pen.blockKey (p : Pen) (indent : Nat) (k : Text) : Pen :=
  let p := p.toIndent indent
  if isSimpleKey k then (p.text (indent + 2) false true k).mark ":" false false false
  else
    let p := (p.mark "?" true false true).text (indent + 2) false false k
    (p.toIndent indent).mark ":" true false true

mutual

/-- Writes a value inside a collection at an indentation. A list over lines that is the value of a
key on its line is not indented further. -/
def Pen.node (p : Pen) (indent : Nat) (inMapping : Bool) : Json → Pen
  | .arr items =>
    if items.all isScalar then
      ((p.mark "[" true true false).flowItems (indent + 2) true items).mark "]" false false false
    else p.blockItems (if inMapping && !p.isIndented then indent else indent + 2) items
  | .obj members =>
    if members.all fun m => isScalar m.2 then
      ((p.mark "\x7b" true true false).flowMembers (indent + 2) true members).mark "\x7d"
        false false false
    else p.blockMembers (indent + 2) members
  | v => p.scalar (indent + 2) false v

/-- Writes the items of a list over lines. -/
def Pen.blockItems (p : Pen) (indent : Nat) : List Json → Pen
  | [] => p
  | v :: rest =>
    (((p.toIndent indent).mark "-" true false true).node indent false v).blockItems indent rest

/-- Writes the members of a mapping over lines. -/
def Pen.blockMembers (p : Pen) (indent : Nat) : List (Text × Json) → Pen
  | [] => p
  | (k, v) :: rest => ((p.blockKey indent k).node indent true v).blockMembers indent rest

end

/-- The text of a mapping over lines, which has a member. -/
def printMapping (members : List (Text × Json)) : Text :=
  ((({} : Pen).blockMembers 0 members).toIndent 0).written.reverse

end HelpCenter.Yaml

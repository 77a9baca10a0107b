import HelpCenter.Failure

/-!
# Positions in a YAML text

A cursor is what is left of the text together with the place reached. Columns count characters
since the last line break.
-/

namespace HelpCenter.Yaml

/-- Why a YAML text gives no value. -/
inductive Fault where
  /-- The text breaks a rule of the language. -/
  | malformed
  /-- A tagged or recognised scalar has no value of its kind. -/
  | data (fault : DataFault)
deriving DecidableEq

/-- A result or a fault. -/
abbrev Result (α : Type) := Except Fault α

/-- A place in a text and what follows it. -/
structure Cursor where
  rest : Text
  index : Nat
  line : Nat
  column : Nat

/-- A line feed, a carriage return or one of the other line breaks. -/
def isBreak (c : CodePoint) : Bool :=
  let n := c.toNat
  n == 10 || n == 13 || n == 0x85 || n == 0x2028 || n == 0x2029

/-- A space or a tab. -/
def isSpaceOrTab (c : CodePoint) : Bool := c.is ' ' || c.is '\t'

/-- Whether the next character is a blank, a line break or the end. -/
def startsBlank : Text → Bool
  | [] => true
  | c :: _ => isSpaceOrTab c || isBreak c

/-- Whether the next character is a space, a line break or the end. -/
def startsSpace : Text → Bool
  | [] => true
  | c :: _ => c.is ' ' || isBreak c

/-- Whether the next character is a line break or the end. -/
def startsBreak : Text → Bool
  | [] => true
  | c :: _ => isBreak c

/-- Whether the text starts with a document marker made of three times `mark`. -/
def startsMarker (mark : Char) : Text → Bool
  | a :: b :: c :: rest => a.is mark && b.is mark && c.is mark && startsBlank rest
  | _ => false

/-- Whether the text starts with either document marker. -/
def startsSeparator (t : Text) : Bool := startsMarker '-' t || startsMarker '.' t

namespace Cursor

/-- The start of a text. -/
def start (t : Text) : Cursor := ⟨t, 0, 0, 0⟩

/-- The next character. -/
def peek? (c : Cursor) : Option CodePoint := c.rest.head?

/-- Whether the next character is `char`. -/
def at_ (c : Cursor) (char : Char) : Bool := (c.rest.head?.map (·.is char)).getD false

/-- The place after the next character. A byte order mark takes no column, and a carriage return
before a line feed does not end the line yet. -/
def next (c : Cursor) : Cursor :=
  match c.rest with
  | [] => c
  | ch :: rest =>
    let pairs := ch.is '\r' && (rest.head?.map (·.is '\n')).getD false
    if isBreak ch && !pairs then ⟨rest, c.index + 1, c.line + 1, 0⟩
    else ⟨rest, c.index + 1, c.line, if ch.toNat = 0xFEFF then c.column else c.column + 1⟩

/-- The place `n` characters on. -/
def skip : Nat → Cursor → Cursor
  | 0, c => c
  | n + 1, c => skip n c.next

/-- The run of characters that satisfy `p`, and the place after it. -/
def takeWhile (p : CodePoint → Bool) (c : Cursor) : Text × Cursor :=
  let run := c.rest.takeWhile p
  (run, c.skip run.length)

/-- The place after a run of characters that satisfy `p`. -/
def skipWhile (p : CodePoint → Bool) (c : Cursor) : Cursor := (c.takeWhile p).2

/-- The place after spaces. -/
def skipSpaces (c : Cursor) : Cursor := c.skipWhile (CodePoint.is ' ')

/-- The place at the end of the line. -/
def skipLine (c : Cursor) : Cursor := c.skipWhile fun ch => !isBreak ch

/-- Reads a line break, if there is one; most kinds count as a line feed. -/
def readBreak (c : Cursor) : Text × Cursor :=
  match c.rest with
  | a :: b :: _ =>
    if a.is '\r' && b.is '\n' then (lit "\n", c.next.next)
    else if a.toNat == 0x2028 || a.toNat == 0x2029 then ([a], c.next)
    else if isBreak a then (lit "\n", c.next)
    else ([], c)
  | [a] =>
    if a.toNat == 0x2028 || a.toNat == 0x2029 then ([a], c.next)
    else if isBreak a then (lit "\n", c.next)
    else ([], c)
  | [] => ([], c)

/-- Passes over spaces, a comment and the end of the line; anything else is malformed. -/
def endLine (c : Cursor) : Result Cursor :=
  let c := c.skipSpaces
  let c := if c.at_ '#' then c.skipLine else c
  if startsBreak c.rest then .ok c.readBreak.2 else .error .malformed

end Cursor

end HelpCenter.Yaml

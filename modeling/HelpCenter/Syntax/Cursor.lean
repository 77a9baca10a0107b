import HelpCenter.Syntax.Node
import HelpCenter.Text.Blank
import HelpCenter.Text.Search

/-!
# Reading sources

A reader moves a cursor through a source and may give up, after which another one can be tried
from the same place. Blanks and comments are passed over before a sign is read, never behind it,
so that a node ends where its last sign ends.
-/

namespace HelpCenter.Syntax

/-- A place in a source: what follows it, how much that is, and the row. -/
structure Cursor where
  rest : Text
  left : Nat
  row : Nat

namespace Cursor

/-- The start of a text. -/
def start (t : Text) : Cursor := ⟨t, t.length, 0⟩

/-- The place after the next code point. -/
def next (c : Cursor) : Cursor :=
  match c.rest with
  | [] => c
  | ch :: rest => ⟨rest, c.left - 1, if ch.is '\n' then c.row + 1 else c.row⟩

/-- The place `n` code points on. -/
def skip : Nat → Cursor → Cursor
  | 0, c => c
  | n + 1, c => skip n c.next

/-- The place after a run of code points that satisfy `p`. -/
def skipWhile (p : CodePoint → Bool) (c : Cursor) : Cursor := c.skip (c.rest.takeWhile p).length

end Cursor

/-- White space between signs. -/
def isSpace (c : CodePoint) : Bool :=
  let n := c.toNat
  (9 ≤ n && n ≤ 13) || (c.isBlank && !(28 ≤ n && n ≤ 31))
    || n == 0xFEFF || n == 0x2060 || n == 0x200B

/-- Whether a code point is a line feed or one of the two separators beyond ASCII. -/
def isLineEnd (c : CodePoint) : Bool := c.is '\n' || c.toNat == 0x2028 || c.toNat == 0x2029

/-- Where a gap between signs has got to. -/
inductive Gap where
  | blank
  | lineComment
  | blockComment
  /-- One more code point belongs to an opening or closing mark; then comes the given part. -/
  | mark (inBlock : Bool)

/-- The end of the gap at the front of a text. -/
def gapEnd : Gap → Text → (left row : Nat) → Cursor
  | _, [], left, row => ⟨[], left, row⟩
  | gap, c :: rest, left, row =>
    let row' := if c.is '\n' then row + 1 else row
    let nextIs := fun (d : Char) => (rest.head?.map (·.is d)).getD false
    match gap with
    | .blank =>
      if isSpace c then gapEnd .blank rest (left - 1) row'
      else if c.is '/' && nextIs '/' then gapEnd .lineComment rest (left - 1) row'
      else if c.is '/' && nextIs '*' then gapEnd (.mark true) rest (left - 1) row'
      else ⟨c :: rest, left, row⟩
    | .lineComment =>
      if isLineEnd c || c.is '\r' then gapEnd .blank rest (left - 1) row'
      else gapEnd .lineComment rest (left - 1) row'
    | .blockComment =>
      if c.is '*' && nextIs '/' then gapEnd (.mark false) rest (left - 1) row'
      else gapEnd .blockComment rest (left - 1) row'
    | .mark inBlock => gapEnd (if inBlock then .blockComment else .blank) rest (left - 1) row'

namespace Cursor

/-- The place after blanks and comments. -/
def skipGap (c : Cursor) : Cursor := gapEnd .blank c.rest c.left c.row

end Cursor

/-- What the grammar and the surroundings allow. -/
structure Setting where
  /-- Types may be written. -/
  types : Bool
  /-- Markup may be written. -/
  markup : Bool
  /-- The word `in` is an operator. -/
  allowIn : Bool
  /-- Arrow functions may give the type of their result. -/
  arrowTypes : Bool

/-- A reader of some part of a source. -/
abbrev Reader := ReaderT Setting (StateT Cursor Option)

namespace Reader

/-- What follows in the source. -/
def rest : Reader Text := do return (← get).rest

/-- Passes over blanks and comments. -/
def gap : Reader Unit := modify Cursor.skipGap

/-- What follows in the source after blanks and comments, which are not passed over. -/
def ahead : Reader Text := do return (← get).skipGap.rest

/-- Whether the next sign stands in a later row. -/
def onNewRow : Reader Bool := do
  let c ← get
  return c.row < c.skipGap.row

/-- Whether the source ends here but for blanks and comments. -/
def atEnd : Reader Bool := do return (← ahead).isEmpty

/-- Goes on only if a condition holds. -/
def require (condition : Bool) : Reader Unit := if condition then pure () else failure

/-- Reads exactly this text right here. -/
def exactly (t : Text) : Reader Unit := fun _ c =>
  if t.isPrefixOf c.rest then some ((), c.skip t.length) else none

/-- Reads exactly this text after a gap. -/
def sign (t : Text) : Reader Unit := do gap; exactly t

/-- Reads this text after a gap if it is there. -/
def accept (t : Text) : Reader Bool := (do sign t; return true) <|> return false

/-- Whether this text comes after the gap. -/
def isNext (t : Text) : Reader Bool := do return t.isPrefixOf (← ahead)

/-- Reads a run of code points that satisfy `p`. -/
def takeWhile (p : CodePoint → Bool) : Reader Text := do
  let run := (← rest).takeWhile p
  modify (Cursor.skip run.length)
  return run

/-- Reads something if it is there. -/
def maybe {α : Type} (p : Reader α) : Reader (Option α) := (some <$> p) <|> pure none

/-- What a reader would give, without moving on. -/
def peek {α : Type} (p : Reader α) : Reader (Option α) := fun s c =>
  some ((p s c).map (·.1), c)

/-- Looks whether something could be read, and stays. -/
def couldRead {α : Type} (p : Reader α) : Reader Bool := return (← peek p).isSome

/-- Reads with another setting. -/
def under {α : Type} (change : Setting → Setting) (p : Reader α) : Reader α := fun s c =>
  p (change s) c

/-- Repeats a reader from a place as long as it succeeds and moves on, `fuel` times at most. -/
def repeatFrom {α : Type} (p : Reader α) (s : Setting) : Nat → Cursor → List α × Cursor
  | 0, c => ([], c)
  | fuel + 1, c =>
    match p s c with
    | none => ([], c)
    | some (a, d) =>
      if d.left < c.left then
        let (as, e) := repeatFrom p s fuel d
        (a :: as, e)
      else ([], c)

/-- Repeats a reader as long as it succeeds and moves on. -/
def many {α : Type} (p : Reader α) : Reader (List α) := fun s c =>
  some (repeatFrom p s (c.left + 1) c)

/-- Reads items with commas between them, and maybe one behind the last. -/
def commaList {α : Type} (p : Reader α) : Reader (List α) := do
  match ← maybe p with
  | none => return []
  | some a =>
    let more ← many do
      sign (lit ",")
      p
    let _ ← accept (lit ",")
    return a :: more

/-- Reads a part of the source right here as a node whose kind and children `p` gives. -/
def spanHere (p : Reader (Kind × List Node)) : Reader Node := do
  let before ← get
  let (kind, children) ← p
  let after ← get
  return ⟨kind, .plain, before.rest, before.left - after.left, before.row, children⟩

/-- Reads a part of the source after a gap as a node whose kind and children `p` gives. -/
def span (p : Reader (Kind × List Node)) : Reader Node := do
  gap
  spanHere p

/-- Reads a part of the source right here as a node with the children that `p` gives. -/
def nodeHere (kind : Kind) (p : Reader (List Node)) : Reader Node :=
  spanHere do return (kind, ← p)

/-- Reads a part of the source after a gap as a node with the children that `p` gives. -/
def node (kind : Kind) (p : Reader (List Node)) : Reader Node := span do return (kind, ← p)

/-- The first of some readers that succeeds. -/
def firstOf {α : Type} : List (Reader α) → Reader α
  | [] => failure
  | p :: rest => p <|> firstOf rest

end Reader

end HelpCenter.Syntax

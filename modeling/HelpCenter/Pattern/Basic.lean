import HelpCenter.Text.Case
import HelpCenter.Text.Blank
import HelpCenter.Text.Word

/-!
# Patterns

Regular expressions as trees, the flags that change their meaning, and the least and the greatest
number of characters that a pattern can take. A text becomes the pattern that matches exactly it by
a backslash before every special character.
-/

namespace HelpCenter

/-- Flags of a pattern. -/
structure PatternFlags where
  ignoreCase : Bool := false
  multiline : Bool := false
  dotAll : Bool := false
  verbose : Bool := false
  ascii : Bool := false
  unicode : Bool := false
  /-- Refuses repetition. -/
  template : Bool := false
deriving DecidableEq

namespace PatternFlags

/-- All flags of both. -/
def union (a b : PatternFlags) : PatternFlags :=
  ⟨a.ignoreCase || b.ignoreCase, a.multiline || b.multiline, a.dotAll || b.dotAll,
    a.verbose || b.verbose, a.ascii || b.ascii, a.unicode || b.unicode, a.template || b.template⟩

/-- The flags of the first that the second lacks. -/
def without (a b : PatternFlags) : PatternFlags :=
  ⟨a.ignoreCase && !b.ignoreCase, a.multiline && !b.multiline, a.dotAll && !b.dotAll,
    a.verbose && !b.verbose, a.ascii && !b.ascii, a.unicode && !b.unicode,
    a.template && !b.template⟩

/-- Whether no flag is set. -/
def isEmpty (a : PatternFlags) : Bool := a = {}

/-- Whether both have a flag. -/
def meets (a b : PatternFlags) : Bool := (a.without (a.without b)) != {}

/-- The flags inside a group that adds some and removes some. -/
def inside (outer add del : PatternFlags) : PatternFlags :=
  let outer := if add.ascii || add.unicode then { outer with ascii := false, unicode := false }
    else outer
  (outer.union add).without del

end PatternFlags

/-- A class of characters. -/
inductive CharClass where
  | digit
  | space
  | word
deriving DecidableEq

/-- A member of a set of characters. -/
inductive SetItem where
  | char (c : CodePoint)
  | range (lo hi : CodePoint)
  | charClass (k : CharClass) (negated : Bool)
deriving DecidableEq

/-- A condition on a place in the text. -/
inductive Anchor where
  | lineStart
  | lineEnd
  | textStart
  | textEnd
  | wordBoundary
  | notWordBoundary
deriving DecidableEq

/-- How a repetition chooses its count. -/
inductive LoopMode where
  | greedy
  | lazy
  | possessive
deriving DecidableEq

/-- A pattern. -/
inductive Pattern where
  | empty
  | char (c : CodePoint)
  | any
  | set (negated : Bool) (items : List SetItem)
  | seq (first second : Pattern)
  | alt (first second : Pattern)
  | loop (least : Nat) (most : Option Nat) (mode : LoopMode) (body : Pattern)
  | group (index : Nat) (body : Pattern)
  | scoped (add del : PatternFlags) (body : Pattern)
  | atomic (body : Pattern)
  | anchor (a : Anchor)
  | look (behind negated : Bool) (body : Pattern)
  /-- The text of a group again, which takes between `least` and `most` characters. -/
  | again (index least most : Nat)
  | ifGroup (index : Nat) (yes no : Pattern)

namespace Pattern

/-- The width that counts as unlimited. -/
def maxWidth : Nat := 0x10000000000000000

/-- The greatest width that a look behind can have. -/
def maxLookBehind : Nat := 0xFFFFFFFF

/-- The sum of two widths. -/
def addWidth (a b : Nat × Nat) : Nat × Nat := (a.1 + b.1, a.2 + b.2)

/-- A width within the limits. -/
def capWidth (a : Nat × Nat) : Nat × Nat := (min a.1 maxWidth, min a.2 maxWidth)

/-- The least and the greatest number of characters that a pattern takes. -/
def width : Pattern → Nat × Nat
  | .empty | .anchor _ | .look .. => (0, 0)
  | .char _ | .any | .set .. => (1, 1)
  | .seq a b => capWidth (addWidth a.width b.width)
  | .alt a b => (min a.width.1 b.width.1, max a.width.2 b.width.2)
  | .loop least most _ body =>
    let (lo, hi) := body.width
    match most with
    | some most => capWidth (lo * least, hi * most)
    | none => capWidth (lo * least, if hi = 0 then 0 else maxWidth)
  | .group _ body | .scoped _ _ body | .atomic body => body.width
  | .again _ least most => (least, most)
  | .ifGroup _ yes no => (min yes.width.1 no.width.1, max yes.width.2 no.width.2)

/-- Whether every look behind has one width, which is not too large, and, where repetition is
refused, nothing repeats. -/
def isUsable (noLoops : Bool) : Pattern → Bool
  | .empty | .char _ | .any | .set .. | .anchor _ | .again .. => true
  | .seq a b | .alt a b | .ifGroup _ a b => a.isUsable noLoops && b.isUsable noLoops
  | .loop _ _ _ body => !noLoops && body.isUsable noLoops
  | .group _ body | .atomic body => body.isUsable noLoops
  | .scoped _ _ body => body.isUsable noLoops
  | .look behind _ body =>
    (!behind || (body.width.1 = body.width.2 && body.width.1 ≤ maxLookBehind))
      && body.isUsable noLoops

/-! ## Patterns for plain texts -/

/-- Characters with a meaning of their own in some pattern, verbose ones included. -/
def isSpecial (c : CodePoint) : Bool :=
  (lit "()[]?*+-|^$\\.&~# \t\n\r").contains c || c.is '{' || c.is '}' || c.toNat == 11
    || c.toNat == 12

/-- The source of the pattern that matches exactly a text. -/
def quoted (t : Text) : Text := t.flatMap fun c => if isSpecial c then ['\\', c] else [c]

end Pattern

end HelpCenter

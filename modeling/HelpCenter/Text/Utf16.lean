import HelpCenter.Text.Basic

/-!
# UTF-16

The units of a text, and its normal form, in which a high surrogate followed by a low one is
the one character that the pair encodes.
-/

namespace HelpCenter

namespace CodePoint

/-- A first half of a surrogate pair. -/
def isHigh (c : CodePoint) : Bool := 0xD800 ≤ c.toNat && c.toNat ≤ 0xDBFF

/-- A second half of a surrogate pair. -/
def isLow (c : CodePoint) : Bool := 0xDC00 ≤ c.toNat && c.toNat ≤ 0xDFFF

/-- The character that a surrogate pair encodes. -/
def ofPair (hi lo : CodePoint) : CodePoint :=
  ofNat (0x10000 + (hi.toNat - 0xD800) * 0x400 + (lo.toNat - 0xDC00))

/-- The UTF-16 units of a code point; a surrogate is its own unit. -/
def units (c : CodePoint) : List Nat :=
  if c.toNat < 0x10000 then [c.toNat]
  else [0xD800 + (c.toNat - 0x10000) / 0x400, 0xDC00 + (c.toNat - 0x10000) % 0x400]

end CodePoint

namespace Text

/-- The UTF-16 units of a text. -/
def units (t : Text) : List Nat := t.flatMap CodePoint.units

/-- Joins each high surrogate with a low one that follows it directly. -/
def joinPairs : Text → Text
  | [] => []
  | [c] => [c]
  | c :: d :: rest =>
    if c.isHigh && d.isLow then CodePoint.ofPair c d :: joinPairs rest
    else c :: joinPairs (d :: rest)

end Text

end HelpCenter

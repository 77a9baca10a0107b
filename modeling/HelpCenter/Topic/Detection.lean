import HelpCenter.Topic.Basic

/-!
# Detection of topics

A file gives evidence of a topic wherever one of the topic's patterns matches something in its
text, and with each pattern that matches in its path. Much evidence in one file raises the
confidence.
-/

namespace HelpCenter

namespace Number

/-- The number as a double. -/
def toDouble : Number → Binary64
  | .int n => .ofInt n
  | .double x => x

/-- The numeric order, by exact values; false when either side is undefined. -/
def lt : Number → Number → Bool
  | .int m, .int n => m < n
  | .int m, .double y => y.isAbove m
  | .double x, .int n => x.isBelow n
  | .double x, .double y => x.lt y

/-- The first of the two unless the second is larger. -/
def max (x y : Number) : Number := if x.lt y then y else x

end Number

namespace Topic

/-- The amounts of evidence that raise the confidence. -/
def boostCounts : List Nat := [3, 5]

/-- One step up in confidence: a twentieth more, at most one, to four places. -/
def boost (x : Number) : Number :=
  .double (((x.toDouble + .ofDecimal false 5 (-2)).min (.ofInt 1)).roundTo 4)

/-- The confidence that an amount of evidence in one file gives. -/
def boosted (base : Number) (count : Nat) : Number :=
  (boostCounts.filter (· ≤ count)).foldl (fun x _ => boost x) base

/-- How much evidence of one file is kept. -/
def maxEvidence : Nat := 10

/-- The places of the line feeds in a text, in order. -/
def lineBreaks (text : Text) : Array Nat :=
  ((text.zipIdx.filter fun (c, _) => c.is '\n').map (·.2)).toArray

/-- How many of the numbers in order are at most `x`: the part from `lo` to `hi`, where they end, is
halved until nothing is left of it. -/
def countUpTo (numbers : Array Nat) (x : Int) : (fuel lo hi : Nat) → Nat
  | 0, lo, _ => lo
  | fuel + 1, lo, hi =>
    if lo < hi then
      let mid := (lo + hi) / 2
      if x < ((numbers[mid]?).getD 0 : Nat) then countUpTo numbers x fuel lo mid
      else countUpTo numbers x fuel (mid + 1) hi
    else lo

/-- The number of the line that a place is in, given the places of the line feeds. -/
def lineAt (breaks : Array Nat) (place : Nat) : Nat :=
  countUpTo breaks ((place : Int) - 1) breaks.size 0 breaks.size + 1

/-- The evidence that one pattern gives. -/
def evidenceOf (path : Text) (text : Array CodePoint) (breaks : Array Nat) (p : CompiledPattern) :
    List Evidence :=
  let inPath := if p.matchesIn path then [⟨p.source, path, 1⟩] else []
  let inText := (p.allMatches text).filterMap fun (s, e) =>
    if s = e then none
    else some ⟨(text.extract s e).toList, path, lineAt breaks s⟩
  inPath ++ inText

end Topic

/-- The features that a file gives evidence of. -/
def detectFeatures (c : Catalog) (path text : Text) : List Feature :=
  let chars := text.toArray
  let breaks := Topic.lineBreaks text
  c.filterMap fun t =>
    let evidence := t.patterns.flatMap (Topic.evidenceOf path chars breaks)
    if evidence.isEmpty then none
    else some {
      id := t.id
      confidence := Topic.boosted t.confidence evidence.length
      evidence := evidence.take Topic.maxEvidence }

end HelpCenter

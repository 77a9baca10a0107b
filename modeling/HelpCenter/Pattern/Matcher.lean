import HelpCenter.Pattern.Reader

/-!
# Matching patterns

A pattern is matched from the left with backtracking: alternatives are tried in order and
repetitions from the longest or the shortest count. What comes after a part is given as a
continuation, so the first way on which everything fits is the match.
-/

namespace HelpCenter

/-- The places of the groups that have matched. -/
abbrev Captures := List (Nat × Nat × Nat)

namespace Pattern

/-- A match in progress: the place reached and the groups so far. -/
abbrev Found := Option (Nat × Captures)

/-- What comes after a part of a pattern. -/
abbrev Next := Nat → Captures → Found

/-- Whether a character belongs to a class. -/
def CharClass.holds (ascii : Bool) (k : CharClass) (c : CodePoint) : Bool :=
  (!ascii || c.toNat < 128) &&
    match k with
    | .digit => c.isDecimal
    | .space => c.isBlank && !(ascii && 0x1C ≤ c.toNat && c.toNat ≤ 0x1F)
    | .word => c.isWord

/-- Lower case within ASCII. -/
def asciiLower (c : CodePoint) : CodePoint :=
  if CodePoint.between 'A' 'Z' c then CodePoint.ofNat (c.toNat + 32) else c

/-- Whether a character fits another one. -/
def charFits (flags : PatternFlags) (c d : CodePoint) : Bool :=
  c = d || (flags.ignoreCase &&
    if flags.ascii then asciiLower c = asciiLower d else CodePoint.sameCaseless c d)

/-- Whether a character lies in a range. -/
def rangeFits (flags : PatternFlags) (lo hi d : CodePoint) : Bool :=
  let inside (c : CodePoint) : Bool := lo.toNat ≤ c.toNat && c.toNat ≤ hi.toNat
  inside d || (flags.ignoreCase &&
    if flags.ascii then
      let l := asciiLower d
      inside l || (CodePoint.between 'a' 'z' l && inside (CodePoint.ofNat (l.toNat - 32)))
    else d.lower.variants.any fun l => l.raised.any inside)

/-- Whether a character fits a member of a set. -/
def SetItem.fits (flags : PatternFlags) (d : CodePoint) : SetItem → Bool
  | .char c => charFits flags c d
  | .range lo hi => rangeFits flags lo hi d
  | .charClass k negated => CharClass.holds flags.ascii k d != negated

/-- Whether a word character stands at a place. -/
def wordAt (ascii : Bool) (text : Array CodePoint) (i : Nat) : Bool :=
  (text[i]?.map (CharClass.holds ascii .word)).getD false

/-- Whether an anchor holds at a place. -/
def anchorHolds (flags : PatternFlags) (text : Array CodePoint) (i : Nat) : Anchor → Bool
  | .lineStart => i = 0 || (flags.multiline && (text[i - 1]?.map (·.is '\n')).getD false)
  | .lineEnd =>
    i = text.size || ((text[i]?.map (·.is '\n')).getD false && (flags.multiline || i + 1 = text.size))
  | .textStart => i = 0
  | .textEnd => i = text.size
  | .wordBoundary => boundary
  | .notWordBoundary => text.size ≠ 0 && !boundary
where
  /-- Whether exactly one neighbour of the place is a word character. -/
  boundary : Bool :=
    let before := 0 < i && wordAt flags.ascii text (i - 1)
    before != wordAt flags.ascii text i

/-- Goes on with `next` as often as the greedy or lazy repetition of `body` allows. `count`
repetitions are done, the last began at `last`; one that takes nothing is not repeated. -/
def loopFrom (body : Nat → Captures → Next → Found) (least : Nat) (most : Option Nat)
    (isLazy : Bool) (next : Next) : (fuel count : Nat) → (last : Option Nat) → Nat → Captures → Found
  | 0, _, _, _, _ => none
  | fuel + 1, count, last, i, caps =>
    if count < least then
      body i caps fun j caps => loopFrom body least most isLazy next fuel (count + 1) last j caps
    else
      let mayRepeat := (most.all fun m => count < m) && last ≠ some i
      let again (_ : Unit) : Found :=
        if mayRepeat then
          body i caps fun j caps =>
            loopFrom body least most isLazy next fuel (count + 1) (some i) j caps
        else none
      if isLazy then
        match next i caps with
        | some r => some r
        | none => again ()
      else
        match again () with
        | some r => some r
        | none => next i caps

/-- Repeats `body` as often as it goes, never reconsidering a repetition. -/
def loopPossessive (body : Nat → Captures → Next → Found) (least : Nat) (most : Option Nat) :
    (fuel count : Nat) → Nat → Captures → Found
  | 0, _, i, caps => some (i, caps)
  | fuel + 1, count, i, caps =>
    if most.any fun m => m ≤ count then some (i, caps)
    else
      match body i caps fun j caps => some (j, caps) with
      | none => if count < least then none else some (i, caps)
      | some (j, caps) =>
        if least ≤ count && j = i then some (j, caps)
        else loopPossessive body least most fuel (count + 1) j caps

/-- Whether the text of a captured part stands at a place as well. -/
def againAt (flags : PatternFlags) (text : Array CodePoint) (i from_ length : Nat) : Bool :=
  (List.range length).all fun k =>
    match text[from_ + k]?, text[i + k]? with
    | some c, some d =>
      if flags.ignoreCase then
        if flags.ascii then asciiLower c = asciiLower d else c.lower = d.lower
      else c = d
    | _, _ => false

/-- Matches a pattern at a place and goes on with `next`. -/
def run (text : Array CodePoint) : PatternFlags → Pattern → Nat → Captures → Next → Found
  | _, .empty, i, caps, next => next i caps
  | flags, .char c, i, caps, next =>
    match text[i]? with
    | some d => if charFits flags c d then next (i + 1) caps else none
    | none => none
  | flags, .any, i, caps, next =>
    match text[i]? with
    | some d => if flags.dotAll || !d.is '\n' then next (i + 1) caps else none
    | none => none
  | flags, .set negated items, i, caps, next =>
    match text[i]? with
    | some d => if items.any (SetItem.fits flags d) != negated then next (i + 1) caps else none
    | none => none
  | flags, .seq a b, i, caps, next => run text flags a i caps fun j caps => run text flags b j caps next
  | flags, .alt a b, i, caps, next =>
    match run text flags a i caps next with
    | some r => some r
    | none => run text flags b i caps next
  | flags, .loop least most mode body, i, caps, next =>
    let step := run text flags body
    let fuel := least + (text.size - i) + 3
    match mode with
    | .greedy => loopFrom step least most false next fuel 0 none i caps
    | .lazy => loopFrom step least most true next fuel 0 none i caps
    | .possessive =>
      match loopPossessive step least most fuel 0 i caps with
      | some (j, caps) => next j caps
      | none => none
  | flags, .group index body, i, caps, next =>
    run text flags body i caps fun j caps => next j ((index, i, j) :: caps)
  | flags, .scoped add del body, i, caps, next => run text (flags.inside add del) body i caps next
  | flags, .atomic body, i, caps, next =>
    match run text flags body i caps fun j caps => some (j, caps) with
    | some (j, caps) => next j caps
    | none => none
  | flags, .anchor a, i, caps, next => if anchorHolds flags text i a then next i caps else none
  | flags, .look behind negated body, i, caps, next =>
    let width := if behind then body.width.1 else 0
    let found :=
      if width ≤ i then run text flags body (i - width) caps fun j caps => some (j, caps) else none
    match found, negated with
    | some (_, caps), false => next i caps
    | none, true => next i caps
    | _, _ => none
  | flags, .again index _ _, i, caps, next =>
    match caps.lookup index with
    | some (first, behind) =>
      if againAt flags text i first (behind - first) then next (i + (behind - first)) caps
      else none
    | none => none
  | flags, .ifGroup index yes no, i, caps, next =>
    if (caps.lookup index).isSome then run text flags yes i caps next
    else run text flags no i caps next

end Pattern

namespace CompiledPattern

/-- Where a match that begins at a place ends; it may be required to take something. -/
def matchAt (p : CompiledPattern) (text : Array CodePoint) (mustAdvance : Bool) (i : Nat) :
    Option Nat :=
  (p.pattern.run text p.flags i [] fun j caps =>
    if mustAdvance && j = i then none else some (j, caps)).map (·.1)

/-- The first match at a place or after it, looking at no more than `fuel` places. -/
def searchFrom (p : CompiledPattern) (text : Array CodePoint) (mustAdvance : Bool) :
    Nat → Nat → Option (Nat × Nat)
  | 0, _ => none
  | fuel + 1, i =>
    if text.size < i then none
    else
      match p.matchAt text mustAdvance i with
      | some j => some (i, j)
      | none => p.searchFrom text false fuel (i + 1)

/-- Whether the pattern matches somewhere in a text. -/
def matchesIn (p : CompiledPattern) (t : Text) : Bool :=
  (p.searchFrom t.toArray false (t.length + 1) 0).isSome

/-- The matches from a place on. Each search goes on where the match before it ended, and if that
match was empty, the next one at the same place is not. -/
def matchesFrom (p : CompiledPattern) (text : Array CodePoint) :
    Nat → Bool → Nat → List (Nat × Nat)
  | 0, _, _ => []
  | fuel + 1, mustAdvance, i =>
    match p.searchFrom text mustAdvance (text.size + 1 - i) i with
    | some (s, e) => (s, e) :: p.matchesFrom text fuel (s == e) e
    | none => []

/-- All matches in a text, in order. -/
def allMatches (p : CompiledPattern) (text : Array CodePoint) : List (Nat × Nat) :=
  p.matchesFrom text (2 * text.size + 2) false 0

end CompiledPattern

end HelpCenter

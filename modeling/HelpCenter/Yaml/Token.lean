import HelpCenter.Yaml.Scalar
import HelpCenter.Text.Utf8

/-!
# Tokens of a YAML text

Indentation and line structure become tokens of their own. A simple key is known as one only when
its colon is met, so its token is put in afterwards at the place where the key began.
-/

namespace HelpCenter.Yaml

/-- A directive in front of a document. -/
inductive Directive where
  | version (major minor : Nat)
  | tag (handle lead : Text)
  | other
deriving DecidableEq

/-- A token. -/
inductive Token where
  | directive (d : Directive)
  | documentStart
  | documentEnd
  | blockSequenceStart
  | blockMappingStart
  | blockEnd
  | flowSequenceStart
  | flowSequenceEnd
  | flowMappingStart
  | flowMappingEnd
  | blockEntry
  | flowEntry
  | key
  | value
  | alias (name : Text)
  | anchor (name : Text)
  | tag (handle : Option Text) (suffix : Text)
  | scalar (plain : Bool) (text : Text)
deriving DecidableEq

/-- A place where a key may have begun. -/
structure PendingKey where
  /-- How many flow collections are open around it. -/
  flowLevel : Nat
  /-- How many tokens stand before it. -/
  tokenIndex : Nat
  /-- Whether nothing but a key can stand here. -/
  required : Bool
  index : Nat
  line : Nat
  column : Nat

/-- How far the tokens have been read. -/
structure TokenReader where
  cursor : Cursor
  tokens : Array Token
  flowLevel : Nat
  /-- The indentation of the innermost block collection, `-1` outside all. -/
  indent : Int
  /-- The indentations around it, innermost first. -/
  outerIndents : List Int
  /-- Whether a key without its indicator may begin here. -/
  allowKey : Bool
  pending : List PendingKey

namespace TokenReader

/-- The state in front of a text; a byte order mark there is passed over. -/
def start (t : Text) : TokenReader where
  cursor :=
    let c := Cursor.start t
    if c.peek?.map (·.toNat) = some 0xFEFF then c.next else c
  tokens := #[]
  flowLevel := 0
  indent := -1
  outerIndents := []
  allowKey := true
  pending := []

/-- Adds a token. -/
def push (r : TokenReader) (t : Token) : TokenReader := { r with tokens := r.tokens.push t }

/-- Whether a block collection's rules apply. -/
def inBlock (r : TokenReader) : Bool := r.flowLevel = 0

/-- Closes block collections that are indented deeper than `column`. -/
def closeIndents (column : Int) : List Int → TokenReader → TokenReader
  | [], r => r
  | outer :: rest, r =>
    if column < r.indent then
      closeIndents column rest
        { r with indent := outer, outerIndents := rest, tokens := r.tokens.push .blockEnd }
    else r

/-- Closes block collections that are indented deeper than `column`, outside flow collections. -/
def unwind (r : TokenReader) (column : Int) : TokenReader :=
  if r.inBlock then closeIndents column r.outerIndents r else r

/-- Opens a block collection at a column if it is deeper than the current one. -/
def indentTo (r : TokenReader) (column : Int) (at_ : Nat) (t : Token) : TokenReader :=
  if r.indent < column then
    { r with
      indent := column
      outerIndents := r.indent :: r.outerIndents
      tokens := (r.tokens.toList.take at_ ++ t :: r.tokens.toList.drop at_).toArray }
  else r

/-- Forgets keys that can no longer be completed: a key stays on one line and within 1024
characters. -/
def dropStale (r : TokenReader) : Result TokenReader :=
  let stale (k : PendingKey) : Bool :=
    k.line != r.cursor.line || 1024 < r.cursor.index - k.index
  if r.pending.any fun k => stale k && k.required then .error .malformed
  else .ok { r with pending := r.pending.filter fun k => !stale k }

/-- Forgets the key that may have begun at this flow level. -/
def dropPending (r : TokenReader) : Result TokenReader :=
  if r.pending.any fun k => k.flowLevel = r.flowLevel && k.required then .error .malformed
  else .ok { r with pending := r.pending.filter fun k => k.flowLevel != r.flowLevel }

/-- Notes that a key may begin here. -/
def notePending (r : TokenReader) : Result TokenReader :=
  if r.allowKey then do
    let required := r.inBlock && r.indent = r.cursor.column
    let r ← r.dropPending
    return { r with pending := ⟨r.flowLevel, r.tokens.size, required, r.cursor.index,
      r.cursor.line, r.cursor.column⟩ :: r.pending }
  else .ok r

/-- Passes over spaces, comments and line breaks. -/
def skipToToken : Nat → TokenReader → TokenReader
  | 0, r => r
  | fuel + 1, r =>
    let c := r.cursor.skipSpaces
    let c := if c.at_ '#' then c.skipLine else c
    if startsBreak c.rest && !c.rest.isEmpty then
      skipToToken fuel
        { r with cursor := c.readBreak.2, allowKey := r.allowKey || r.inBlock }
    else { r with cursor := c }

/-- Takes `n` characters as the token `t`. -/
def take (r : TokenReader) (n : Nat) (t : Token) : TokenReader :=
  { r with cursor := r.cursor.skip n, tokens := r.tokens.push t }

/-! ## Names, tags and directives -/

/-- Characters of anchors and handles. -/
def isNameChar (c : CodePoint) : Bool := c.isDigit || c.isLetter || c.is '-' || c.is '_'

/-- The name of an anchor or alias behind its indicator. -/
def readName (c : Cursor) : Result (Text × Cursor) :=
  let (name, c) := c.next.takeWhile isNameChar
  let ends := startsBlank c.rest || (c.peek?.map fun ch => (lit "?:,]\x7d%@`").contains ch).getD false
  if name.isEmpty || !ends then .error .malformed else .ok (name, c)

/-- Characters of tags, the escape sign apart. -/
def isUriChar (c : CodePoint) : Bool :=
  c.isDigit || c.isLetter || (lit "-;/?:@&=+$,_.!~*'()[]").contains c

/-- A run of escaped bytes. -/
def readEscapedBytes : Nat → Cursor → Result (Bytes × Cursor)
  | 0, c => .ok ([], c)
  | fuel + 1, c =>
    if c.at_ '%' then
      match (c.rest.drop 1).take 2 with
      | [a, b] =>
        match a.hexValue?, b.hexValue? with
        | some a, some b => do
          let (more, c) ← readEscapedBytes fuel (c.skip 3)
          return ((a * 16 + b).toUInt8 :: more, c)
        | _, _ => .error .malformed
      | _ => .error .malformed
    else .ok ([], c)

/-- The pieces of a tag between and including escapes. -/
def readUriPieces : Nat → Cursor → Result (Text × Cursor)
  | 0, c => .ok ([], c)
  | fuel + 1, c =>
    let (run, c) := c.takeWhile isUriChar
    if c.at_ '%' then do
      let (bytes, c) ← readEscapedBytes (c.rest.length + 1) c
      match Utf8.decode bytes with
      | .error _ => throw .malformed
      | .ok t =>
        let (more, c) ← readUriPieces fuel c
        return (run ++ t ++ more, c)
    else .ok (run, c)

/-- The text of a tag, which is not empty. -/
def readUri (c : Cursor) : Result (Text × Cursor) :=
  if (c.peek?.map fun ch => isUriChar ch || ch.is '%').getD false then
    readUriPieces (c.rest.length + 1) c
  else .error .malformed

/-- A tag handle: one or two exclamation marks with a name between. -/
def readHandle (c : Cursor) : Result (Text × Cursor) :=
  if !c.at_ '!' then .error .malformed
  else if c.next.at_ ' ' then .ok (lit "!", c.next)
  else
    let (name, after) := c.next.takeWhile isNameChar
    if after.at_ '!' then .ok (lit "!" ++ name ++ lit "!", after.next) else .error .malformed

/-- Whether an exclamation mark follows before the next space. -/
def hasHandle (t : Text) : Bool := (t.takeWhile fun c => !(c.is ' ' || isBreak c)).any (·.is '!')

/-- A tag; the cursor stands on its exclamation mark. -/
def readTag (c : Cursor) : Result (Token × Cursor) := do
  let (handle, suffix, c) ←
    if c.next.at_ '<' then do
      let (uri, c) ← readUri (c.skip 2)
      if c.at_ '>' then pure (none, uri, c.next) else throw .malformed
    else if startsBlank c.next.rest then pure (none, lit "!", c.next)
    else if hasHandle c.next.rest then do
      let (handle, c) ← readHandle c
      let (uri, c) ← readUri c
      pure (some handle, uri, c)
    else do
      let (uri, c) ← readUri c.next
      pure (some (lit "!"), uri, c)
  if startsSpace c.rest then return (.tag handle suffix, c) else throw .malformed

/-- A number in a version directive. -/
def readVersionNumber (c : Cursor) : Result (Nat × Cursor) :=
  let (digits, c) := c.takeWhile CodePoint.isDigit
  if digits.isEmpty then .error .malformed
  else .ok (digits.foldl (fun n d => n * 10 + (d.toNat - 48)) 0, c)

/-- A directive; the cursor stands on its percent sign. -/
def readDirective (c : Cursor) : Result (Directive × Cursor) := do
  let (name, c) := c.next.takeWhile isNameChar
  if name.isEmpty || !startsSpace c.rest then throw .malformed
  else if name = lit "YAML" then
    let (major, c) ← readVersionNumber c.skipSpaces
    if !c.at_ '.' then throw .malformed
    let (minor, c) ← readVersionNumber c.next
    if !startsSpace c.rest then throw .malformed
    return (.version major minor, ← c.endLine)
  else if name = lit "TAG" then
    let (handle, c) ← readHandle c.skipSpaces
    if !c.at_ ' ' then throw .malformed
    let (lead, c) ← readUri c.skipSpaces
    if !startsSpace c.rest then throw .malformed
    return (.tag handle lead, ← c.endLine)
  else return (.other, ← c.skipLine.endLine)

/-! ## Reading one token -/

/-- A directive or document marker, before which all block collections end. -/
def atDocumentLevel (r : TokenReader) : Result TokenReader := do
  let r ← (r.unwind (-1)).dropPending
  return { r with allowKey := false }

/-- The start of a flow collection. -/
def openFlow (r : TokenReader) (t : Token) : Result TokenReader := do
  let r ← r.notePending
  return { (r.take 1 t) with flowLevel := r.flowLevel + 1, allowKey := true }

/-- The end of a flow collection. -/
def closeFlow (r : TokenReader) (t : Token) : Result TokenReader := do
  let r ← r.dropPending
  return { (r.take 1 t) with flowLevel := r.flowLevel - 1, allowKey := false }

/-- The comma between entries of a flow collection. -/
def readFlowEntry (r : TokenReader) : Result TokenReader := do
  let r ← { r with allowKey := true }.dropPending
  return r.take 1 .flowEntry

/-- The dash of a sequence entry. -/
def readBlockEntry (r : TokenReader) : Result TokenReader := do
  if r.inBlock && !r.allowKey then throw .malformed
  let r := if r.inBlock then r.indentTo r.cursor.column r.tokens.size .blockSequenceStart else r
  let r ← { r with allowKey := true }.dropPending
  return r.take 1 .blockEntry

/-- The indicator of a key. -/
def readKey (r : TokenReader) : Result TokenReader := do
  if r.inBlock && !r.allowKey then throw .malformed
  let r := if r.inBlock then r.indentTo r.cursor.column r.tokens.size .blockMappingStart else r
  let r ← { r with allowKey := r.inBlock }.dropPending
  return r.take 1 .key

/-- The colon of a value. If a key may have begun at this level, it did, and its token is put in
front of it. -/
def readValue (r : TokenReader) : Result TokenReader := do
  match r.pending.find? fun k => k.flowLevel = r.flowLevel with
  | some k =>
    let tokens := r.tokens.toList
    let r := { r with
      pending := r.pending.filter fun j => j.flowLevel != r.flowLevel
      tokens := (tokens.take k.tokenIndex ++ Token.key :: tokens.drop k.tokenIndex).toArray
      allowKey := false }
    let r := if r.inBlock then r.indentTo k.column k.tokenIndex .blockMappingStart else r
    return r.take 1 .value
  | none =>
    if r.inBlock && !r.allowKey then throw .malformed
    let r := if r.inBlock then r.indentTo r.cursor.column r.tokens.size .blockMappingStart else r
    let r ← { r with allowKey := r.inBlock }.dropPending
    return r.take 1 .value

/-- A token with a text of its own, which may be a key. -/
def readContent (r : TokenReader) (read : Cursor → Result (Token × Cursor)) :
    Result TokenReader := do
  let r ← r.notePending
  let (t, c) ← read r.cursor
  return { r with cursor := c, tokens := r.tokens.push t, allowKey := false }

/-- A literal or folded scalar. -/
def readBlockScalar (r : TokenReader) (folded : Bool) : Result TokenReader := do
  let r ← { r with allowKey := true }.dropPending
  let (t, c) ← readBlock folded r.indent r.cursor
  return { r with cursor := c, tokens := r.tokens.push (.scalar false t) }

/-- A plain scalar. -/
def readPlainScalar (r : TokenReader) : Result TokenReader := do
  let r ← r.notePending
  let p := readPlain (!r.inBlock) (r.indent + 1) r.cursor
  return { r with
    cursor := p.cursor, tokens := r.tokens.push (.scalar true p.text), allowKey := p.endedLine }

/-- Whether a plain scalar can start with `ch` before `after`. -/
def startsPlain (inBlock : Bool) (ch : CodePoint) (after : Text) : Bool :=
  if isSpaceOrTab ch || isBreak ch || (lit ",[]\x7b\x7d#&*!|>'\"%@`").contains ch then false
  else if ch.is '-' then !startsBlank after
  else if ch.is '?' || ch.is ':' then inBlock && !startsBlank after
  else true

/-- Reads the token that starts with `ch`, the first character at the cursor. -/
def readAt (r : TokenReader) (ch : CodePoint) (after : Text) : Result TokenReader :=
  let lineStart := r.cursor.column = 0
  let text := r.cursor.rest
  if ch.is '%' && lineStart then do
    let r ← r.atDocumentLevel
    let (d, c) ← readDirective r.cursor
    return { r with cursor := c, tokens := r.tokens.push (.directive d) }
  else if lineStart && startsMarker '-' text then do
    return (← r.atDocumentLevel).take 3 .documentStart
  else if lineStart && startsMarker '.' text then do
    return (← r.atDocumentLevel).take 3 .documentEnd
  else if ch.is '[' then r.openFlow .flowSequenceStart
  else if ch.is '{' then r.openFlow .flowMappingStart
  else if ch.is ']' then r.closeFlow .flowSequenceEnd
  else if ch.is '}' then r.closeFlow .flowMappingEnd
  else if ch.is ',' then r.readFlowEntry
  else if ch.is '-' && startsBlank after then r.readBlockEntry
  else if ch.is '?' && (!r.inBlock || startsBlank after) then r.readKey
  else if ch.is ':' && (!r.inBlock || startsBlank after) then r.readValue
  else if ch.is '*' then r.readContent fun c => do
    let (name, c) ← readName c
    return (.alias name, c)
  else if ch.is '&' then r.readContent fun c => do
    let (name, c) ← readName c
    return (.anchor name, c)
  else if ch.is '!' then r.readContent readTag
  else if ch.is '|' && r.inBlock then r.readBlockScalar false
  else if ch.is '>' && r.inBlock then r.readBlockScalar true
  else if ch.is '\'' || ch.is '"' then r.readContent fun c => do
    let (t, c) ← readQuoted ch c
    return (.scalar false t, c)
  else if startsPlain r.inBlock ch after then r.readPlainScalar
  else .error .malformed

/-- Reads the remaining tokens; the fault, if any, stands where reading stopped. -/
def readAll : Nat → TokenReader → Array Token × Option Fault
  | 0, r => (r.tokens, some .malformed)
  | fuel + 1, r =>
    let r := skipToToken (r.cursor.rest.length + 1) r
    match r.dropStale with
    | .error e => (r.tokens, some e)
    | .ok r =>
      let r := r.unwind r.cursor.column
      match r.cursor.rest with
      | [] =>
        match (r.unwind (-1)).dropPending with
        | .error e => (r.tokens, some e)
        | .ok r => (r.tokens, none)
      | ch :: after =>
        match r.readAt ch after with
        | .error e => (r.tokens, some e)
        | .ok r => readAll fuel r

end TokenReader

/-- Whether a character may stand in a YAML text. -/
def isAllowed (c : CodePoint) : Bool :=
  let n := c.toNat
  n == 9 || n == 10 || n == 13 || (0x20 ≤ n && n ≤ 0x7E) || n == 0x85 || (0xA0 ≤ n && n ≤ 0xD7FF)
    || (0xE000 ≤ n && n ≤ 0xFFFD) || 0x10000 ≤ n

/-- The tokens of a text and the fault that ends them, if any. -/
def tokensOf (t : Text) : Array Token × Option Fault :=
  if t.all isAllowed then TokenReader.readAll (t.length + 2) (TokenReader.start t)
  else (#[], some .malformed)

end HelpCenter.Yaml

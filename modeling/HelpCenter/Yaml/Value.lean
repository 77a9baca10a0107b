import HelpCenter.Json.Basic
import HelpCenter.Number.Reading
import HelpCenter.Yaml.Node

/-!
# Values of a YAML document

Scalars get their values, mappings take over the entries they merge, and every node is checked
for its tag. Anchored values stay in a table, so a value may contain itself.
-/

namespace HelpCenter.Yaml

/-- A value; `ref` stands for an anchored one. -/
inductive Value where
  | null
  | bool (value : Bool)
  | int (value : Int)
  | float (value : Binary64)
  | str (value : Text)
  | bytes (value : Bytes)
  | moment (value : Timestamp)
  | list (items : List Value)
  | pair (key value : Value)
  | set (members : List Value)
  | map (entries : List (Value × Value))
  | ref (index : Nat)

/-- A value with the table that its references go to. -/
structure Document where
  root : Value
  anchored : List (Nat × Value)

/-! ## Scalars -/

/-- Reads an integer in one of the written forms. -/
def integerOf (text : Text) : Result Int := do
  let value := text.filter fun c => !c.is '_'
  let neg := (value.head?.map (·.is '-')).getD false
  if value.isEmpty then throw (.data .outOfBounds)
  let value := dropSign value
  let signed (n : Option Int) : Result Int :=
    match n with
    | some n => .ok (if neg then -n else n)
    | none => .error (.data .unreadable)
  if value = lit "0" then return 0
  else if Text.startsWith value (lit "0b") then signed (Text.readIntegerIn? .two (value.drop 2))
  else if Text.startsWith value (lit "0x") then
    signed (Text.readIntegerIn? .sixteen (value.drop 2))
  else
    match value with
    | [] => throw (.data .outOfBounds)
    | c :: _ =>
      if c.is '0' then signed (Text.readIntegerIn? .eight value)
      else if value.contains ':' then
        signed (((Text.splitOn ':' value).mapM Text.readInteger?).map
          (·.foldl (fun n d => n * 60 + d) 0))
      else signed (Text.readInteger? value)

/-- The sum of the parts, least first, each times its power of sixty. -/
def sumSixties : Nat → Binary64 → List Binary64 → Result Binary64
  | _, sum, [] => .ok sum
  | base, sum, part :: parts =>
    let weight := Binary64.ofInt base
    if weight.isFinite then sumSixties (base * 60) (sum + part * weight) parts
    else .error (.data .outOfRange)

/-- Reads a double in one of the written forms. -/
def doubleOf (text : Text) : Result Binary64 := do
  let value := Text.toLower (text.filter fun c => !c.is '_')
  let neg := (value.head?.map (·.is '-')).getD false
  if value.isEmpty then throw (.data .outOfBounds)
  let value := dropSign value
  let signed (x : Option Binary64) : Result Binary64 :=
    match x with
    | some x => .ok (if neg then x.negate else x)
    | none => .error (.data .unreadable)
  if value = lit ".inf" then signed (some (.infinite false))
  else if value = lit ".nan" then return .nan
  else if value.contains ':' then
    match (Text.splitOn ':' value).mapM Text.readDouble? with
    | none => throw (.data .unreadable)
    | some parts => signed (some (← sumSixties 1 (.zero false) parts.reverse))
  else signed (Text.readDouble? value)

/-- The truth value of a word. -/
def truthOf (text : Text) : Result Bool :=
  let word := Text.toLower text
  if (["yes", "true", "on"] : List Text).contains word then .ok true
  else if (["no", "false", "off"] : List Text).contains word then .ok false
  else .error (.data (.missing word))

/-- The value of a character in base 64. -/
def base64Value? (c : CodePoint) : Option Nat :=
  if CodePoint.between 'A' 'Z' c then some (c.toNat - 65)
  else if CodePoint.between 'a' 'z' c then some (c.toNat - 71)
  else if c.isDigit then some (c.toNat + 4)
  else if c.is '+' then some 62
  else if c.is '/' then some 63
  else none

/-- Decodes base 64; other characters are passed over, and padding ends the data. `place` counts
the characters of the current group, `left` holds the bits that wait for the next one. -/
def decodeBase64 : (place left pads : Nat) → Text → Result Bytes
  | place, _, _, [] => if place = 0 then .ok [] else .error .malformed
  | place, left, pads, c :: t =>
    if c.is '=' then
      if 2 ≤ place then
        if 4 ≤ place + pads + 1 then .ok [] else decodeBase64 place left (pads + 1) t
      else decodeBase64 place left pads t
    else
      match base64Value? c with
      | none => decodeBase64 place left pads t
      | some v =>
        match place with
        | 0 => decodeBase64 1 v 0 t
        | 1 => (decodeBase64 2 (v % 16) 0 t).map ((left * 4 + v / 16).toUInt8 :: ·)
        | 2 => (decodeBase64 3 (v % 4) 0 t).map ((left * 16 + v / 4).toUInt8 :: ·)
        | _ => (decodeBase64 0 0 0 t).map ((left * 64 + v).toUInt8 :: ·)

/-- The value of a scalar with a tag. -/
def scalarValue (tag text : Text) : Result Value :=
  if tag = coreTag "str" then .ok (.str text)
  else if tag = coreTag "null" then .ok .null
  else if tag = coreTag "bool" then (truthOf text).map .bool
  else if tag = coreTag "int" then (integerOf text).map .int
  else if tag = coreTag "float" then (doubleOf text).map .float
  else if tag = coreTag "binary" then
    if text.all (·.toNat < 128) then (decodeBase64 0 0 0 text).map .bytes else .error .malformed
  else if tag = coreTag "timestamp" then
    match readTimestamp? text with
    | none => .error (.data .noPart)
    | some s => if s.isValid then .ok (.moment s) else .error (.data .unreadable)
  else .error .malformed

/-! ## Merging -/

namespace Graph

/-- The node behind references. -/
def deref (g : Graph) : Node → Node
  | .ref index => (g.anchored.lookup index).getD (.scalar [] [])
  | n => n

/-- The tag of a node. -/
def tagOf (g : Graph) (n : Node) : Text :=
  match g.deref n with
  | .scalar tag _ => tag
  | .sequence tag _ => tag
  | .mapping tag _ => tag
  | .ref _ => []

/-- The number of an anchored node. -/
def refIndex? : Node → Option Nat
  | .ref index => some index
  | _ => none

/-- A key that is the mark for a default value is a text after all. -/
def plainKey (g : Graph) (key : Node) : Node :=
  if g.tagOf key = coreTag "value" then
    match g.deref key with
    | .scalar _ text => .scalar (coreTag "str") text
    | n => n
  else key

/-- The entries of a mapping, those it merges first. A mapping that is being merged already adds
only its own. -/
def mergedEntries (g : Graph) : Nat → List Nat → List (Node × Node) → Result (List (Node × Node))
  | 0, _, entries => .ok entries
  | fuel + 1, active, entries => do
    let isMerge (e : Node × Node) : Bool := g.tagOf e.1 = coreTag "merge"
    let own := (entries.filter fun e => !isMerge e).map fun (k, v) => (g.plainKey k, v)
    let entriesOf (n : Node) : Result (List (Node × Node)) :=
      match g.deref n with
      | .mapping _ entries =>
        match refIndex? n with
        | some index =>
          if active.contains index then .ok (entries.filter fun e => !isMerge e)
          else g.mergedEntries fuel (index :: active) entries
        | none => g.mergedEntries fuel active entries
      | _ => .error .malformed
    let merged ← (entries.filter isMerge).mapM fun (_, v) =>
      match g.deref v with
      | .sequence _ items => do
        let parts ← items.mapM entriesOf
        return parts.reverse.flatten
      | _ => entriesOf v
    return merged.flatten ++ own

/-! ## Checking -/

/-- The tags of collections. -/
def collectionTags : List Text :=
  [coreTag "seq", coreTag "map", coreTag "set", coreTag "omap", coreTag "pairs"]

/-- The text of a collection that is tagged as a scalar: its default value, if it has one. -/
def scalarText (g : Graph) : Nat → Node → Result Text
  | 0, _ => .error .malformed
  | fuel + 1, n =>
    match g.deref n with
    | .scalar _ text => .ok text
    | .mapping _ entries =>
      match entries.find? fun e => g.tagOf e.1 = coreTag "value" with
      | some (_, v) => g.scalarText fuel v
      | none => .error .malformed
    | _ => .error .malformed

/-- What a check has still to look at, and which anchored nodes it has met. -/
structure Pending where
  queue : List Node
  met : List Nat

/-- Looks at one node: a scalar is evaluated, a collection put off. -/
def checkNode (g : Graph) (fuel : Nat) (p : Pending) (n : Node) : Result Pending :=
  let met := match n with
    | .ref index => p.met.contains index
    | _ => false
  let p := match n with
    | .ref index => { p with met := index :: p.met }
    | _ => p
  if met then .ok p
  else
    let tag := g.tagOf n
    if collectionTags.contains tag then .ok { p with queue := p.queue ++ [g.deref n] }
    else do
      let isText := tag = coreTag "null" || tag = coreTag "str" || tag = coreTag "bool"
        || tag = coreTag "int" || tag = coreTag "float" || tag = coreTag "binary"
        || tag = coreTag "timestamp"
      if !isText then throw .malformed
      let text ← g.scalarText fuel n
      let _ ← scalarValue tag text
      return p

/-- Whether a node can be a key: collections cannot. -/
def isKey (g : Graph) (n : Node) : Bool := !collectionTags.contains (g.tagOf n)

/-- Looks at the entries of a mapping. -/
def checkEntries (g : Graph) (fuel : Nat) (p : Pending) (entries : List (Node × Node)) :
    Result Pending := do
  let entries ← g.mergedEntries fuel [] entries
  entries.foldlM (fun p (k, v) => do
    let p ← g.checkNode fuel p k
    if !g.isKey k then throw .malformed
    g.checkNode fuel p v) p

/-- Looks at the inside of a collection. -/
def checkInside (g : Graph) (fuel : Nat) (p : Pending) (n : Node) : Result Pending :=
  match n with
  | .sequence tag items =>
    if tag = coreTag "seq" then items.foldlM (g.checkNode fuel) p
    else if tag = coreTag "omap" || tag = coreTag "pairs" then
      items.foldlM (fun p item =>
        match g.deref item with
        | .mapping _ [(k, v)] => do
          let p ← g.checkNode fuel p k
          g.checkNode fuel p v
        | _ => .error .malformed) p
    else .error .malformed
  | .mapping tag entries =>
    if tag = coreTag "map" || tag = coreTag "set" then g.checkEntries fuel p entries
    else .error .malformed
  | _ => .error .malformed

/-- Looks at the queued collections and then at those met inside them, level by level. -/
def checkLevels (g : Graph) (fuel : Nat) : Nat → Pending → Result Unit
  | 0, _ => .ok ()
  | levels + 1, p =>
    if p.queue.isEmpty then .ok ()
    else do
      let p ← p.queue.foldlM (g.checkInside fuel) { p with queue := [] }
      g.checkLevels fuel levels p

/-! ## Values -/

/-- The value of a checked node. -/
def value (g : Graph) : Nat → Node → Value
  | 0, _ => .null
  | fuel + 1, n =>
    match n with
    | .ref index => .ref index
    | .scalar tag text => (scalarValue tag text).toOption.getD .null
    | .sequence tag items =>
      if tag = coreTag "seq" then .list (items.map (g.value fuel))
      else if tag = coreTag "omap" || tag = coreTag "pairs" then
        .list (items.map fun item =>
          match g.deref item with
          | .mapping _ [(k, v)] => .pair (g.value fuel k) (g.value fuel v)
          | _ => .null)
      else .null
    | .mapping tag entries =>
      let entries := (g.mergedEntries fuel [] entries).toOption.getD []
      if tag = coreTag "map" then
        .map (entries.map fun (k, v) => (g.value fuel k, g.value fuel v))
      else if tag = coreTag "set" then .set (entries.map fun (k, _) => g.value fuel k)
      else
        let text := (g.scalarText fuel n).toOption.getD []
        (scalarValue tag text).toOption.getD .null

end Graph

/-- The document of a text, nothing if it holds none. -/
def parse (t : Text) : Result (Option Document) := do
  match ← graphOf t with
  | none => return none
  | some g =>
    let fuel := t.length + 8
    let p ← g.checkNode fuel ⟨[], []⟩ g.root
    g.checkLevels fuel fuel p
    return some ⟨g.value fuel g.root, g.anchored.map fun (i, n) => (i, g.value fuel n)⟩

/-! ## Looking into a document -/

mutual

/-- A JSON value as a value of a document. -/
def Value.ofJson : Json → Value
  | .null => .null
  | .bool b => .bool b
  | .int n => .int n
  | .float x => .float x
  | .str t => .str t
  | .arr items => .list (Value.ofJsonItems items)
  | .obj members => .map (Value.ofJsonMembers members)

/-- JSON items as values. -/
def Value.ofJsonItems : List Json → List Value
  | [] => []
  | item :: items => Value.ofJson item :: Value.ofJsonItems items

/-- JSON members as entries. -/
def Value.ofJsonMembers : List (Text × Json) → List (Value × Value)
  | [] => []
  | (name, v) :: members => (.str name, Value.ofJson v) :: Value.ofJsonMembers members

end

namespace Document

/-- The value behind a reference. -/
def deref (d : Document) : Value → Value
  | .ref index => (d.anchored.lookup index).getD .null
  | v => v

/-- A JSON value as a document. -/
def ofJson (j : Json) : Document := ⟨.ofJson j, []⟩

/-- The entry of a mapping under a text; the last one counts. -/
def entry? (d : Document) (name : Text) (entries : List (Value × Value)) : Option Value :=
  (entries.reverse.find? fun (k, _) =>
    match d.deref k with
    | .str t => t = name
    | _ => false).map fun (_, v) => d.deref v

end Document

end HelpCenter.Yaml

import HelpCenter.Yaml.Kind
import HelpCenter.Yaml.Token

/-!
# Nodes of a YAML document

The tokens of a document describe a graph: an anchored node is kept in a table, and every place
that mentions it, its own place included, refers to it by number. Each node carries its tag.
-/

namespace HelpCenter.Yaml

/-- A node with its tag. -/
inductive Node where
  | scalar (tag text : Text)
  | sequence (tag : Text) (items : List Node)
  | mapping (tag : Text) (entries : List (Node × Node))
  | ref (index : Nat)

/-- A node and the table of anchored nodes. -/
structure Graph where
  root : Node
  anchored : List (Nat × Node)

/-- What reading nodes keeps track of. -/
structure NodeState where
  tokens : List Token
  /-- The fault that stands behind the tokens. -/
  fault : Option Fault
  handles : List (Text × Text)
  anchors : List (Text × Nat)
  anchored : List (Nat × Node)

/-- Reading nodes from tokens. -/
abbrev NodeReader := StateT NodeState (Except Fault)

namespace NodeReader

/-- The next token, nothing at the end of the text. -/
def peek : NodeReader (Option Token) := do
  match (← get).tokens with
  | t :: _ => return some t
  | [] =>
    match (← get).fault with
    | some e => throw e
    | none => return none

/-- Passes over the next token. -/
def advance : NodeReader Unit := modify fun s => { s with tokens := s.tokens.drop 1 }

/-- Whether the next token is `t`. -/
def nextIs (t : Token) : NodeReader Bool := do return (← peek) = some t

/-- Passes over the token `t`, which has to come next. -/
def expect (t : Token) : NodeReader Unit := do
  if ← nextIs t then advance else throw .malformed

/-- Whether the next token is one of `ts`. -/
def nextIn (ts : List Token) : NodeReader Bool := do
  match ← peek with
  | some t => return ts.contains t
  | none => return false

/-- A node that nothing stands for. -/
def empty : Node := .scalar (implicitTag []) []

/-- The full tag of a handle and a suffix. -/
def fullTag (handle : Option Text) (suffix : Text) : NodeReader Text := do
  match handle with
  | none => return suffix
  | some h =>
    match (← get).handles.lookup h with
    | some lead => return lead ++ suffix
    | none => throw .malformed

/-- The anchor and the tag in front of a node, in either order. -/
def properties : NodeReader (Option Text × Option Text) := do
  match ← peek with
  | some (.anchor name) =>
    advance
    match ← peek with
    | some (.tag handle suffix) =>
      advance
      return (some name, some (← fullTag handle suffix))
    | _ => return (some name, none)
  | some (.tag handle suffix) =>
    advance
    match ← peek with
    | some (.anchor name) =>
      advance
      return (some name, some (← fullTag handle suffix))
    | _ => return (none, some (← fullTag handle suffix))
  | _ => return (none, none)

/-- The tag of a scalar. -/
def scalarTag (given : Option Text) (plain : Bool) (text : Text) : Text :=
  match given with
  | none => if plain then implicitTag text else coreTag "str"
  | some t => if t = lit "!" then implicitTag text else t

/-- The tag of a collection. -/
def collectionTag (given : Option Text) (default_ : String) : Text :=
  match given with
  | none => coreTag default_
  | some t => if t = lit "!" then coreTag default_ else t

mutual

/-- Reads a node. `block` admits block collections; `indentless` also a sequence whose dashes
stand no deeper than the key in front of it. -/
def node (block indentless : Bool) : Nat → NodeReader Node
  | 0 => throw .malformed
  | fuel + 1 => do
    match ← peek with
    | some (.alias name) =>
      advance
      match (← get).anchors.lookup name with
      | some index => return .ref index
      | none => throw .malformed
    | _ =>
      let (anchor, tag) ← properties
      match anchor with
      | none => content block indentless tag false fuel
      | some name =>
        let s ← get
        if (s.anchors.lookup name).isSome then throw .malformed
        let index := s.anchors.length
        set { s with anchors := (name, index) :: s.anchors }
        let n ← content block indentless tag true fuel
        modify fun s => { s with anchored := (index, n) :: s.anchored }
        return .ref index

/-- Reads a node's content behind its properties. -/
def content (block indentless : Bool) (tag : Option Text) (anchored : Bool) : Nat → NodeReader Node
  | 0 => throw .malformed
  | fuel + 1 => do
    match ← peek with
    | some .blockEntry =>
      if indentless then
        return .sequence (collectionTag tag "seq") (← indentlessEntries fuel)
      else noContent tag anchored
    | some (.scalar plain text) =>
      advance
      return .scalar (scalarTag tag plain text) text
    | some .flowSequenceStart =>
      advance
      return .sequence (collectionTag tag "seq") (← flowSequence true fuel)
    | some .flowMappingStart =>
      advance
      return .mapping (collectionTag tag "map") (← flowMapping true fuel)
    | some .blockSequenceStart =>
      if block then
        advance
        return .sequence (collectionTag tag "seq") (← blockSequence fuel)
      else noContent tag anchored
    | some .blockMappingStart =>
      if block then
        advance
        return .mapping (collectionTag tag "map") (← blockMapping fuel)
      else noContent tag anchored
    | _ => noContent tag anchored

/-- A node without content, which needs an anchor or a tag. -/
def noContent (tag : Option Text) (anchored : Bool) : NodeReader Node :=
  if tag.isSome || anchored then return .scalar (scalarTag tag true []) [] else throw .malformed

/-- The entries of a block sequence up to its end. -/
def blockSequence : Nat → NodeReader (List Node)
  | 0 => throw .malformed
  | fuel + 1 => do
    if ← nextIs .blockEntry then
      advance
      let item ←
        if ← nextIn [.blockEntry, .blockEnd] then pure empty else node true false fuel
      return item :: (← blockSequence fuel)
    else
      expect .blockEnd
      return []

/-- The entries of a sequence that has no indentation of its own. -/
def indentlessEntries : Nat → NodeReader (List Node)
  | 0 => throw .malformed
  | fuel + 1 => do
    if ← nextIs .blockEntry then
      advance
      let item ←
        if ← nextIn [.blockEntry, .key, .value, .blockEnd] then pure empty
        else node true false fuel
      return item :: (← indentlessEntries fuel)
    else return []

/-- The entries of a block mapping up to its end. -/
def blockMapping : Nat → NodeReader (List (Node × Node))
  | 0 => throw .malformed
  | fuel + 1 => do
    if ← nextIs .key then
      advance
      let key ←
        if ← nextIn [.key, .value, .blockEnd] then pure empty else node true true fuel
      let value ← blockValue fuel
      return (key, value) :: (← blockMapping fuel)
    else
      expect .blockEnd
      return []

/-- The value of a block mapping's entry. -/
def blockValue : Nat → NodeReader Node
  | 0 => throw .malformed
  | fuel + 1 => do
    if ← nextIs .value then
      advance
      if ← nextIn [.key, .value, .blockEnd] then return empty else node true true fuel
    else
      let _ ← peek
      return empty

/-- The entries of a flow sequence up to its bracket. -/
def flowSequence (first : Bool) : Nat → NodeReader (List Node)
  | 0 => throw .malformed
  | fuel + 1 => do
    if ← nextIs .flowSequenceEnd then
      advance
      return []
    else
      if !first then expect .flowEntry
      if ← nextIs .key then
        advance
        let key ←
          if ← nextIn [.value, .flowEntry, .flowSequenceEnd] then pure empty
          else node false false fuel
        let value ← flowValue .flowSequenceEnd fuel
        let pair := Node.mapping (coreTag "map") [(key, value)]
        return pair :: (← flowSequence false fuel)
      else if ← nextIs .flowSequenceEnd then
        advance
        return []
      else
        let item ← node false false fuel
        return item :: (← flowSequence false fuel)

/-- The value of an entry in a flow collection that `close` ends. -/
def flowValue (close : Token) : Nat → NodeReader Node
  | 0 => throw .malformed
  | fuel + 1 => do
    if ← nextIs .value then
      advance
      if ← nextIn [.flowEntry, close] then return empty else node false false fuel
    else
      let _ ← peek
      return empty

/-- The entries of a flow mapping up to its brace. -/
def flowMapping (first : Bool) : Nat → NodeReader (List (Node × Node))
  | 0 => throw .malformed
  | fuel + 1 => do
    if ← nextIs .flowMappingEnd then
      advance
      return []
    else
      if !first then expect .flowEntry
      if ← nextIs .key then
        advance
        let key ←
          if ← nextIn [.value, .flowEntry, .flowMappingEnd] then pure empty
          else node false false fuel
        let value ← flowValue .flowMappingEnd fuel
        return (key, value) :: (← flowMapping false fuel)
      else if ← nextIs .flowMappingEnd then
        advance
        return []
      else
        let key ← node false false fuel
        return (key, empty) :: (← flowMapping false fuel)

end

/-- The handles that every document knows. -/
def standardHandles : List (Text × Text) := [(lit "!", lit "!"), (lit "!!", coreTag "")]

/-- Reads directives, at most one of the version, and gives the handles they define. -/
def directives (versionSeen : Bool) (handles : List (Text × Text)) :
    Nat → NodeReader (List (Text × Text))
  | 0 => throw .malformed
  | fuel + 1 => do
    match ← peek with
    | some (.directive d) =>
      advance
      match d with
      | .version major _ =>
        if versionSeen || major ≠ 1 then throw .malformed
        directives true handles fuel
      | .tag handle lead =>
        if (handles.lookup handle).isSome then throw .malformed
        directives versionSeen ((handle, lead) :: handles) fuel
      | .other => directives versionSeen handles fuel
    | _ => return handles

/-- Whether the text ends here or an explicit document begins. -/
def atDocumentStart : NodeReader Bool := do
  match ← peek with
  | none => return true
  | some (.directive _) => return true
  | some t => return t = .documentStart

/-- Whether a document ends here, having no node. -/
def atDocumentEdge : NodeReader Bool := do return (← atDocumentStart) || (← nextIs .documentEnd)

/-- Passes over markers of a document's end. -/
def skipDocumentEnds : Nat → NodeReader Unit
  | 0 => return
  | fuel + 1 => do
    if ← nextIs .documentEnd then
      advance
      skipDocumentEnds fuel

/-- Reads directives and the marker of an explicit document; false at the end of the text. -/
def startDocument (fuel : Nat) : NodeReader Bool := do
  skipDocumentEnds fuel
  match ← peek with
  | none => return false
  | some _ =>
    let handles ← directives false [] fuel
    expect .documentStart
    modify fun s => { s with handles := handles ++ standardHandles }
    return true

/-- Reads the only document of a text, if it has one. -/
def document (fuel : Nat) : NodeReader (Option Node) := do
  let explicit ← atDocumentStart
  let present ← if explicit then startDocument fuel else pure true
  if !present then return none
  let bare ← if explicit then atDocumentEdge else pure false
  let root ← if bare then pure empty else node true false fuel
  if ← nextIs .documentEnd then advance
  if ← startDocument fuel then throw .malformed
  return some root

end NodeReader

/-- The graph of a text's document, nothing if it has none. -/
def graphOf (t : Text) : Result (Option Graph) := do
  let (tokens, fault) := tokensOf t
  let s : NodeState := ⟨tokens.toList, fault, NodeReader.standardHandles, [], []⟩
  let (root, s) ← (NodeReader.document (4 * tokens.size + 8)).run s
  return root.map (⟨·, s.anchored⟩)

end HelpCenter.Yaml

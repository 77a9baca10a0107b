import HelpCenter.Number.Reading
import HelpCenter.Pattern.Basic

/-!
# Reading patterns

The notation of regular expressions: alternatives, repetitions with their lazy and possessive
forms, sets, groups with names, flags and conditions, and looks ahead and behind.
-/

namespace HelpCenter

/-- Why a text is no pattern. -/
inductive PatternFault where
  | malformed
  /-- A repetition count is too large. -/
  | hugeCount
  /-- Two flags exclude each other. -/
  | conflictingFlags
deriving DecidableEq

namespace PatternReader

/-- What has been read so far. -/
structure State where
  rest : Text
  flags : PatternFlags
  /-- The number of the next group. -/
  groups : Nat
  names : List (Text × Nat)
  /-- The widths of the groups that are closed. -/
  closed : List (Nat × Nat × Nat)
  /-- The number of the next group where the outermost look behind began. -/
  behindFrom : Option Nat
  /-- The groups that conditions ask for by number. -/
  asked : List Nat

/-- Reading a pattern. -/
abbrev Reader := StateT State (Except PatternFault)

/-- The next sign: a character, or a backslash with the character behind it. -/
inductive Sign where
  | char (c : CodePoint)
  | escape (c : CodePoint)

/-- The next sign; a backslash may not end the pattern. -/
def peek : Reader (Option Sign) := do
  match (← get).rest with
  | [] => return none
  | c :: rest =>
    if c.is '\\' then
      match rest with
      | [] => throw .malformed
      | d :: _ => return some (.escape d)
    else return some (.char c)

/-- Passes over `n` characters. -/
def drop (n : Nat) : Reader Unit := modify fun s => { s with rest := s.rest.drop n }

/-- Passes over the next sign and gives it. -/
def next : Reader (Option Sign) := do
  match ← peek with
  | some (.char c) => drop 1; return some (.char c)
  | some (.escape c) => drop 2; return some (.escape c)
  | none => return none

/-- Whether the next sign is the character `char`. -/
def at_ (char : Char) : Reader Bool := do
  match ← peek with
  | some (.char c) => return c.is char
  | _ => return false

/-- Passes over the character `char` if it comes next. -/
def accept (char : Char) : Reader Bool := do
  if ← at_ char then
    drop 1
    return true
  else return false

/-- The characters up to a delimiter, which is passed over; they may not be empty. -/
def until_ (delimiter : Char) : Nat → Reader Text
  | 0 => throw .malformed
  | fuel + 1 => do
    match ← next with
    | none => throw .malformed
    | some (.char c) =>
      if c.is delimiter then return []
      else return c :: (← until_ delimiter fuel)
    | some (.escape c) => return '\\' :: c :: (← until_ delimiter fuel)

/-- A name up to a delimiter. -/
def nameUntil (delimiter : Char) : Reader Text := do
  let name ← until_ delimiter ((← get).rest.length + 1)
  if name.isEmpty then throw .malformed
  return name

/-- Whether a text can name a group. -/
def isName : Text → Bool
  | [] => false
  | c :: rest => c.isWord && !c.isDecimal && rest.all CodePoint.isWord

/-- A name that has to be a possible group name. -/
def groupName (delimiter : Char) : Reader Text := do
  let name ← nameUntil delimiter
  if isName name then return name else throw .malformed

/-- Whether a group inside the current look behind may be referred to. -/
def checkBehind (index : Nat) : Reader Unit := do
  let s ← get
  match s.behindFrom with
  | none => return
  | some from_ =>
    if (s.closed.lookup index).isNone || from_ ≤ index then throw .malformed

/-- The pattern for the text of a closed group. -/
def again (index : Nat) : Reader Pattern := do
  match (← get).closed.lookup index with
  | none => throw .malformed
  | some (least, most) =>
    checkBehind index
    return .again index least most

/-! ## Escapes -/

/-- An octal digit. -/
def isOctal : CodePoint → Bool := CodePoint.between '0' '7'

/-- Exactly `n` hexadecimal digits as a character. -/
def hexEscape (n : Nat) : Reader CodePoint := do
  let digits := (← get).rest.take n
  if digits.length = n && digits.all CodePoint.isHexDigit then
    drop n
    match CodePoint.ofNat? (Text.Base.sixteen.value digits) with
    | some c => return c
    | none => throw .malformed
  else throw .malformed

/-- At most `n` more octal digits behind those read. -/
def octalEscape (n : Nat) (read : Text) : Reader CodePoint := do
  let more := ((← get).rest.take n).takeWhile isOctal
  drop more.length
  let value := Text.Base.eight.value (read ++ more)
  if value ≤ 0o377 then return CodePoint.ofNat value else throw .malformed

/-- The control character of a letter. -/
def control? (c : CodePoint) : Option CodePoint :=
  match c.toChar with
  | 'a' => some (CodePoint.ofNat 7)
  | 'f' => some (CodePoint.ofNat 12)
  | 'n' => some (CodePoint.ofNat 10)
  | 'r' => some (CodePoint.ofNat 13)
  | 't' => some (CodePoint.ofNat 9)
  | 'v' => some (CodePoint.ofNat 11)
  | '\\' => some c
  | _ => none

/-- The class of a letter. -/
def class? (c : CodePoint) : Option SetItem :=
  match c.toChar with
  | 'd' => some (.charClass .digit false)
  | 'D' => some (.charClass .digit true)
  | 's' => some (.charClass .space false)
  | 'S' => some (.charClass .space true)
  | 'w' => some (.charClass .word false)
  | 'W' => some (.charClass .word true)
  | _ => none

/-- How many hexadecimal digits follow a letter. -/
def hexWidth? (c : CodePoint) : Option Nat :=
  if c.is 'x' then some 2 else if c.is 'u' then some 4 else if c.is 'U' then some 8 else none

/-- The anchor of a letter. -/
def anchor? (c : CodePoint) : Option Anchor :=
  match c.toChar with
  | 'A' => some .textStart
  | 'Z' => some .textEnd
  | 'b' => some .wordBoundary
  | 'B' => some .notWordBoundary
  | _ => none

/-- An escape inside a set; its letter has been read. -/
def setEscape (c : CodePoint) : Reader SetItem := do
  match control? c, class? c, hexWidth? c with
  | some d, _, _ => return .char d
  | none, some item, _ => return item
  | none, none, some n => return .char (← hexEscape n)
  | none, none, none =>
    if c.is 'b' then return .char (CodePoint.ofNat 8)
    else if isOctal c then return .char (← octalEscape 2 [c])
    else if c.isDigit || c.isLetter then throw .malformed
    else return .char c

/-- An escape of digits: the text of a group, or three octal digits. -/
def numberEscape (c : CodePoint) : Reader Pattern := do
  let rest := (← get).rest
  match rest with
  | d :: e :: _ =>
    if d.isDigit && isOctal c && isOctal d && isOctal e then
      drop 2
      let value := Text.Base.eight.value [c, d, e]
      if value ≤ 0o377 then return .char (CodePoint.ofNat value) else throw .malformed
    else if d.isDigit then
      drop 1
      again (Text.digitsValue [c, d])
    else again (Text.digitsValue [c])
  | [d] =>
    if d.isDigit then
      drop 1
      again (Text.digitsValue [c, d])
    else again (Text.digitsValue [c])
  | [] => again (Text.digitsValue [c])

/-- An escape outside sets; its letter has been read. -/
def escape (c : CodePoint) : Reader Pattern := do
  match class? c, anchor? c, control? c, hexWidth? c with
  | some item, _, _, _ => return .set false [item]
  | none, some a, _, _ => return .anchor a
  | none, none, some d, _ => return .char d
  | none, none, none, some n => return .char (← hexEscape n)
  | none, none, none, none =>
    if c.is '0' then return .char (← octalEscape 2 [c])
    else if c.isDigit then numberEscape c
    else if c.isLetter then throw .malformed
    else return .char c

/-! ## Sets -/

/-- A member of a set whose sign has been read. -/
def setMember : Sign → Reader SetItem
  | .char c => return .char c
  | .escape c => setEscape c

/-- The members of a set up to its closing bracket, which is a member if it comes first. -/
def setItems (first : Bool) : Nat → Reader (List SetItem)
  | 0 => throw .malformed
  | fuel + 1 => do
    match ← next with
    | none => throw .malformed
    | some sign =>
      let closes := match sign with
        | .char c => c.is ']' && !first
        | .escape _ => false
      if closes then return []
      let item ← setMember sign
      if ← accept '-' then
        match ← next with
        | none => throw .malformed
        | some last =>
          let closes := match last with
            | .char c => c.is ']'
            | .escape _ => false
          if closes then return [item, .char '-']
          match item, ← setMember last with
          | .char lo, .char hi =>
            if hi.toNat < lo.toNat then throw .malformed
            return .range lo hi :: (← setItems false fuel)
          | _, _ => throw .malformed
      else return item :: (← setItems false fuel)

/-- A set; its opening bracket has been read. -/
def readSet : Reader Pattern := do
  let negated ← accept '^'
  let items ← setItems true ((← get).rest.length + 1)
  return .set negated items

/-! ## Counts and flags -/

/-- The least count that is too large. -/
def countLimit : Nat := 0xFFFFFFFF

/-- The counts in braces, if the text in front is such; the opening brace has been read. -/
def readCounts? (t : Text) : Option (Text × Text × Text) :=
  let low := t.takeWhile CodePoint.isDigit
  match t.dropWhile CodePoint.isDigit with
  | c :: rest =>
    if c.is ',' then
      let high := rest.takeWhile CodePoint.isDigit
      match rest.dropWhile CodePoint.isDigit with
      | d :: rest => if d.is '}' then some (low, high, rest) else none
      | [] => none
    else if c.is '}' then
      if low.isEmpty then none else some (low, low, rest)
    else none
  | [] => none

/-- The least and the greatest count that texts of digits denote. -/
def countsOf (low high : Text) : Except PatternFault (Nat × Option Nat) := do
  let least := Text.digitsValue low
  if countLimit ≤ least then throw .hugeCount
  if high.isEmpty then return (least, none)
  let most := Text.digitsValue high
  if countLimit ≤ most then throw .hugeCount
  if most < least then throw .malformed
  return (least, some most)

/-- The flag of a letter. -/
def flag? (c : CodePoint) : Option PatternFlags :=
  match c.toChar with
  | 'i' => some { ignoreCase := true }
  | 'm' => some { multiline := true }
  | 's' => some { dotAll := true }
  | 'x' => some { verbose := true }
  | 'a' => some { ascii := true }
  | 'u' => some { unicode := true }
  | 't' => some { template := true }
  | _ => none

/-- Flags to switch on; their first letter has been read. Gives the character behind them. -/
def flagsOn (flags : PatternFlags) (letter : CodePoint) : Nat →
    Reader (PatternFlags × CodePoint)
  | 0 => throw .malformed
  | fuel + 1 => do
    match flag? letter with
    | none => throw .malformed
    | some f =>
      let flags := flags.union f
      if flags.ascii && flags.unicode then throw .malformed
      match ← next with
      | some (.char c) =>
        if c.is ')' || c.is '-' || c.is ':' then return (flags, c) else flagsOn flags c fuel
      | _ => throw .malformed

/-- Flags to switch off, up to the colon. -/
def flagsOff (flags : PatternFlags) : Nat → Reader PatternFlags
  | 0 => throw .malformed
  | fuel + 1 => do
    match ← next with
    | some (.char c) =>
      match flag? c with
      | none => throw .malformed
      | some f =>
        if f.ascii || f.unicode then throw .malformed
        let flags := flags.union f
        if ← accept ':' then return flags else flagsOff flags fuel
    | _ => throw .malformed

/-- What flags in a group's head mean. -/
inductive FlagScope where
  | whole (flags : PatternFlags)
  | inside (add del : PatternFlags)

/-- Flags in a group's head; their first letter or the minus sign has been read. -/
def groupFlags (letter : CodePoint) : Reader FlagScope := do
  let fuel := (← get).rest.length + 1
  let (add, stop) ←
    if letter.is '-' then pure ({}, letter) else flagsOn {} letter fuel
  if stop.is ')' then return .whole add
  if add.template then throw .malformed
  let del ← if stop.is '-' then flagsOff {} fuel else pure {}
  if del.template || add.meets del then throw .malformed
  return .inside add del

/-! ## Sequences and groups -/

/-- What a repetition sign behind an item would do. -/
inductive ItemKind where
  | plain
  | anchor
  | loop
deriving DecidableEq

/-- An item of a sequence. -/
structure Item where
  pattern : Pattern
  kind : ItemKind := .plain

/-- The pattern of items in reverse order. -/
def sequence (items : List Item) : Pattern :=
  items.foldl (fun p item => match p with
    | .empty => item.pattern
    | p => .seq item.pattern p) .empty

/-- The mode's sign behind a repetition. -/
def loopMode : Reader LoopMode := do
  if ← accept '?' then return .lazy
  else if ← accept '+' then return .possessive
  else return .greedy

/-- The items with the last one repeated; the mode's sign is read. -/
def repeated (items : List Item) (least : Nat) (most : Option Nat) : Reader (List Item) := do
  match items with
  | [] => throw .malformed
  | item :: before =>
    if item.kind ≠ .plain then throw .malformed
    return ⟨.loop least most (← loopMode) item.pattern, .loop⟩ :: before

/-- Passes over a comment in a verbose pattern, up to the end of its line. -/
def skipComment : Nat → Reader Unit
  | 0 => return
  | fuel + 1 => do
    match ← next with
    | none => return
    | some (.char c) => if c.is '\n' then return else skipComment fuel
    | some (.escape _) => skipComment fuel

/-- Blanks that a verbose pattern passes over. -/
def isVerboseBlank (c : CodePoint) : Bool :=
  c.is ' ' || c.is '\t' || c.is '\n' || c.is '\r' || c.toNat == 11 || c.toNat == 12

/-- Passes over a comment group up to its parenthesis. -/
def skipCommentGroup : Nat → Reader Unit
  | 0 => throw .malformed
  | fuel + 1 => do
    match ← next with
    | none => throw .malformed
    | some (.char c) => if c.is ')' then return else skipCommentGroup fuel
    | some (.escape _) => skipCommentGroup fuel

/-- The closing parenthesis. -/
def close : Reader Unit := do
  if ← accept ')' then return else throw .malformed

/-- Opens a group, which gets the next number. -/
def openGroup (name : Option Text) : Reader Nat := do
  let s ← get
  match name with
  | some n => if (s.names.lookup n).isSome then throw .malformed
  | none => pure ()
  let names := match name with
    | some n => (n, s.groups) :: s.names
    | none => s.names
  set { s with groups := s.groups + 1, names }
  return s.groups

/-- The number of the group that a condition asks for. -/
def conditionGroup : Reader Nat := do
  let name ← nameUntil ')'
  let s ← get
  if isName name then
    match s.names.lookup name with
    | some index => return index
    | none => throw .malformed
  else
    match Text.readInteger? name with
    | some (.ofNat n) =>
      if n = 0 then throw .malformed
      set { s with asked := n :: s.asked }
      return n
    | _ => throw .malformed

/-- What an opening parenthesis begins. -/
inductive Head where
  /-- Nothing: a comment, or flags for the whole pattern. -/
  | nothing
  | whole (flags : PatternFlags)
  | group (name : Option Text)
  | scoped (add del : PatternFlags)
  | atomic
  | look (behind negated : Bool)
  | again (p : Pattern)
  | condition (index : Nat)

/-- The head of a group; its parenthesis has been read. -/
def head : Reader Head := do
  if !(← accept '?') then return .group none
  match ← next with
  | some (.char c) =>
    match c.toChar with
    | 'P' =>
      if ← accept '<' then return .group (some (← groupName '>'))
      else if ← accept '=' then
        let name ← groupName ')'
        match (← get).names.lookup name with
        | some index => return .again (← PatternReader.again index)
        | none => throw .malformed
      else throw .malformed
    | ':' => return .scoped {} {}
    | '#' =>
      skipCommentGroup ((← get).rest.length + 1)
      return .nothing
    | '=' => return .look false false
    | '!' => return .look false true
    | '<' =>
      if ← accept '=' then return .look true false
      else if ← accept '!' then return .look true true
      else throw .malformed
    | '(' =>
      let index ← conditionGroup
      checkBehind index
      return .condition index
    | '>' => return .atomic
    | _ =>
      if (flag? c).isSome || c.is '-' then
        match ← groupFlags c with
        | .whole flags => return .whole flags
        | .inside add del => return .scoped add del
      else throw .malformed
  | _ => throw .malformed

mutual

/-- Alternatives up to a closing parenthesis or the end. -/
def alternatives (verbose outermost : Bool) : Nat → Reader Pattern
  | 0 => throw .malformed
  | fuel + 1 => do
    let first ← items verbose outermost [] fuel
    furtherAlternatives verbose outermost (sequence first) fuel

/-- The alternatives behind the first one. -/
def furtherAlternatives (verbose outermost : Bool) (p : Pattern) : Nat → Reader Pattern
  | 0 => throw .malformed
  | fuel + 1 => do
    if ← accept '|' then
      let flags := (← get).flags
      let verbose := if outermost then flags.verbose else verbose
      let second ← items verbose false [] fuel
      let rest ← furtherAlternatives verbose outermost (sequence second) fuel
      return .alt p rest
    else return p

/-- The items of a sequence, latest first. `first` tells that flags for the whole pattern may
stand in front. -/
def items (verbose first : Bool) (read : List Item) : Nat → Reader (List Item)
  | 0 => throw .malformed
  | fuel + 1 => do
    match ← peek with
    | none => return read
    | some (.escape c) =>
      drop 2
      let p ← escape c
      let kind := match p with
        | .anchor _ => ItemKind.anchor
        | _ => .plain
      items verbose first (⟨p, kind⟩ :: read) fuel
    | some (.char c) =>
      if c.is '|' || c.is ')' then return read
      drop 1
      if verbose && isVerboseBlank c then items verbose first read fuel
      else if verbose && c.is '#' then
        skipComment ((← get).rest.length + 1)
        items verbose first read fuel
      else
        match c.toChar with
        | '[' => items verbose first (⟨← readSet, .plain⟩ :: read) fuel
        | '?' => items verbose first (← repeated read 0 (some 1)) fuel
        | '*' => items verbose first (← repeated read 0 none) fuel
        | '+' => items verbose first (← repeated read 1 none) fuel
        | '{' =>
          match readCounts? (← get).rest with
          | none => items verbose first (⟨.char c, .plain⟩ :: read) fuel
          | some (low, high, rest) =>
            let (least, most) ← countsOf low high
            modify fun s => { s with rest }
            items verbose first (← repeated read least most) fuel
        | '.' => items verbose first (⟨.any, .plain⟩ :: read) fuel
        | '^' => items verbose first (⟨.anchor .lineStart, .anchor⟩ :: read) fuel
        | '$' => items verbose first (⟨.anchor .lineEnd, .anchor⟩ :: read) fuel
        | '(' =>
          match ← head with
          | .nothing => items verbose first read fuel
          | .whole flags =>
            modify fun s => { s with flags := s.flags.union flags }
            if !first || !read.isEmpty then throw .malformed
            items (← get).flags.verbose first read fuel
          | h => items verbose first (⟨← group verbose h fuel, .plain⟩ :: read) fuel
        | _ => items verbose first (⟨.char c, .plain⟩ :: read) fuel

/-- The inside of a group behind its head, and its closing parenthesis. -/
def group (verbose : Bool) (h : Head) : Nat → Reader Pattern
  | 0 => throw .malformed
  | fuel + 1 => do
    match h with
    | .nothing => return .empty
    | .whole _ => return .empty
    | .again p => return p
    | .group name =>
      let index ← openGroup name
      let body ← alternatives verbose false fuel
      close
      modify fun s => { s with closed := (index, body.width) :: s.closed }
      return .group index body
    | .scoped add del =>
      let body ← alternatives ((verbose || add.verbose) && !del.verbose) false fuel
      close
      return .scoped add del body
    | .atomic =>
      let body ← alternatives verbose false fuel
      close
      return .atomic body
    | .look behind negated =>
      let outer := (← get).behindFrom
      if behind && outer.isNone then modify fun s => { s with behindFrom := some s.groups }
      let body ← alternatives verbose false fuel
      if behind && outer.isNone then modify fun s => { s with behindFrom := none }
      close
      return .look behind negated body
    | .condition index =>
      let yes ← items verbose false [] fuel
      let no ← if ← accept '|' then items verbose false [] fuel else pure []
      close
      return .ifGroup index (sequence yes) (sequence no)

end

end PatternReader

/-- A pattern with the flags that hold for all of it. -/
structure CompiledPattern where
  source : Text
  pattern : Pattern
  flags : PatternFlags

/-- Reads a pattern under given flags. -/
def CompiledPattern.read (flags : PatternFlags) (t : Text) : Except PatternFault CompiledPattern := do
  let s : PatternReader.State := ⟨t, flags, 1, [], [], none, []⟩
  let (p, s) ← (PatternReader.alternatives flags.verbose true (4 * t.length + 8)).run s
  if s.flags.ascii && s.flags.unicode then throw .conflictingFlags
  if !s.rest.isEmpty || s.asked.any (s.groups ≤ ·) then throw .malformed
  if p.isUsable s.flags.template then return ⟨t, p, s.flags⟩ else throw .malformed

end HelpCenter

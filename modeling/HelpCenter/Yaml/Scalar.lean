import HelpCenter.Yaml.Cursor

/-!
# Texts of scalars

The five ways to write a scalar: plain, in single or double quotes, literal and folded. Each
reader starts at the scalar's first character and gives its text and the place after it.
-/

namespace HelpCenter.Yaml

/-! ## Quoted scalars -/

/-- The character that an escape in double quotes stands for. -/
def escapedChar? (c : CodePoint) : Option CodePoint :=
  match c.toChar with
  | '0' => some (CodePoint.ofNat 0)
  | 'a' => some (CodePoint.ofNat 7)
  | 'b' => some (CodePoint.ofNat 8)
  | 't' => some (CodePoint.ofNat 9)
  | '\t' => some (CodePoint.ofNat 9)
  | 'n' => some (CodePoint.ofNat 10)
  | 'v' => some (CodePoint.ofNat 11)
  | 'f' => some (CodePoint.ofNat 12)
  | 'r' => some (CodePoint.ofNat 13)
  | 'e' => some (CodePoint.ofNat 0x1B)
  | ' ' => some (CodePoint.ofNat 0x20)
  | '"' => some (CodePoint.ofNat 0x22)
  | '\\' => some (CodePoint.ofNat 0x5C)
  | '/' => some (CodePoint.ofNat 0x2F)
  | 'N' => some (CodePoint.ofNat 0x85)
  | '_' => some (CodePoint.ofNat 0xA0)
  | 'L' => some (CodePoint.ofNat 0x2028)
  | 'P' => some (CodePoint.ofNat 0x2029)
  | _ => none

/-- How many hexadecimal digits follow the letter of a numeric escape. -/
def escapeWidth? (c : CodePoint) : Option Nat :=
  if c.is 'x' then some 2 else if c.is 'u' then some 4 else if c.is 'U' then some 8 else none

/-- The character with a number read from an escape. -/
def charOfEscape (n : Nat) : Result CodePoint :=
  match CodePoint.ofNat? n with
  | some c => .ok c
  | none => .error (.data (if n < 0x80000000 then .unreadable else .outOfRange))

/-- The value of hexadecimal digits. -/
def hexValue (t : Text) : Nat := t.foldl (fun n c => n * 16 + c.hexValue?.getD 0) 0

/-- Blank lines inside quotes, as line feeds; a document marker may not start a line. -/
def readQuotedBreaks : Nat → Cursor → Result (Text × Cursor)
  | 0, c => .ok ([], c)
  | fuel + 1, c =>
    if startsSeparator c.rest then .error .malformed
    else
      let c := c.skipWhile isSpaceOrTab
      if startsBreak c.rest && !c.rest.isEmpty then do
        let (b, c) := c.readBreak
        let (bs, c) ← readQuotedBreaks fuel c
        return (b ++ bs, c)
      else .ok ([], c)

/-- Characters that end a run of plain characters inside quotes. -/
def endsQuotedRun (c : CodePoint) : Bool :=
  c.is '\'' || c.is '"' || c.is '\\' || isSpaceOrTab c || isBreak c

/-- Characters without blanks inside quotes, escapes decoded. -/
def readQuotedChars (double : Bool) : Nat → Cursor → Result (Text × Cursor)
  | 0, c => .ok ([], c)
  | fuel + 1, c =>
    let (run, c) := c.takeWhile fun ch => !endsQuotedRun ch
    let continue_ (t : Text) (c : Cursor) : Result (Text × Cursor) := do
      let (more, c) ← readQuotedChars double fuel c
      return (run ++ t ++ more, c)
    match c.rest with
    | [] => .ok (run, c)
    | ch :: after =>
      if !double && ch.is '\'' && (after.head?.map (·.is '\'')).getD false then
        continue_ [ch] (c.skip 2)
      else if (double && ch.is '\'') || (!double && (ch.is '"' || ch.is '\\')) then
        continue_ [ch] c.next
      else if double && ch.is '\\' then
        match after with
        | [] => .error .malformed
        | e :: digits =>
          match escapedChar? e, escapeWidth? e with
          | some d, _ => continue_ [d] (c.skip 2)
          | none, some width =>
            let digits := digits.take width
            if digits.length = width && digits.all CodePoint.isHexDigit then do
              let d ← charOfEscape (hexValue digits)
              continue_ [d] (c.skip (2 + width))
            else .error .malformed
          | none, none =>
            if isBreak e then do
              let (breaks, c) ← readQuotedBreaks (after.length + 1) c.next.readBreak.2
              continue_ breaks c
            else .error .malformed
      else .ok (run, c)

/-- Blanks inside quotes: kept on one line, folded where a line ends. -/
def readQuotedBlanks (c : Cursor) : Result (Text × Cursor) :=
  let (blanks, c) := c.takeWhile isSpaceOrTab
  match c.rest with
  | [] => .error .malformed
  | ch :: _ =>
    if isBreak ch then do
      let (first, c) := c.readBreak
      let (breaks, c) ← readQuotedBreaks (c.rest.length + 1) c
      if first ≠ lit "\n" then return (first ++ breaks, c)
      else if breaks.isEmpty then return (lit " ", c)
      else return (breaks, c)
    else .ok (blanks, c)

/-- The inside of a quoted scalar from its first character on, up to the closing quote. -/
def readQuotedBody (quote : CodePoint) : Nat → Cursor → Result (Text × Cursor)
  | 0, _ => .error .malformed
  | fuel + 1, c => do
    let (chars, c) ← readQuotedChars (quote.is '"') (c.rest.length + 1) c
    if c.peek? = some quote then return (chars, c.next)
    else
      let (blanks, c) ← readQuotedBlanks c
      let (more, c) ← readQuotedBody quote fuel c
      return (chars ++ blanks ++ more, c)

/-- A quoted scalar; the cursor stands on its quote. -/
def readQuoted (quote : CodePoint) (c : Cursor) : Result (Text × Cursor) :=
  readQuotedBody quote (c.rest.length + 1) c.next

/-! ## Plain scalars -/

/-- Characters that end a plain scalar inside brackets or braces. -/
def endsFlowPlain (c : CodePoint) : Bool :=
  c.is ',' || c.is '?' || c.is '[' || c.is ']' || c.is '{' || c.is '}'

/-- Whether a colon before this text ends a plain scalar. -/
def endsAtColon (inFlow : Bool) (t : Text) : Bool :=
  startsBlank t || (inFlow && (t.head?.map fun c =>
    c.is ',' || c.is '[' || c.is ']' || c.is '{' || c.is '}').getD false)

/-- How many characters of a plain scalar stand before the next blank. -/
def plainRun (inFlow : Bool) : Text → Nat
  | [] => 0
  | c :: rest =>
    if isSpaceOrTab c || isBreak c || (c.is ':' && endsAtColon inFlow rest)
        || (inFlow && endsFlowPlain c) then 0
    else plainRun inFlow rest + 1

/-- The blanks between two runs of a plain scalar. -/
inductive PlainGap where
  /-- The scalar ends here. -/
  | none
  | blanks (t : Text)

/-- Blank lines in a plain scalar; nothing if a document marker follows one. -/
def readPlainBreaks : Nat → Cursor → Option Text × Cursor
  | 0, c => (some [], c)
  | fuel + 1, c =>
    let c := c.skipSpaces
    if startsBreak c.rest && !c.rest.isEmpty then
      let (b, c) := c.readBreak
      if startsSeparator c.rest then (none, c)
      else
        let (bs, c) := readPlainBreaks fuel c
        (bs.map (b ++ ·), c)
    else (some [], c)

/-- Blanks after a run of a plain scalar, and whether a line ended. -/
def readPlainGap (c : Cursor) : PlainGap × Bool × Cursor :=
  let (blanks, c) := c.takeWhile (CodePoint.is ' ')
  if startsBreak c.rest && !c.rest.isEmpty then
    let (first, c) := c.readBreak
    if startsSeparator c.rest then (.none, true, c)
    else
      match readPlainBreaks (c.rest.length + 1) c with
      | (none, c) => (.none, true, c)
      | (some breaks, c) =>
        if first ≠ lit "\n" then (.blanks (first ++ breaks), true, c)
        else if breaks.isEmpty then (.blanks (lit " "), true, c)
        else (.blanks breaks, true, c)
  else if blanks.isEmpty then (.none, false, c)
  else (.blanks blanks, false, c)

/-- What a plain scalar gave. -/
structure PlainText where
  text : Text
  /-- Whether a line ended after the last run of characters. -/
  endedLine : Bool
  cursor : Cursor

/-- Reads the runs of a plain scalar; `gap` are the blanks before the next one. -/
def readPlainRuns (inFlow : Bool) (indent : Int) : Nat → Text → Bool → Cursor → PlainText
  | 0, _, ended, c => ⟨[], ended, c⟩
  | fuel + 1, gap, ended, c =>
    let length := if c.at_ '#' then 0 else plainRun inFlow c.rest
    if length = 0 then ⟨[], ended, c⟩
    else
      let run := gap ++ c.rest.take length
      match readPlainGap (c.skip length) with
      | (.none, ended, c) => ⟨run, ended, c⟩
      | (.blanks blanks, ended, c) =>
        if c.at_ '#' || (!inFlow && (c.column : Int) < indent) then ⟨run, ended, c⟩
        else
          let more := readPlainRuns inFlow indent fuel blanks ended c
          ⟨run ++ more.text, more.endedLine, more.cursor⟩

/-- A plain scalar whose continuation lines are indented by at least `indent`. -/
def readPlain (inFlow : Bool) (indent : Int) (c : Cursor) : PlainText :=
  readPlainRuns inFlow indent (c.rest.length + 1) [] false c

/-! ## Block scalars -/

/-- What happens to the line breaks at the end of a block scalar. -/
inductive Chomping where
  | clip
  | strip
  | keep
deriving DecidableEq

/-- The chomping of an indicator. -/
def chomping? (c : CodePoint) : Option Chomping :=
  if c.is '+' then some .keep else if c.is '-' then some .strip else none

/-- The chomping and the indentation given behind the indicator of a block scalar. -/
def readBlockHeader (c : Cursor) : Result (Chomping × Option Nat × Cursor) := do
  let digit? (c : Cursor) : Option Nat :=
    c.peek?.bind fun ch => if ch.isDigit then some (ch.toNat - 48) else none
  let (chomping, increment, c) ←
    match c.peek?.bind chomping? with
    | some chomping =>
      match digit? c.next with
      | some d => if d = 0 then .error .malformed else .ok (chomping, some d, c.skip 2)
      | none => .ok (chomping, none, c.next)
    | none =>
      match digit? c with
      | some d =>
        if d = 0 then .error .malformed
        else
          match c.next.peek?.bind chomping? with
          | some chomping => .ok (chomping, some d, c.skip 2)
          | none => .ok (.clip, some d, c.next)
      | none => .ok (.clip, none, c)
  if startsSpace c.rest then return (chomping, increment, c) else throw .malformed

/-- Leading blank lines of a block scalar and the widest indentation met on the way. -/
def readBlockIndentation : Nat → Nat → Cursor → Text × Nat × Cursor
  | 0, widest, c => ([], widest, c)
  | fuel + 1, widest, c =>
    match c.rest with
    | ch :: _ =>
      if ch.is ' ' then
        let c := c.next
        readBlockIndentation fuel (max widest c.column) c
      else if isBreak ch then
        let (b, c) := c.readBreak
        let (bs, widest, c) := readBlockIndentation fuel widest c
        (b ++ bs, widest, c)
      else ([], widest, c)
    | [] => ([], widest, c)

/-- Passes over spaces up to the column `indent`. -/
def skipIndent (indent : Nat) (c : Cursor) : Cursor :=
  c.skip (min (indent - c.column) (c.rest.takeWhile (CodePoint.is ' ')).length)

/-- Blank lines inside a block scalar. -/
def readBlockBreaks (indent : Nat) : Nat → Cursor → Text × Cursor
  | 0, c => ([], c)
  | fuel + 1, c =>
    let c := skipIndent indent c
    if startsBreak c.rest && !c.rest.isEmpty then
      let (b, c) := c.readBreak
      let (bs, c) := readBlockBreaks indent fuel c
      (b ++ bs, c)
    else ([], c)

/-- The lines of a block scalar with blank lines `breaks` before the next one; the line break that
was read last and the blank lines at the end come separately. -/
def readBlockLines (folded : Bool) (indent : Nat) : Nat → Text → Cursor →
    Text × Text × Text × Cursor
  | 0, breaks, c => ([], [], breaks, c)
  | fuel + 1, breaks, c =>
    if c.column = indent && !c.rest.isEmpty then
      let startsWord (c : Cursor) : Bool := !(c.peek?.map isSpaceOrTab).getD false
      let wordFirst := startsWord c
      let (line, c) := c.takeWhile fun ch => !isBreak ch
      let (lineBreak, c) := c.readBreak
      let (after, c) := readBlockBreaks indent (c.rest.length + 1) c
      if c.column = indent && !c.rest.isEmpty then
        let joint : Text :=
          if folded && lineBreak = lit "\n" && wordFirst && startsWord c then
            if after.isEmpty then lit " " else []
          else lineBreak
        let (text, last, tail, c) := readBlockLines folded indent fuel after c
        (breaks ++ line ++ joint ++ text, last, tail, c)
      else (breaks ++ line, lineBreak, after, c)
    else ([], [], breaks, c)

/-- A literal or folded scalar; the cursor stands on its indicator, and `parent` is the
indentation around it. -/
def readBlock (folded : Bool) (parent : Int) (c : Cursor) : Result (Text × Cursor) := do
  let (chomping, increment, c) ← readBlockHeader c.next
  let c ← c.endLine
  let least := (max (parent + 1) 1).toNat
  let (breaks, indent, c) :=
    match increment with
    | none =>
      let (breaks, widest, c) := readBlockIndentation (c.rest.length + 1) 0 c
      (breaks, max least widest, c)
    | some n =>
      let indent := least + n - 1
      let (breaks, c) := readBlockBreaks indent (c.rest.length + 1) c
      (breaks, indent, c)
  let (text, last, tail, c) := readBlockLines folded indent (c.rest.length + 1) breaks c
  let ending : Text :=
    match chomping with
    | .strip => []
    | .clip => last
    | .keep => last ++ tail
  return (text ++ ending, c)

end HelpCenter.Yaml

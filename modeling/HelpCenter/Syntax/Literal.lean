import HelpCenter.Syntax.Cursor

/-!
# Words and literals

The smallest signs of a source: words, strings, numbers, regular expressions and the text parts
of templates, and the passing over of whole brackets.
-/

namespace HelpCenter.Syntax

/-- The punctuation of ASCII that no word holds; the dollar sign and the low line are not in it. -/
def isPunctuation (c : CodePoint) : Bool :=
  (CodePoint.between '!' '/' c || CodePoint.between ':' '@' c || CodePoint.between '[' '`' c
    || CodePoint.between '\x7b' '~' c) && !c.is '$' && !c.is '_'

/-- Whether a code point can stand in a word. -/
def isWordPart (c : CodePoint) : Bool := 32 < c.toNat && !isSpace c && !isPunctuation c

/-- Whether a code point can begin a word. -/
def isWordStart (c : CodePoint) : Bool := isWordPart c && !c.isDigit

/-- The words that cannot name a variable. -/
def reservedWords : List Text := List.map Text.ofString [
  "break", "case", "catch", "class", "const", "continue", "debugger", "default", "delete", "do",
  "else", "enum", "export", "extends", "false", "finally", "for", "function", "if", "import",
  "in", "instanceof", "new", "null", "return", "super", "switch", "this", "throw", "true", "try",
  "typeof", "var", "void", "while", "with"]

/-- The reserved words that are a value of their own. -/
def valueWords : List Text := ["this", "super", "null", "true", "false", "undefined"]

/-- The length of a string without its opening quote. -/
def stringLength? (quote : CodePoint) : Text → Option Nat
  | [] => none
  | c :: rest =>
    if c = quote then some 1
    else if c.is '\\' then
      match rest with
      | [] => none
      | d :: more =>
        if d.is '\r' || d.is '?' then
          match more with
          | [] => none
          | e :: others =>
            if e.is '\n' then (stringLength? quote others).map (· + 3)
            else (stringLength? quote (e :: others)).map (· + 2)
        else (stringLength? quote more).map (· + 2)
    else if c.is '\n' || c.is '\r' then none
    else (stringLength? quote rest).map (· + 1)

/-- The length of a regular expression without its opening slash and its flags. -/
def regexLength? (inSet : Bool) : Text → Option Nat
  | [] => none
  | c :: rest =>
    if c.is '\n' || c.is '\r' then none
    else if c.is '\\' then
      match rest with
      | [] => none
      | _ :: more => (regexLength? inSet more).map (· + 2)
    else if c.is '/' && !inSet then some 1
    else (regexLength? (if c.is '[' then true else if c.is ']' then false else inSet) rest).map
      (· + 1)

/-- The length of the text of a template up to an expression in it or its end. -/
def chunkLength : Text → Nat
  | [] => 0
  | c :: rest =>
    if c.is '`' then 0
    else if c.is '$' && ((rest.head?.map (·.is '\x7b')).getD false) then 0
    else if c.is '\\' then
      match rest with
      | [] => 1
      | _ :: more => chunkLength more + 2
    else chunkLength rest + 1

namespace Reader

/-- Reads an escape in a word. -/
def wordEscape : Reader Text := do
  exactly (lit "\\u")
  let digits ← (do
    exactly (lit "\x7b")
    let digits ← takeWhile CodePoint.isHexDigit
    exactly (lit "\x7d")
    return lit "\x7b" ++ digits ++ lit "\x7d") <|> do
      let digits := (← rest).take 4
      require (digits.length = 4 && digits.all CodePoint.isHexDigit)
      modify (Cursor.skip 4)
      return digits
  return lit "\\u" ++ digits

/-- Reads a word right here. -/
def wordHere : Reader Text := do
  let front ← rest
  require ((front.head?.map fun c => isWordStart c || c.is '\\').getD false)
  let parts ← many (wordEscape <|> takeWhile isWordPart)
  require (!parts.isEmpty)
  return parts.flatten

/-- Reads a word after a gap. -/
def word : Reader Text := do gap; wordHere

/-- Reads a certain word after a gap. -/
def keyword (w : Text) : Reader Unit := do require ((← word) = w)

/-- Reads a certain word after a gap if it is there. -/
def acceptWord (w : Text) : Reader Bool := (do keyword w; return true) <|> return false

/-- The word after the gap, if one comes next. -/
def nextWord : Reader (Option Text) := peek word

/-- Whether a certain word comes next. -/
def isNextWord (w : Text) : Reader Bool := return (← nextWord) == some w

/-- Reads the name of a variable. -/
def variableName : Reader Text := do
  let w ← word
  require (!reservedWords.contains w)
  return w

/-- Reads the rest of a string, or of anything of known length, after its first sign. -/
def pass (length? : Option Nat) : Reader Unit :=
  match length? with
  | none => failure
  | some n => modify (Cursor.skip n)

/-- Reads a string. -/
def string : Reader Node := node .string do
  match (← rest).head? with
  | none => failure
  | some quote =>
    require (quote.is '"' || quote.is '\'')
    modify Cursor.next
    pass (stringLength? quote (← rest))
    return []

/-- Reads a regular expression with its flags. -/
def regex : Reader Node := node .other do
  exactly (lit "/")
  pass (regexLength? false (← rest))
  let _ ← takeWhile isWordPart
  return []

/-- Reads decimal digits and low lines between them. -/
def digits : Reader Text := takeWhile fun c => c.isDigit || c.is '_'

/-- Reads a number. -/
def number : Reader Node := node .other do
  let front ← rest
  require ((front.head?.map fun c => c.isDigit || c.is '.').getD false)
  let second := front[1]?
  if (second.map fun c => c.isLetter && !c.is 'e' && !c.is 'E').getD false then
    let _ ← takeWhile isWordPart
    return []
  let whole ← digits
  let part ← maybe do
    exactly (lit ".")
    digits
  require (!whole.isEmpty || !(part.getD []).isEmpty)
  let _ ← maybe do
    exactly (lit "e") <|> exactly (lit "E")
    let _ ← maybe (exactly (lit "+") <|> exactly (lit "-"))
    require (!(← digits).isEmpty)
  let _ ← maybe (exactly (lit "n"))
  return []

/-- Reads a template, with `inside` for what stands in its braces. -/
def template (inside : Reader (List Node)) : Reader (List Node) := do
  sign (lit "`")
  let parts ← many ((do
    let n := chunkLength (← rest)
    require (0 < n)
    modify (Cursor.skip n)
    return []) <|> do
      exactly (lit "$\x7b")
      let ns ← inside
      sign (lit "\x7d")
      return ns)
  exactly (lit "`")
  return parts.flatten

/-- Reads up to the closing bracket of the `depth` brackets that are open. -/
def closeBrackets : (fuel depth : Nat) → Reader Unit
  | 0, _ => failure
  | fuel + 1, depth => do
    gap
    match (← rest).head? with
    | none => failure
    | some c =>
      if c.is '(' || c.is '[' || c.is '\x7b' then
        modify Cursor.next
        closeBrackets fuel (depth + 1)
      else if c.is ')' || c.is ']' || c.is '\x7d' then
        modify Cursor.next
        if depth ≤ 1 then return else closeBrackets fuel (depth - 1)
      else
        let _ ← firstOf [
          do let _ ← string,
          do let _ ← template (do let _ ← takeWhile fun d => !d.is '\x7d'; return []),
          modify Cursor.next]
        closeBrackets fuel depth

/-- Passes over brackets with everything between them. -/
def brackets (opening : Text) : Reader Unit := do
  sign opening
  closeBrackets ((← get).left + 1) 1

end Reader

end HelpCenter.Syntax

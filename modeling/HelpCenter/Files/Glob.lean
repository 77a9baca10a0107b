import HelpCenter.Files.Path
import HelpCenter.Pattern.Matcher
import HelpCenter.Settings.Check
import HelpCenter.Text.Blank

/-!
# Globs

Files are chosen by lines in the style of an ignore file: asterisks stand for parts of names, two
asterisks for any directories, a slash at the front or in the middle ties a line to the top, a
slash at the end asks for a directory, and an exclamation mark takes files out again. Alternatives
in braces are written out first.
-/

namespace HelpCenter

namespace Glob

/-! ## Braces -/

/-- A brace. -/
def isBrace (c : CodePoint) : Bool := c.is '\x7b' || c.is '\x7d'

/-- What stands before, in and after the first pair of braces without braces inside. -/
def splitAtBraces? : Text → Option (Text × Text × Text)
  | [] => none
  | c :: t =>
    let inside := t.takeWhile fun d => !isBrace d
    let after := t.drop inside.length
    if c.is '\x7b' && after.head? = some '\x7d' then some ([], inside, after.drop 1)
    else (splitAtBraces? t).map fun (head, rest) => (c :: head, rest)

/-- Writes out the alternatives in at most `fuel` pairs of braces, one inside the other. -/
def expandFrom : Nat → Text → List Text
  | 0, t => [t]
  | fuel + 1, t =>
    match splitAtBraces? t with
    | none => [t]
    | some (head, inside, tail) =>
      (Text.splitOn ',' inside).flatMap fun option => expandFrom fuel (head ++ option ++ tail)

/-- Writes out all alternatives in braces. -/
def expandBraces (t : Text) : List Text := expandFrom t.length t

/-! ## Segments -/

/-- The set of characters after an opening bracket, as a pattern, and what follows it. -/
def bracket? (t : Text) : Option (Text × Text) :=
  let negated := t.head?.any fun c => c.is '!' || c.is '^'
  let body := if negated then t.drop 1 else t
  let first := if body.head? = some ']' then 1 else 0
  let length := first + ((body.drop first).takeWhile fun c => !c.is ']').length
  if length = body.length then none
  else
    let items := Text.substitute '\\' (lit "\\\\") (body.take length)
    some (lit "[" ++ (if negated then lit "^" else []) ++ items ++ lit "]", body.drop (length + 1))

/-- The pattern for a name with wildcards; none if it ends in a backslash. The name is no longer
than `fuel`. -/
def segmentFrom : Nat → Text → Option Text
  | 0, _ => some []
  | _ + 1, [] => some []
  | fuel + 1, c :: t =>
    if c.is '\\' then
      match t with
      | [] => none
      | d :: t => (Pattern.quoted [d] ++ ·) <$> segmentFrom fuel t
    else if c.is '*' then (lit "[^/]*" ++ ·) <$> segmentFrom fuel t
    else if c.is '?' then (lit "[^/]" ++ ·) <$> segmentFrom fuel t
    else if c.is '[' then
      match bracket? t with
      | some (set, rest) => (set ++ ·) <$> segmentFrom fuel rest
      | none => (lit "\\[" ++ ·) <$> segmentFrom fuel t
    else (Pattern.quoted [c] ++ ·) <$> segmentFrom fuel t

/-- The pattern for a name with wildcards. -/
def segment? (t : Text) : Option Text :=
  if t = lit "*" then some (lit "[^/]+") else segmentFrom t.length t

/-! ## Lines -/

/-- Any number of directories. -/
def anyDirectories : Text := lit "**"

/-- Removes repetitions of two asterisks. -/
def collapseDirectories : List Text → List Text
  | a :: b :: rest =>
    if a = anyDirectories && b = anyDirectories then collapseDirectories (b :: rest)
    else a :: collapseDirectories (b :: rest)
  | segments => segments

/-- The segments of a line in normal form: tied to the top, and two asterisks after a slash at the
end. None if nothing is left. -/
def normalize? (segments : List Text) : Option (List Text) :=
  let tied :=
    match segments with
    | [] :: rest => rest
    | [a] | [a, []] => if a = anyDirectories then segments else anyDirectories :: segments
    | _ => segments
  match tied.reverse with
  | [] => none
  | [] :: front => some (collapseDirectories (anyDirectories :: front).reverse)
  | _ => some (collapseDirectories tied)

/-- The slash that shows a directory above the file; the pattern's only group. -/
def directoryMark : Text := lit "(/)"

/-- The pattern for the segments after the first; `slash` says whether a slash goes before. -/
def restPattern? (forDirectory : Bool) : (slash : Bool) → List Text → Option Text
  | _, [] => some []
  | slash, [s] =>
    if s = anyDirectories then some (if forDirectory then directoryMark else lit "/")
    else do
      return (if slash then lit "/" else []) ++ (← segment? s) ++ lit "(?:" ++ directoryMark ++
        lit "|$)"
  | slash, s :: t :: rest =>
    if s = anyDirectories then (lit "(?:/.+)?" ++ ·) <$> restPattern? forDirectory true (t :: rest)
    else do
      return (if slash then lit "/" else []) ++ (← segment? s) ++
        (← restPattern? forDirectory true (t :: rest))

/-- The pattern for the segments of a line. -/
def pattern? (forDirectory : Bool) (segments : List Text) : Option Text :=
  let all := anyDirectories
  if segments = [all] then some (if forDirectory then directoryMark else lit ".")
  else if segments = [all, lit "*"] then some (lit ".")
  else if segments = [all, lit "*", all] then some (if forDirectory then directoryMark else lit "/")
  else
    match segments with
    | s :: rest =>
      if s = all then (lit "^(?:.+/)?" ++ ·) <$> restPattern? forDirectory false rest
      else (lit "^" ++ ·) <$> restPattern? forDirectory false (s :: rest)
    | [] => none

end Glob

/-- A line that takes files in or out. -/
structure Glob where
  takesIn : Bool
  pattern : CompiledPattern

namespace Glob

/-- Reads a line; blank lines, comments and a lone slash say nothing. -/
def read? (line : Text) : Except Failure (Option Glob) :=
  let line := if Text.endsWith line (lit "\\ ") then line else Text.trimRight line
  match line with
  | [] => .ok none
  | c :: rest =>
    if c.is '#' || line = lit "/" then .ok none
    else
      let takesIn := !c.is '!'
      let segments := Text.splitOn '/' (if takesIn then line else rest)
      let forDirectory := segments.getLast? = some []
      match (normalize? segments).bind (pattern? forDirectory) with
      | none => .error .badGlob
      | some source =>
        match CompiledPattern.read {} source with
        | .ok pattern => .ok (some ⟨takesIn, pattern⟩)
        | .error fault => .error fault.failure

/-- How a line fits a file: whether a directory above the file makes it fit. -/
def fit? (g : Glob) (file : Text) : Option Bool :=
  let text := file.toArray
  (List.range (text.size + 1)).findSome? fun i =>
    (g.pattern.pattern.run text g.pattern.flags i [] fun j caps => some (j, caps)).map
      fun (_, caps) => !caps.isEmpty

end Glob

/-- A choice of files by lines. -/
abbrev Globs := List Glob

namespace Globs

/-- The lines of glob patterns: trimmed, without a leading `./`, and with braces written out. -/
def linesOf (pattern : Text) : List Text :=
  let pattern := Text.trim pattern
  let pattern := (Text.afterPrefix? (lit "./") pattern).getD pattern
  if pattern.isEmpty then [] else Glob.expandBraces pattern

/-- Reads glob patterns. -/
def read (patterns : List Text) : Except Failure Globs := do
  return (← (patterns.flatMap linesOf).mapM Glob.read?).filterMap id

/-- The file as globs see it: without a slash or `./` at its front. -/
def seen (file : Text) : Text :=
  match Text.afterPrefix? (lit "/") file with
  | some rest => rest
  | none => (Text.afterPrefix? (lit "./") file).getD file

/-- What lines say about a file, the last line first. A line that fits the file itself settles it;
one that fits a directory above it counts only as long as no line before it does. -/
def verdict (file : Text) : (sofar : Option Bool) → List Glob → Bool
  | sofar, [] => sofar.getD false
  | sofar, g :: rest =>
    match g.fit? file with
    | some false => g.takesIn
    | some true => verdict file (sofar.or (some g.takesIn)) rest
    | none => verdict file sofar rest

/-- Whether a file is chosen. -/
def chooses (globs : Globs) (file : Text) : Bool := verdict (seen file) none globs.reverse

end Globs

end HelpCenter

import HelpCenter.Files.Path
import HelpCenter.Text.Word

/-!
# Route paths

A file below a directory `app` or `pages` defines a route. Its directories become the segments of
the route's path: groups in parentheses are dropped and bracketed names become parameters.
-/

namespace HelpCenter.Route

/-- The text without one line feed at its end. -/
def dropFinalBreak (t : Text) : Text := if t.getLast? = some '\n' then t.dropLast else t

/-- The parameter names in a path: the words after a colon or an opening bracket, with an
ellipsis between them or not. Words longer than `fuel` characters are not met. -/
def paramsFrom : Nat → Text → List Text
  | 0, _ => []
  | _ + 1, [] => []
  | fuel + 1, c :: t =>
    if c = ':' || c = '[' then
      let body := (Text.afterPrefix? (lit "...") t).getD t
      let word := body.takeWhile CodePoint.isWord
      if word.isEmpty then paramsFrom fuel t
      else word :: paramsFrom fuel (body.dropWhile CodePoint.isWord)
    else paramsFrom fuel t

/-- The parameter names in a path, in order. -/
def paramNames (path : Text) : List Text := paramsFrom path.length path

/-- Whether a segment is a group, a name in parentheses on one line. -/
def isGroup (segment : Text) : Bool :=
  match dropFinalBreak segment with
  | c :: rest =>
    c = '(' && rest.getLast? = some ')' && 2 ≤ rest.length && !rest.contains '\n'
  | [] => false

/-- The word at the front and what follows it, if there is a word. -/
def splitWord? (t : Text) : Option (Text × Text) :=
  let word := t.takeWhile CodePoint.isWord
  if word.isEmpty then none else some (word, t.dropWhile CodePoint.isWord)

/-- The name of a catch-all segment, an ellipsis and a word in one or two pairs of brackets. -/
def catchAllName? (segment : Text) : Option Text := do
  let t ← Text.afterPrefix? (lit "[") (dropFinalBreak segment)
  let t := (Text.afterPrefix? (lit "[") t).getD t
  let t ← Text.afterPrefix? (lit "...") t
  let (word, t) ← splitWord? t
  if t = lit "]" || t = lit "]]" then some word else none

/-- The name of a dynamic segment, a word in brackets. -/
def dynamicName? (segment : Text) : Option Text := do
  let t ← Text.afterPrefix? (lit "[") (dropFinalBreak segment)
  let (word, t) ← splitWord? t
  if t = lit "]" then some word else none

/-- The form of a directory in a route path; groups have none. -/
def lowerSegment (segment : Text) : Option Text :=
  if isGroup segment then none
  else
    match catchAllName? segment with
    | some name => some (lit ":" ++ name ++ lit "*")
    | none =>
      match dynamicName? segment with
      | some name => some (lit ":" ++ name)
      | none => some segment

/-- The route path of a list of directories. -/
def pathOfSegments (segments : List Text) : Text :=
  lit "/" ++ Text.joinWith (lit "/") ((segments.filterMap lowerSegment).filter (!·.isEmpty))

/-- The two conventions for routes by directory. -/
inductive RootKind where
  | app
  | pages
deriving DecidableEq

/-- The directory name of a convention. -/
def RootKind.name : RootKind → Text
  | .app => lit "app"
  | .pages => lit "pages"

/-- The convention of a directory name. -/
def RootKind.ofName? (name : Text) : Option RootKind :=
  if name = lit "app" then some .app else if name = lit "pages" then some .pages else none

/-- The outermost routing directory and how many directories end with it. -/
def rootFrom : Nat → List Text → Option (RootKind × Nat)
  | _, [] => none
  | index, name :: rest =>
    match RootKind.ofName? name with
    | some kind => some (kind, index + 1)
    | none => rootFrom (index + 1) rest

/-- The outermost routing directory and how many directories end with it. -/
def root? (directories : List Text) : Option (RootKind × Nat) := rootFrom 0 directories

/-- The suffixes of files that define routes. -/
def suffixes : List Text := [".ts", ".tsx", ".js", ".jsx"]

/-- The path that a file defines by its place, if any. -/
def pathOfFile? (path : Text) : Option Text := do
  let file := FilePath.ofText path
  if !suffixes.contains file.suffix then none
  let directories := file.directories
  let (kind, start) ← root? directories
  let below := directories.drop start
  match kind with
  | .app => if file.stem = lit "page" then some (pathOfSegments below) else none
  | .pages =>
    let segments := below ++ [file.stem]
    if segments.head? = some (lit "api") || Text.startsWith file.stem (lit "_") then none
    else if segments.getLast? = some (lit "index") then some (pathOfSegments segments.dropLast)
    else some (pathOfSegments segments)

/-- The path that a file of request handlers defines by its place, if any. -/
def handlerPathOfFile? (path : Text) : Option Text := do
  let file := FilePath.ofText path
  let (kind, start) ← root? file.directories
  if file.stem = lit "route" && suffixes.contains file.suffix && kind = .app then
    some (pathOfSegments (file.directories.drop start))
  else none

end HelpCenter.Route

import HelpCenter.Failure
import HelpCenter.Files.Path
import HelpCenter.Text.Utf8

/-!
# File trees

A file tree maps places, the lists of names from the top, to files, directories and symbolic
links. Operations follow links and fail as a file system does.
-/

namespace HelpCenter

/-- What stands at a place. -/
inductive Entry where
  | file (content : Bytes)
  | dir
  | link (target : Text)
deriving DecidableEq

/-- A place: the names on the way from the top. -/
abbrev Place := List Text

/-- A file tree. The top is a directory and is not listed. -/
structure FileTree where
  entries : List (Place × Entry)

namespace FileTree

/-- The tree with nothing below its top. -/
def empty : FileTree := ⟨[]⟩

/-- The entry at a place, links not followed. -/
def entry? (t : FileTree) (p : Place) : Option Entry :=
  if p.isEmpty then some .dir else t.entries.lookup p

/-- Sets the entry of a place in a list of entries. -/
def setIn (p : Place) (e : Entry) : List (Place × Entry) → List (Place × Entry)
  | [] => [(p, e)]
  | (q, f) :: rest => if q = p then (q, e) :: rest else (q, f) :: setIn p e rest

/-- The tree with an entry set. -/
def set (t : FileTree) (p : Place) (e : Entry) : FileTree := ⟨setIn p e t.entries⟩

/-- The tree without the entry of a place. -/
def erase (t : FileTree) (p : Place) : FileTree := ⟨t.entries.filter fun (q, _) => q ≠ p⟩

/-- The names directly below a place, with their entries. -/
def children (t : FileTree) (p : Place) : List (Text × Entry) :=
  t.entries.filterMap fun (q, e) =>
    match q.getLast? with
    | some name => if q.dropLast = p then some (name, e) else none
    | none => none

/-- How many links may be followed on the way to a place. -/
def maxLinks : Nat := 40

/-- The longest name in bytes. -/
def maxNameLength : Nat := 255

/-- Whether a name is too long for a file system. -/
def isTooLong (name : Text) : Bool :=
  maxNameLength < (name.map CodePoint.utf8Length).foldl (· + ·) 0

/-- Walks from a directory along names. Links in the middle are followed, the last one only if
`followLast`. The place reached need not exist, but the directory around it does. `links` bounds
the links that may still be followed and `fuel` the steps. -/
def walk (t : FileTree) (followLast : Bool) : (fuel links : Nat) → Place → List Text →
    Except FileFault Place
  | 0, _, _, _ => .error .tooManyLinks
  | _ + 1, _, at_, [] => .ok at_
  | fuel + 1, links, at_, name :: rest =>
    if name = lit ".." then t.walk followLast fuel links at_.dropLast rest
    else if isTooLong name then .error .nameTooLong
    else
      let here := at_ ++ [name]
      match t.entry? here with
      | none => if rest.isEmpty then .ok here else .error .missing
      | some .dir => t.walk followLast fuel links here rest
      | some (.file _) => if rest.isEmpty then .ok here else .error .notDirectory
      | some (.link target) =>
        if rest.isEmpty && !followLast then .ok here
        else
          match links with
          | 0 => .error .tooManyLinks
          | links + 1 =>
            let goal := FilePath.ofText target
            let from_ := if goal.root.isEmpty then at_ else []
            t.walk followLast fuel links from_ (goal.names ++ rest)

/-- The number of steps that a walk can take at most. -/
def walkFuel (t : FileTree) (names : List Text) : Nat :=
  let longest := (t.entries.map fun (_, e) =>
    match e with
    | .link target => target.length
    | _ => 0).foldl max 0
  names.length + (maxLinks + 1) * (longest + 2)

/-- The place that a path leads to, all links followed. -/
def locate (t : FileTree) (p : Place) : Except FileFault Place :=
  t.walk true (t.walkFuel p) maxLinks [] p

/-- The entry that a path leads to, which is no link. -/
def stat (t : FileTree) (p : Place) : Except FileFault Entry := do
  let p ← t.locate p
  match t.entry? p with
  | some e => return e
  | none => throw .missing

/-- Whether a path leads to something. -/
def exists_ (t : FileTree) (p : Place) : Bool := (t.stat p).toOption.isSome

/-- Whether a path leads to a directory. -/
def isDir (t : FileTree) (p : Place) : Bool :=
  match t.stat p with
  | .ok .dir => true
  | _ => false

/-- Whether a path leads to a file. -/
def isFile (t : FileTree) (p : Place) : Bool :=
  match t.stat p with
  | .ok (.file _) => true
  | _ => false

/-- The bytes of a file. -/
def read (t : FileTree) (p : Place) : Except FileFault Bytes := do
  match ← t.stat p with
  | .file content => return content
  | _ => throw .isDirectory

/-- Writes a file, replacing its content if there is one. -/
def write (t : FileTree) (p : Place) (content : Bytes) : Except FileFault FileTree := do
  let p ← t.locate p
  match t.entry? p with
  | some .dir => throw .isDirectory
  | _ => return t.set p (.file content)

/-- Writes at the end of a file, which is made if there is none. -/
def append (t : FileTree) (p : Place) (content : Bytes) : Except FileFault FileTree :=
  match t.read p with
  | .ok old => t.write p (old ++ content)
  | .error .missing => t.write p content
  | .error e => .error e

/-- Makes a directory whose surrounding one exists. -/
def makeDir (t : FileTree) (p : Place) : Except FileFault FileTree := do
  let p ← t.walk false (t.walkFuel p) maxLinks [] p
  match t.entry? p with
  | some _ => throw .alreadyExists
  | none => return t.set p .dir

/-- Makes the directories on the way to a place, from the outside, each unless it is there. -/
def makeDirsTo (t : FileTree) : (made : Place) → List Text → Except FileFault FileTree
  | _, [] => .ok t
  | made, name :: rest => do
    let here := made ++ [name]
    match t.makeDir here with
    | .ok t => t.makeDirsTo here rest
    | .error .alreadyExists =>
      if t.isDir here then t.makeDirsTo here rest
      else if rest.isEmpty then .error .alreadyExists
      else .error .notDirectory
    | .error e => .error e

/-- Makes a directory and those around it, unless they are there. -/
def makeDirs (t : FileTree) (p : Place) : Except FileFault FileTree := t.makeDirsTo [] p

/-- Removes a file or a link. -/
def remove (t : FileTree) (p : Place) : Except FileFault FileTree := do
  let p ← t.walk false (t.walkFuel p) maxLinks [] p
  match t.entry? p with
  | some .dir => throw .isDirectory
  | some _ => return t.erase p
  | none => throw .missing

/-- The place that a path leads to as far as it exists; names behind that are added as they are. -/
def resolveFrom (t : FileTree) : Place → List Text → Place
  | at_, [] => at_
  | at_, name :: rest =>
    if name = lit ".." then t.resolveFrom at_.dropLast rest
    else
      match t.walk true (t.walkFuel [name]) maxLinks at_ [name] with
      | .ok here => t.resolveFrom here rest
      | .error _ => t.resolveFrom (at_ ++ [name]) rest

/-- The place that a path stands for, links followed where they lead somewhere. -/
def resolve (t : FileTree) (p : Place) : Place := t.resolveFrom [] p

end FileTree

/-- The place of an absolute path; a relative one is seen from `cwd`. -/
def FilePath.place (cwd : Place) (p : FilePath) : Place :=
  if p.root.isEmpty then cwd ++ p.names else p.names

/-- The place without double dots, each of which takes back the name before it. -/
def Place.collapse (p : Place) : Place :=
  p.foldl (fun made name => if name = lit ".." then made.dropLast else made ++ [name]) []

/-- The absolute path of a place. -/
def Place.path (p : Place) : FilePath := ⟨lit "/", p⟩

end HelpCenter

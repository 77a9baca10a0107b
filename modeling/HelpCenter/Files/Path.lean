import HelpCenter.Text.Search

/-!
# Paths

A path is a root (empty for a relative path) and the names between slashes. Empty names and
single dots are dropped when a path is read; double dots stay.
-/

namespace HelpCenter

/-- A path in normal form. -/
structure FilePath where
  root : Text
  names : List Text
deriving DecidableEq

namespace FilePath

/-- The root that leading slashes denote: exactly two are kept apart from any other number. -/
def rootOf (t : Text) : Text :=
  let slashes := (t.takeWhile (CodePoint.is '/')).length
  if slashes = 0 then [] else if slashes = 2 then lit "//" else lit "/"

/-- Reads a path. -/
def ofText (t : Text) : FilePath where
  root := rootOf t
  names := (Text.splitOn '/' t).filter fun n => !n.isEmpty && n != lit "."

/-- Writes a path; the empty one is a single dot. -/
def toText (p : FilePath) : Text :=
  let body := p.root ++ Text.joinWith (lit "/") p.names
  if body.isEmpty then lit "." else body

/-- The second path seen from the first; an absolute one is taken as it is. -/
def join (p q : FilePath) : FilePath :=
  if q.root.isEmpty then ⟨p.root, p.names ++ q.names⟩ else q

/-- The last name, empty if there is none. -/
def name (p : FilePath) : Text := p.names.getLast?.getD []

/-- The names before the last, the root first if there is one. -/
def directories (p : FilePath) : List Text :=
  (if p.root.isEmpty then p.names else p.root :: p.names).dropLast

/-- The path without its last name. -/
def parent (p : FilePath) : FilePath := ⟨p.root, p.names.dropLast⟩

/-- A name cut before its last dot, unless that dot is its first or last character. -/
def splitName (n : Text) : Text × Text :=
  let after := (n.reverse.takeWhile fun c => !c.is '.').length
  let before := n.length - after
  if after = 0 || before ≤ 1 then (n, []) else (n.take (before - 1), n.drop (before - 1))

/-- The last name without its suffix. -/
def stem (p : FilePath) : Text := (splitName p.name).1

/-- The suffix of the last name with its dot, empty if there is none. -/
def suffix (p : FilePath) : Text := (splitName p.name).2

end FilePath

end HelpCenter

import HelpCenter.Files.Glob
import HelpCenter.Files.Tree

/-!
# Discovery of source files

A project's directory is walked from the top. Directories of tools and those that the exclusions
choose are not entered, and neither are links to directories; of the files that are met, the ones
that the inclusions choose and the exclusions do not are the sources.
-/

namespace HelpCenter.Discovery

/-- The directories that are never entered. -/
def closedDirectories : List Text := List.map Text.ofString [
  ".git", ".hg", ".svn", ".kodex", ".next", ".turbo", "node_modules"]

/-- Whether a directory is entered, given its path in the project. -/
def enters (excludes : Globs) (names : List Text) : Bool :=
  !closedDirectories.contains (names.getLast?.getD []) &&
    !excludes.chooses (Text.joinWith (lit "/") names ++ lit "/")

/-- The files that are met in a directory, `depth` directories deep at most. The directory is
given by the project's place and its path in the project. -/
def walk (t : FileTree) (root : Place) (excludes : Globs) : (depth : Nat) → List Text →
    List (List Text)
  | 0, _ => []
  | depth + 1, names =>
    (t.children (root ++ names)).flatMap fun (name, entry) =>
      let path := names ++ [name]
      match entry with
      | .dir => if enters excludes path then walk t root excludes depth path else []
      | .file _ => [path]
      | .link _ => if t.isDir (root ++ path) then [] else [path]

/-- The depth of the deepest entry of a file tree. -/
def depth (t : FileTree) : Nat := (t.entries.map fun (p, _) => p.length).foldl max 0

/-- Whether a file is a source, given its path in the project. -/
def isSource (includes excludes : Globs) (path : Text) : Bool :=
  includes.chooses path && !excludes.chooses path

/-- The paths of a project's source files in order. -/
def sources (t : FileTree) (root : Place) (includes excludes : List Text) :
    Except Failure (List Text) := do
  let includes ← Globs.read includes
  let excludes ← Globs.read excludes
  let met := (walk t root excludes (depth t + 1) []).map (Text.joinWith (lit "/"))
  return (met.filter (isSource includes excludes)).mergeSort Text.le

end HelpCenter.Discovery

import HelpCenter.Failure
import HelpCenter.Syntax.Program

/-!
# Source units

A source file with its tree.
-/

namespace HelpCenter

/-- A source file that has been read. -/
structure SourceUnit where
  path : Text
  text : Text
  program : Syntax.Program

namespace SourceUnit

/-- Reads a source. Its grammar is the given one, or the one of its name, or the richest. A text
with a surrogate on its own is no source. -/
def ofText (path text : Text) (grammar? : Option Grammar) : Except Failure SourceUnit :=
  if text.isEncodable then
    let grammar := (grammar?.or (Grammar.ofPath? path)).getD .tsx
    .ok { path, text, program := .ofText grammar text }
  else .error (.data .notEncodable)

/-- The tree of a source. -/
def tree (u : SourceUnit) : Syntax.Node := u.program.tree

end SourceUnit

end HelpCenter

import HelpCenter.Syntax.Literal

/-!
# The rules that refer to each other

Expressions hold statements, statements hold expressions, and markup and types stand inside both.
The readers of these parts take the others as arguments, bundled as `Rules`.
-/

namespace HelpCenter.Syntax

/-- The readers that the others refer to. -/
structure Rules where
  /-- A statement or a declaration. -/
  statement : Reader Node
  /-- An expression without commas at its top. -/
  assignment : Reader Node
  /-- An expression without infix operators at its top. -/
  operand : Reader Node
  /-- What a variable can be bound through: a name or a destructuring. -/
  pattern : Reader Node
  /-- An element of markup. -/
  element : Reader Node
  /-- A type, of which nothing is kept. -/
  type : Reader Unit

/-- No part can be read. -/
def Rules.nothing : Rules := ⟨failure, failure, failure, failure, failure, failure⟩

namespace Reader

/-- A node of no particular kind around some others. -/
def other (p : Reader (List Node)) : Reader Node := node .other p

/-- The setting inside brackets, where nothing around them matters. -/
def inBrackets {α : Type} (p : Reader α) : Reader α :=
  under (fun s => { s with allowIn := true, arrowTypes := true }) p

/-- Goes on only where types may be written. -/
def whereTyped : Reader Unit := do require (← read).types

/-- Goes on only where markup may be written. -/
def whereMarkup : Reader Unit := do require (← read).markup

end Reader

namespace Rules

open Reader

/-- A node of no particular kind around several others; a single one stands for itself. -/
def join (p : Reader (List Node)) : Reader Node := do
  let n ← other p
  match n.children with
  | [only] => return only
  | _ => return n

/-- An expression, maybe several with commas between them. -/
def expression (r : Rules) : Reader Node := join do
  let first ← r.assignment
  let more ← many do
    sign (lit ",")
    r.assignment
  return first :: more

/-- An expression in round brackets. -/
def inParentheses (r : Rules) : Reader Node := do
  sign (lit "(")
  let e ← inBrackets r.expression
  sign (lit ")")
  return e

/-- Statements in braces. -/
def block (r : Rules) : Reader Node := other do
  sign (lit "\x7b")
  let body ← inBrackets (many r.statement)
  sign (lit "\x7d")
  return body

end Rules

end HelpCenter.Syntax

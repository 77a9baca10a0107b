import HelpCenter.CodeMap.Basic
import HelpCenter.Source.Unit

/-!
# Components in a source

A component is a function in Pascal case that holds markup: a declared function, or an arrow
function or function expression that a variable is bound to. The components that a component
shows are those of its file whose tags stand in its definition.
-/

namespace HelpCenter

open Syntax

namespace Syntax.Node

/-- Whether a node is a function that a variable can be bound to. -/
def isFunctionValue (n : Node) : Bool := n.isOneOf [.arrowFunction, .functionExpression]

/-- Whether there is markup with a tag in a node. -/
def holdsMarkup (n : Node) : Bool := !(n.find [.element, .selfClosingElement]).isEmpty

/-- The type stated for the first parameter of a function. -/
def propsType? (function : Node) : Option Text := do
  let parameters ← function.child? .parameters
  let first ← parameters.children.head?
  let stated ← first.child? .type
  let type ← stated.children.head?
  return type.text

end Syntax.Node

namespace SourceUnit

/-- The names that are exported apart from their declarations. -/
def exportedNames (u : SourceUnit) : List Text :=
  (u.tree.children.filter (·.kind = .exportStatement)).flatMap fun s =>
    let value := (s.child? .value).toList.filter (·.kind = .identifier)
    let clauses := s.children.filter (·.kind = .exportClause)
    let specifiers := clauses.flatMap fun c => c.children.filter (·.kind = .exportSpecifier)
    value.map Node.text ++ specifiers.map (Node.childText .name)

/-- A component with the place of its definition and the function in it. -/
structure Definition where
  name : Text
  place : Node
  function : Node
  exported : Bool

/-- Whether the node right around a visited one is an export. -/
def isExported (around : List Node) : Bool := around.head?.any (·.kind = .exportStatement)

/-- The definition that a declared function is, if it is a component. -/
def declaredDefinition? (names : List Text) (v : Visit) : Option Definition :=
  let name := v.node.childText .name
  if isPascalCase name && v.node.holdsMarkup then
    some ⟨name, v.node, v.node, isExported v.around || names.contains name⟩
  else none

/-- The definition that a variable is bound to, if it is a component. -/
def boundDefinition? (names : List Text) (v : Visit) : Option Definition := do
  let name := v.node.childText .name
  let value ← v.node.child? .value
  if isPascalCase name && value.isFunctionValue && value.holdsMarkup then
    let declared := v.around.head?.any (·.kind = .variableDeclaration)
    some ⟨name, v.node, value, (declared && isExported (v.around.drop 1)) || names.contains name⟩
  else none

/-- The definitions of components: declared functions first, then bound ones. -/
def definitions (u : SourceUnit) : List Definition :=
  let names := u.exportedNames
  (u.tree.visitsOf [.functionDeclaration]).filterMap (declaredDefinition? names) ++
    (u.tree.visitsOf [.variableDeclarator]).filterMap (boundDefinition? names)

/-- Where a name is defined: the first declared function of that name, or else what the first
variable of that name is bound to. -/
def definitionOf? (u : SourceUnit) (name : Text) : Option Node :=
  let named := fun (n : Node) => n.childText .name = name
  match (u.tree.find [.functionDeclaration]).find? named with
  | some n => some n
  | none => ((u.tree.find [.variableDeclarator]).find? named).bind (Node.child? .value)

/-- The names whose tags stand in a node, in order of appearance. -/
def shownIn (names : List Text) (n : Node) : List Text :=
  firstSeen (((n.find [.openingElement, .selfClosingElement]).map Node.tagName).filter
    fun tag => isPascalCase tag && names.contains tag)

/-- The components among `names` that stand in the definition of a name. -/
def childComponents (u : SourceUnit) (name : Text) (names : List Text) : List Text :=
  ((u.definitionOf? name).map (shownIn names)).getD []

/-- The components of a source. -/
def components (u : SourceUnit) : List Component :=
  let definitions := u.definitions
  let names := definitions.map (·.name)
  definitions.map fun d => {
    name := d.name
    sourceFile := u.path
    line := d.place.line
    exported := d.exported
    propsType := (d.function.propsType?.map Json.str).getD .null
    children := (u.childComponents d.name names).map .str }

end SourceUnit

end HelpCenter

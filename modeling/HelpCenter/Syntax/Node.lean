import HelpCenter.Text.Basic

/-!
# Syntax trees

A node of a syntax tree knows the text that it spans, its row and its children in the order of the
text. Punctuation is left out. `Node.visits` walks a tree with an explicit stack, a node before
its children, and remembers for every node the ones around it.
-/

namespace HelpCenter.Syntax

/-- What a node is. Everything that is never looked for is `other`. -/
inductive Kind where
  | program
  | importStatement
  | exportStatement
  | exportClause
  | exportSpecifier
  /-- A declared function with a body, neither a generator nor a mere signature. -/
  | functionDeclaration
  | functionExpression
  | arrowFunction
  | parameters
  | parameter
  | statedType
  | variableDeclaration
  | variableDeclarator
  | call
  | arguments
  | identifier
  | string
  /-- An element with an opening and a closing tag; the tags may be nameless. -/
  | element
  | openingElement
  | selfClosingElement
  | attr
  /-- Braces in markup around an expression or around nothing. -/
  | embedded
  /-- A run of text in markup. -/
  | markupText
  | characterReference
  | comment
  | other
deriving DecidableEq

/-- The part that a node plays in the one around it. -/
inductive Role where
  | plain
  | name
  | value
  | declaration
  | parameters
  | type
  | source
  | callee
  | arguments
deriving DecidableEq

/-- A node: `front` is the text from its start on, of which it spans `length` code points. -/
structure Node where
  kind : Kind
  role : Role
  front : Text
  length : Nat
  row : Nat
  children : List Node

namespace Node

/-- The text that a node spans. -/
def text (n : Node) : Text := n.front.take n.length

/-- The line of a node, counted from one. -/
def line (n : Node) : Nat := n.row + 1

/-- The same node in another role. -/
def as (role : Role) (n : Node) : Node := { n with role }

/-- The child that plays a role. -/
def child? (role : Role) (n : Node) : Option Node := n.children.find? (·.role = role)

/-- The text of the child that plays a role, empty without one. -/
def childText (role : Role) (n : Node) : Text := ((n.child? role).map text).getD []

/-- Whether a node is of one of the kinds. -/
def isOneOf (kinds : List Kind) (n : Node) : Bool := kinds.contains n.kind

mutual

/-- The number of nodes in a tree. -/
def size : Node → Nat
  | ⟨_, _, _, _, _, children⟩ => 1 + sizeAll children

/-- The number of nodes in several trees. -/
def sizeAll : List Node → Nat
  | [] => 0
  | n :: rest => n.size + sizeAll rest

end

theorem size_eq (n : Node) : n.size = 1 + sizeAll n.children := by
  cases n; simp [size]

theorem sizeAll_append (ns ms : List Node) : sizeAll (ns ++ ms) = sizeAll ns + sizeAll ms := by
  induction ns with
  | nil => simp [sizeAll]
  | cons n ns ih => simp [sizeAll, ih, Nat.add_assoc]

end Node

/-- A node as it is met on a walk, with the nodes around it, the nearest one first. -/
structure Visit where
  node : Node
  around : List Node

namespace Visit

/-- The visits of the children of a node. -/
def inside (v : Visit) : List Visit := v.node.children.map fun c => ⟨c, v.node :: v.around⟩

/-- The node right around the visited one. -/
def parent? (v : Visit) : Option Node := v.around.head?

theorem map_node_inside (v : Visit) : v.inside.map node = v.node.children := by
  simp [inside, Function.comp_def]

/-- Walks on from a stack of visits. -/
def walk : List Visit → List Visit
  | [] => []
  | v :: stack => v :: walk (v.inside ++ stack)
termination_by stack => Node.sizeAll (stack.map node)
decreasing_by
  simp only [List.map_append, map_node_inside, Node.sizeAll_append, List.map_cons, Node.sizeAll,
    Node.size_eq v.node]
  omega

end Visit

namespace Node

/-- All visits of a walk through a tree. -/
def visits (n : Node) : List Visit := Visit.walk [⟨n, []⟩]

/-- The nodes of a tree, each before its children. -/
def walk (n : Node) : List Node := n.visits.map Visit.node

/-- The visits of nodes of some kinds. -/
def visitsOf (kinds : List Kind) (n : Node) : List Visit :=
  n.visits.filter fun v => v.node.isOneOf kinds

/-- The nodes of some kinds, in the order of the walk. -/
def find (kinds : List Kind) (n : Node) : List Node := n.walk.filter (isOneOf kinds)

/-- The name in a tag; a nameless tag has the empty name. -/
def tagName (n : Node) : Text := n.childText .name

/-- The attributes of a tag, each with its name and its value. -/
def attributes (n : Node) : List (Node × Text × Option Node) :=
  (n.children.filter (·.kind = .attr)).filterMap fun a =>
    match a.children with
    | [] => none
    | name :: rest => some (a, name.text, rest.getLast?)

end Node

end HelpCenter.Syntax

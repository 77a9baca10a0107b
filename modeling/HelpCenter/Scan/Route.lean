import HelpCenter.CodeMap.Basic
import HelpCenter.Route.Path
import HelpCenter.Source.Unit
import HelpCenter.Syntax.StringValue

/-!
# Routes and endpoints in a source

A file can define a route by its place, by elements with the tag `Route`, and by registering
handlers with a server.
-/

namespace HelpCenter

open Syntax

namespace SourceUnit

/-- Removes one sign of each kind from either end of a text. -/
def unwrap (openings closings : Text) (t : Text) : Text :=
  let t := match t with
    | c :: rest => if openings.contains c then rest else t
    | [] => []
  match t.getLast? with
  | some c => if closings.contains c then t.dropLast else t
  | none => t

/-- The word behind the first opening angle bracket that one follows. -/
def firstTag? : Text → Option Text
  | [] => none
  | c :: rest =>
    let name := rest.takeWhile CodePoint.isWord
    if c.is '<' && !name.isEmpty then some name else firstTag? rest

/-- The component that the value of an attribute names: the first tag in it, or its text. -/
def componentOf (value : Node) : Text :=
  (firstTag? value.text).getD (unwrap (lit "\x7b\"") (lit "\x7d\"") value.text)

/-- The path that the value of an attribute gives: that of a string, or the text. -/
def pathOf (value : Node) : Except Failure Text := do
  return (← value.attributeLiteral?).getD (unwrap (lit "\"'\x7b") (lit "\"'\x7d") value.text)

/-- The route that a tag declares; of attributes given twice the last one counts. -/
def routeOfTag (path : Text) (tag : Node) : Except Failure (Option Route) := do
  let given := tag.attributes.filterMap fun (_, name, value?) => value?.map fun v => (name, v)
  let paths ← (given.filter fun (name, _) => name = lit "path").mapM fun (_, v) => pathOf v
  let components := (given.filter fun (name, _) =>
    name = lit "component" || name = lit "element").map fun (_, v) => componentOf v
  let address := paths.getLast?.getD []
  let component := components.getLast?.getD []
  if address.isEmpty then return none
  return some {
    path := address
    sourceFile := path
    component := if component.isEmpty then .null else .str component
    line := .int tag.line
    params := (Route.paramNames address).map .str }

/-- The methods by which handlers are registered with a server. -/
def methodNames : List Text := ["get", "post", "put", "patch", "delete"]

/-- The method of a function that registers a handler. -/
def method? (callee : Text) : Option Text := do
  let t ← (Text.afterPrefix? (lit "app.") callee).or (Text.afterPrefix? (lit "router.") callee)
  if methodNames.contains t then some t else none

/-- A handler that is registered with a server. -/
structure Registration where
  call : Node
  method : Text
  path : Text
  arguments : List Node

/-- The registration that a call is, if it is one: its first argument is a path. -/
def registration? (call : Node) : Except Failure (Option Registration) :=
  match method? (call.childText .callee), call.child? .arguments with
  | some method, some given =>
    match given.children with
    | [] => .ok none
    | first :: _ => do
      match ← first.literal? with
      | some path =>
        return if Text.startsWith path (lit "/") then some ⟨call, method, path, given.children⟩
          else none
      | none => return none
  | _, _ => .ok none

/-- The handlers that a source registers. -/
def registrations (u : SourceUnit) : Except Failure (List Registration) := do
  return (← (u.tree.find [.call]).mapM registration?).filterMap id

/-- Whether routes by place count under a framework, which may be unknown. -/
def routesByPlace (framework : Option Text) : Bool :=
  framework.isNone || framework = some (lit "nextjs")

/-- The registrations that count under a framework. -/
def countedRegistrations (u : SourceUnit) (framework : Option Text) :
    Except Failure (List Registration) :=
  if framework = some (lit "express") then u.registrations else .ok []

/-- The routes of a source: by place, by tag, then by registration. -/
def routes (u : SourceUnit) (framework : Option Text) : Except Failure (List Route) := do
  let byPlace := if routesByPlace framework then (Route.pathOfFile? u.path).toList else []
  let tags := (u.tree.find [.openingElement, .selfClosingElement]).filter
    fun tag => tag.tagName = lit "Route"
  let byTag ← tags.mapM (routeOfTag u.path)
  let registered ← u.countedRegistrations framework
  let params := fun (path : Text) => (Route.paramNames path).map Json.str
  return byPlace.map (fun path => { path, sourceFile := u.path, params := params path })
    ++ byTag.filterMap id
    ++ registered.map fun r =>
      { path := r.path, sourceFile := u.path, line := .int r.call.line, params := params r.path }

/-- The methods of requests. -/
def requestMethods : List Text := ["GET", "POST", "PUT", "PATCH", "DELETE"]

/-- The names that an exported declaration introduces. -/
def declaredNames (declaration : Node) : List Text :=
  match declaration.kind with
  | .functionDeclaration => [declaration.childText .name]
  | .variableDeclaration =>
    (declaration.children.filter (·.kind = .variableDeclarator)).map (Node.childText .name)
  | _ => []

/-- The methods of requests that a source exports handlers for. -/
def exportedMethods (u : SourceUnit) : List Text :=
  let statements := u.tree.children.filter (·.kind = .exportStatement)
  let names := statements.flatMap fun s =>
    ((s.child? .declaration).map declaredNames).getD []
  firstSeen (names.filter requestMethods.contains)

/-- The handler of a registration: its last argument, if that is a name and not the path. -/
def Registration.handler? (r : Registration) : Option Text := do
  let last ← r.arguments.tail.getLast?
  if last.kind = .identifier then some last.text else none

/-- The endpoints of a source: by registration, then by place. -/
def endpoints (u : SourceUnit) (framework : Option Text) : Except Failure (List Endpoint) := do
  let registered ← u.countedRegistrations framework
  let byPlace := if routesByPlace framework then (Route.handlerPathOfFile? u.path).toList else []
  return registered.map (fun r => {
      method := Text.toUpper r.method, path := r.path, sourceFile := u.path
      handler := (r.handler?.map Json.str).getD .null })
    ++ byPlace.flatMap fun path => u.exportedMethods.map fun method =>
      { method, path, sourceFile := u.path, handler := .str method }

/-- The modules that a source imports, each once. -/
def imports (u : SourceUnit) : Except Failure (List Text) := do
  let statements := u.tree.children.filter (·.kind = .importStatement)
  let named ← (statements.filterMap (Node.child? .source)).mapM Node.literal?
  return firstSeen ((named.filterMap id).filter (!·.isEmpty))

end SourceUnit

end HelpCenter

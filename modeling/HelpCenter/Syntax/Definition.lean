import HelpCenter.Syntax.TypeNotation

/-!
# Patterns, functions and classes

What binds names: destructuring patterns, parameters, functions with their bodies, and classes.
-/

namespace HelpCenter.Syntax

namespace Rules

open Reader

/-- The value that is taken where none is given. -/
def defaultValue (r : Rules) : Reader (List Node) := do
  let value ← maybe do
    sign (lit "=")
    inBrackets r.assignment
  return value.toList

/-- The key of a member: a word, a private word, a string, a number or an expression in square
brackets. -/
def memberKey (r : Rules) : Reader (List Node) := firstOf [
  do let _ ← word; return [],
  do sign (lit "#"); let _ ← wordHere; return [],
  do return [← Reader.string],
  do return [← number],
  do
    sign (lit "[")
    let e ← inBrackets r.assignment
    sign (lit "]")
    return [e]]

/-- A member of a destructured object. -/
def patternMember (r : Rules) : Reader (List Node) := firstOf [
  do
    sign (lit "...")
    return [← r.pattern],
  do
    let key ← r.memberKey
    sign (lit ":")
    let p ← r.pattern
    return key ++ p :: (← r.defaultValue),
  do
    let _ ← variableName
    r.defaultValue]

/-- A place in a destructured list, which may be empty. -/
def patternItem (r : Rules) : Reader (List Node) := do
  match ← maybe r.pattern with
  | none => return []
  | some p => return p :: (← r.defaultValue)

/-- The places of a destructured list, those behind commas included. -/
def patternItems (r : Rules) : Reader (List Node) := do
  let first ← r.patternItem
  let more ← many do
    sign (lit ",")
    r.patternItem
  return first ++ more.flatten

/-- What a variable can be bound through. -/
def readPattern (r : Rules) : Reader Node := firstOf [
  node .identifier do
    let w ← word
    require (w = lit "this" || !reservedWords.contains w)
    return [],
  other do
    sign (lit "\x7b")
    let members ← inBrackets (commaList r.patternMember)
    sign (lit "\x7d")
    return members.flatten,
  other do
    sign (lit "[")
    let items ← inBrackets r.patternItems
    sign (lit "]")
    return items,
  other do
    sign (lit "...")
    return [← r.pattern]]

/-- A call or a name that changes what comes after it. -/
def decorator (r : Rules) : Reader Node := other do
  sign (lit "@")
  return [← r.operand]

/-- Whether what follows shows that the word before it was a modifier and no name. -/
def isModified : Reader Bool := do
  match (← ahead).head? with
  | none => return false
  | some c =>
    return isWordStart c || c.is '[' || c.is '\x7b' || c.is '"' || c.is '\'' || c.is '#'
      || c.is '*' || c.isDigit || c.is '@'

/-- A word that changes the member or parameter after it. -/
def modifier (words : List Text) : Reader Unit := do
  let w ← word
  require (words.contains w)
  require (← isModified)

/-- The words that change a parameter. -/
def parameterModifiers : List Text :=
  List.map Text.ofString ["public", "private", "protected", "override", "readonly"]

/-- A parameter with its type and its default. -/
def parameter (r : Rules) : Reader Node := node .parameter do
  let decorators ← many r.decorator
  let _ ← many do
    require (← read).types
    modifier parameterModifiers
  let p ← r.pattern
  let _ ← maybe do whereTyped; sign (lit "?")
  let annotation ← maybe r.statedType
  let value ← r.defaultValue
  return decorators ++ p :: annotation.toList ++ value

/-- Parameters in round brackets. -/
def parameters (r : Rules) : Reader Node := do
  let ps ← node .parameters do
    sign (lit "(")
    let ps ← inBrackets (commaList r.parameter)
    sign (lit ")")
    return ps
  return ps.as .parameters

/-- What stands between the name of a function and its body: parameters and the type of the
result. -/
def signature (r : Rules) : Reader (List Node) := do
  let _ ← maybe r.typeParameters
  let ps ← r.parameters
  let _ ← maybe r.statedType
  return [ps]

/-- The kind and the parts of a function from the word `function` on. -/
structure FunctionParts where
  isGenerator : Bool
  name? : Option Node
  signature : List Node
  body? : Option Node

/-- The parts of a function as the children of its node. -/
def FunctionParts.children (f : FunctionParts) : List Node :=
  (f.name?.map (Node.as .name)).toList ++ f.signature ++ f.body?.toList

/-- The parts of a function; in an expression it needs no name. -/
def functionParts (r : Rules) : Reader FunctionParts := do
  let _ ← maybe do
    keyword (lit "async")
    require (!(← onNewRow))
  keyword (lit "function")
  let isGenerator ← accept (lit "*")
  let name? ← maybe (node .identifier do let _ ← variableName; return [])
  let signature ← r.signature
  let body? ← maybe r.block
  return { isGenerator, name?, signature, body? }

/-- A declared function. A generator or a function without a body is of no particular kind. -/
def functionDeclaration (r : Rules) : Reader Node := span do
  let f ← r.functionParts
  require f.name?.isSome
  let kind := if f.isGenerator || f.body?.isNone then Kind.other else .functionDeclaration
  return (kind, f.children)

/-- A function as an expression. -/
def functionExpression (r : Rules) : Reader Node := span do
  let f ← r.functionParts
  require f.body?.isSome
  return (if f.isGenerator then Kind.other else .functionExpression, f.children)

/-- The words that change a member of a class or of an object. -/
def memberModifiers : List Text := List.map Text.ofString [
  "public", "private", "protected", "override", "readonly", "static", "abstract", "declare",
  "accessor", "async", "get", "set"]

/-- A method: modifiers, a key, parameters and a body, which a signature lacks. -/
def method (r : Rules) : Reader (List Node) := do
  let _ ← many (modifier memberModifiers)
  let _ ← maybe (sign (lit "*"))
  let key ← r.memberKey
  let _ ← maybe do whereTyped; sign (lit "?") <|> sign (lit "!")
  let parts ← r.signature
  let body ← maybe r.block
  return key ++ parts ++ body.toList

/-- A field of a class. -/
def fieldDefinition (r : Rules) : Reader (List Node) := do
  let _ ← many (modifier memberModifiers)
  let key ← r.memberKey <|> (do brackets (lit "["); return [])
  let _ ← maybe do whereTyped; sign (lit "?") <|> sign (lit "!")
  let annotation ← maybe r.statedType
  let value ← r.defaultValue
  return key ++ annotation.toList ++ value

/-- A member of a class. -/
def classMember (r : Rules) : Reader (List Node) := do
  let decorators ← many r.decorator
  let parts ← firstOf [
    do sign (lit ";"); return [],
    do
      keyword (lit "static")
      return [← r.block],
    r.method,
    r.fieldDefinition]
  let _ ← accept (lit ";")
  return decorators ++ parts

/-- The classes and interfaces that a class builds on. -/
def heritage (r : Rules) : Reader (List Node) := do
  let base ← maybe do
    keyword (lit "extends")
    let e ← r.operand
    let _ ← maybe r.typeArguments
    return e
  let _ ← maybe do
    whereTyped
    keyword (lit "implements")
    commaList r.joinedType
  return base.toList

/-- A class, as a declaration or as an expression. -/
def classDefinition (r : Rules) : Reader Node := other do
  let decorators ← many r.decorator
  let _ ← maybe do whereTyped; keyword (lit "abstract")
  keyword (lit "class")
  let _ ← maybe do
    let w ← variableName
    require (w ≠ lit "implements")
  let _ ← maybe r.typeParameters
  let base ← r.heritage
  sign (lit "\x7b")
  let members ← inBrackets (many r.classMember)
  sign (lit "\x7d")
  return decorators ++ base ++ members.flatten

end Rules

end HelpCenter.Syntax

import HelpCenter.Syntax.Expression
import HelpCenter.Syntax.Markup

/-!
# Statements

Statements and declarations. Where a statement ends without a semicolon is left to the next one,
which begins where the expression cannot go on.
-/

namespace HelpCenter.Syntax

namespace Rules

open Reader

/-- A semicolon, if there is one. -/
def semicolon : Reader Unit := do let _ ← accept (lit ";")

/-! ### Declarations -/

/-- A variable with its type and its value. -/
def variableDeclarator (r : Rules) : Reader Node := node .variableDeclarator do
  let name ← r.pattern
  let _ ← maybe do
    whereTyped
    sign (lit "!")
  let annotation ← maybe r.statedType
  let value ← maybe do
    sign (lit "=")
    r.assignment
  return name.as .name :: annotation.toList ++ (value.map (Node.as .value)).toList

/-- Variables without what ends the statement. -/
def boundVariables (r : Rules) : Reader Node := node .variableDeclaration do
  let w ← word
  require ((["var", "let", "const"] : List Text).contains w)
  let all ← commaList r.variableDeclarator
  require !all.isEmpty
  return all

/-- A declaration of variables. -/
def variableDeclaration (r : Rules) : Reader Node := do
  let n ← r.boundVariables
  semicolon
  return n

/-- A name for a type. -/
def typeAlias (r : Rules) : Reader Node := other do
  whereTyped
  keyword (lit "type")
  let _ ← variableName
  let _ ← maybe r.typeParameters
  sign (lit "=")
  r.type
  semicolon
  return []

/-- An interface. -/
def interface (r : Rules) : Reader Node := other do
  whereTyped
  keyword (lit "interface")
  let _ ← variableName
  let _ ← maybe r.typeParameters
  let _ ← maybe do
    keyword (lit "extends")
    commaList r.joinedType
  brackets (lit "\x7b")
  return []

/-- An enumeration with the values of its members. -/
def enumeration (r : Rules) : Reader Node := other do
  whereTyped
  let _ ← maybe (keyword (lit "const"))
  keyword (lit "enum")
  let _ ← variableName
  sign (lit "\x7b")
  let members ← inBrackets (commaList do
    let key ← r.memberKey
    return key ++ (← r.defaultValue))
  sign (lit "\x7d")
  return members.flatten

/-- A namespace or a declared module; the latter may lack a body. -/
def namespace_ (r : Rules) : Reader Node := other do
  whereTyped
  let w ← word
  require ((["namespace", "module", "global"] : List Text).contains w)
  require !(← onNewRow)
  if w ≠ lit "global" then
    firstOf [
      do let _ ← Reader.string,
      do
        let _ ← variableName
        let _ ← many do
          sign (lit ".")
          word]
  let body ← maybe r.block
  require (body.isSome || w = lit "module")
  if body.isNone then semicolon
  return body.toList

/-- A name for a part of another module. -/
def importAlias : Reader Node := other do
  whereTyped
  keyword (lit "import")
  let _ ← maybe do
    keyword (lit "type")
    require !(← isNext (lit "="))
  let _ ← variableName
  sign (lit "=")
  let _ ← word
  let _ ← many (do sign (lit "."); let _ ← word)
  let _ ← maybe (brackets (lit "("))
  semicolon
  return []

/-- A declaration of any kind, exports and imports apart. -/
def declaration (r : Rules) : Reader Node := firstOf [
  r.enumeration,
  r.variableDeclaration,
  r.functionDeclaration,
  r.classDefinition,
  r.typeAlias,
  r.interface,
  r.namespace_]

/-- A declaration of something that exists elsewhere. -/
def ambientDeclaration (r : Rules) : Reader Node := other do
  whereTyped
  keyword (lit "declare")
  require !(← onNewRow)
  return [← r.declaration]

/-! ### Imports and exports -/

/-- The word `from` and the name of a module. -/
def origin : Reader Node := do
  keyword (lit "from")
  let source ← Reader.string
  let _ ← maybe do
    keyword (lit "with") <|> keyword (lit "assert")
    brackets (lit "\x7b")
  return source.as .source

/-- An import of a module, with or without names from it. -/
def importStatement : Reader Node := node .importStatement do
  keyword (lit "import")
  let source ← firstOf [
    do return (← Reader.string).as .source,
    do
      let _ ← many do
        require !(← couldRead origin)
        firstOf [
          brackets (lit "\x7b"),
          sign (lit ","),
          sign (lit "*"),
          do let _ ← word]
      origin]
  let _ ← maybe do
    keyword (lit "with") <|> keyword (lit "assert")
    brackets (lit "\x7b")
  semicolon
  return [source]

/-- A name in a list of exports, maybe with another name to be known by. -/
def exportSpecifier : Reader Node := node .exportSpecifier do
  let name : Reader Node := Reader.string <|> node .identifier do
    let _ ← word
    return []
  let _ ← maybe do
    keyword (lit "type")
    require (!(← isNextWord (lit "as")) && (← couldRead name))
  let given ← name
  let _ ← maybe do
    keyword (lit "as")
    name
  return [given.as .name]

/-- A list of names to export. -/
def exportClause : Reader Node := node .exportClause do
  sign (lit "\x7b")
  let names ← commaList exportSpecifier
  sign (lit "\x7d")
  return names

/-- What is exported under no name of its own. -/
def defaultExport (r : Rules) : Reader Node := do
  keyword (lit "default")
  firstOf [
    do return (← firstOf [r.functionDeclaration, r.interface]).as .declaration,
    do
      require (← couldRead do
        let _ ← maybe (keyword (lit "abstract"))
        keyword (lit "class")
        let name ← variableName
        require (name ≠ lit "implements"))
      return (← r.classDefinition).as .declaration,
    do
      let value ← r.assignment
      semicolon
      return value.as .value]

/-- An export. -/
def exportStatement (r : Rules) : Reader Node := node .exportStatement do
  let decorators ← many r.decorator
  keyword (lit "export")
  let parts ← firstOf [
    do return [← r.defaultExport],
    do
      sign (lit "*")
      let _ ← maybe do
        keyword (lit "as")
        firstOf [do let _ ← word, do let _ ← Reader.string]
      return [← origin],
    do
      let _ ← maybe do
        keyword (lit "type")
        require (← isNext (lit "\x7b"))
      let clause ← exportClause
      let source ← maybe origin
      return clause :: source.toList,
    do
      sign (lit "=")
      return [← r.expression],
    do
      keyword (lit "as")
      keyword (lit "namespace")
      let _ ← word
      return [],
    do return [← importAlias],
    do return [(← (r.ambientDeclaration <|> r.declaration)).as .declaration]]
  semicolon
  return decorators ++ parts

/-! ### Control -/

/-- A statement under a condition, and maybe another one otherwise. -/
def ifStatement (r : Rules) : Reader (List Node) := do
  keyword (lit "if")
  let test ← r.inParentheses
  let yes ← r.statement
  let no ← maybe do
    keyword (lit "else")
    r.statement
  return test :: yes :: no.toList

/-- The head of a loop over the parts of a value. -/
def eachHead (r : Rules) : Reader (List Node) := do
  let _ ← maybe do
    let w ← word
    require ((["var", "let", "const"] : List Text).contains w)
  let target ← r.pattern <|> under (fun s => { s with allowIn := false }) r.operand
  let value ← maybe do
    sign (lit "=")
    under (fun s => { s with allowIn := false }) r.assignment
  keyword (lit "of") <|> keyword (lit "in")
  return target :: value.toList ++ [← r.expression]

/-- The head of a loop with a start, a test and a step, each of which may be missing. -/
def stepHead (r : Rules) : Reader (List Node) := do
  let start ← under (fun s => { s with allowIn := false })
    (maybe (r.boundVariables <|> r.expression))
  sign (lit ";")
  let test ← maybe r.expression
  sign (lit ";")
  let step ← maybe r.expression
  return start.toList ++ test.toList ++ step.toList

/-- A loop with the word `for`. -/
def forStatement (r : Rules) : Reader (List Node) := do
  keyword (lit "for")
  let _ ← maybe (keyword (lit "await"))
  sign (lit "(")
  let head ← inBrackets (firstOf [
    do
      let head ← r.eachHead
      sign (lit ")")
      return head,
    do
      let head ← r.stepHead
      sign (lit ")")
      return head])
  return head ++ [← r.statement]

/-- A statement that depends on an expression before it. -/
def guarded (r : Rules) (w : Text) : Reader (List Node) := do
  keyword w
  let test ← r.inParentheses
  return [test, ← r.statement]

/-- A loop with its condition at the end. -/
def doStatement (r : Rules) : Reader (List Node) := do
  keyword (lit "do")
  let body ← r.statement
  keyword (lit "while")
  return [body, ← r.inParentheses]

/-- A choice between cases. -/
def switchStatement (r : Rules) : Reader (List Node) := do
  keyword (lit "switch")
  let value ← r.inParentheses
  sign (lit "\x7b")
  let cases ← inBrackets (many do
    let label ← firstOf [
      do
        keyword (lit "case")
        return [← under (fun s => { s with arrowTypes := false }) r.expression],
      do
        keyword (lit "default")
        return []]
    sign (lit ":")
    return label ++ (← many r.statement))
  sign (lit "\x7d")
  return value :: cases.flatten

/-- A block with what to do when it fails and when it is left. -/
def tryStatement (r : Rules) : Reader (List Node) := do
  keyword (lit "try")
  let body ← r.block
  let handler ← maybe do
    keyword (lit "catch")
    let caught ← maybe r.parameters
    return caught.toList ++ [← r.block]
  let finalizer ← maybe do
    keyword (lit "finally")
    r.block
  return body :: handler.getD [] ++ finalizer.toList

/-- A statement that leaves a function with a value or without one. -/
def leaving (r : Rules) : Reader (List Node) := do
  let w ← word
  require (w = lit "return" || w = lit "throw")
  let value ← maybe do
    require !(← onNewRow)
    r.expression
  semicolon
  return value.toList

/-- A statement that leaves a loop, or that does nothing. -/
def jumping : Reader (List Node) := do
  let w ← word
  require ((["break", "continue", "debugger"] : List Text).contains w)
  let _ ← maybe do
    require !(← onNewRow)
    variableName
  semicolon
  return []

/-- A statement with a label. -/
def labelled (r : Rules) : Reader (List Node) := do
  let _ ← variableName
  sign (lit ":")
  return [← r.statement]

/-- A statement or a declaration. -/
def readStatement (r : Rules) : Reader Node := firstOf [
  r.block,
  other do sign (lit ";"); return [],
  importAlias,
  importStatement,
  r.exportStatement,
  r.ambientDeclaration,
  r.declaration,
  other (firstOf [
    r.ifStatement,
    r.forStatement,
    r.guarded (lit "while"),
    r.guarded (lit "with"),
    r.doStatement,
    r.switchStatement,
    r.tryStatement,
    r.leaving,
    jumping,
    r.labelled]),
  other do
    let e ← r.expression
    semicolon
    return [e]]

end Rules

end HelpCenter.Syntax

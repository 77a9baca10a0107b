import HelpCenter.Syntax.Definition

/-!
# Expressions

An expression is a row of operands with infix operators between them, maybe with a condition
behind it. How operators bind does not matter to what is looked for, so the row stays flat; a
single operand stands for itself.
-/

namespace HelpCenter.Syntax

namespace Rules

open Reader

/-- The infix operators that are signs, each before those it starts with. -/
def infixSigns : List Text := List.map Text.ofString [
  ">>>=", ">>>", ">>=", "<<=", "**=", "&&=", "||=", "??=", "===", "!==", "==", "!=", "<=", ">=",
  "&&", "||", "??", "<<", ">>", "**", "+=", "-=", "*=", "/=", "%=", "&=", "|=", "^=", "+", "-",
  "*", "/", "%", "&", "|", "^", "<", ">", "="]

/-- Reads an infix operator. A doubled plus or minus and an arrow are none. -/
def infixOperator : Reader Unit := do
  gap
  let front ← rest
  let refused := (["++", "--", "=>", "//", "/*"] : List Text).any fun t => t.isPrefixOf front
  require !refused
  match infixSigns.find? fun t => t.isPrefixOf front with
  | some t => exactly t
  | none =>
    let w ← word
    require (w = lit "instanceof" || (w = lit "in" && (← read).allowIn))

/-- The words `as` and `satisfies` with the type behind them. In a new row they go on with the
expression only if a type surely follows. -/
def typeSuffix (r : Rules) : Reader Node := other do
  whereTyped
  let late ← onNewRow
  let w ← word
  require (w = lit "as" || w = lit "satisfies")
  if late then
    require ((← ahead).head?.any fun c => isWordStart c || c.is '\x7b' || c.is '[' || c.is '"')
  r.type
  return []

/-- The condition behind a question mark: two expressions with a colon between them. If no colon
follows when arrow functions may give a type, the colon was taken for one. -/
def condition (r : Rules) : Reader (List Node) := do
  sign (lit "?")
  let chosen := fun (arrowTypes : Bool) => do
    let yes ← under (fun s => { s with allowIn := true, arrowTypes }) r.assignment
    sign (lit ":")
    let no ← r.assignment
    return [yes, no]
  chosen (← read).arrowTypes <|> chosen false

/-- An expression without commas at its top. -/
def readAssignment (r : Rules) : Reader Node := join do
  let first ← r.operand
  let more ← many ((do infixOperator; r.operand) <|> r.typeSuffix)
  let branches ← maybe r.condition
  return first :: more ++ branches.getD []

/-! ### Functions and literals -/

/-- The body of an arrow function: statements in braces or an expression. -/
def arrowBody (r : Rules) : Reader Node := do
  sign (lit "=>")
  if ← isNext (lit "\x7b") then r.block else r.assignment

/-- An arrow function. -/
def arrowFunction (r : Rules) : Reader Node := node .arrowFunction do
  let _ ← maybe do
    keyword (lit "async")
    require (!(← onNewRow))
    require !(← isNext (lit "=>"))
  firstOf [
    do
      let _ ← variableName
      return [← r.arrowBody],
    do
      let _ ← maybe r.typeParameters
      let ps ← r.parameters
      let _ ← maybe do
        require (← read).arrowTypes
        r.statedType
      return [ps, ← r.arrowBody]]

/-- An expression with three dots before it. -/
def spread (r : Rules) : Reader Node := other do
  sign (lit "...")
  return [← r.assignment]

/-- A place in a list, which may be empty. -/
def listItems (r : Rules) : Reader (List Node) := do
  let item := maybe (r.spread <|> r.assignment)
  let first ← item
  let more ← many do
    sign (lit ",")
    item
  return first.toList ++ more.flatMap Option.toList

/-- A list in square brackets. -/
def listLiteral (r : Rules) : Reader Node := other do
  sign (lit "[")
  let items ← inBrackets r.listItems
  sign (lit "]")
  return items

/-- A member of an object literal. -/
def objectMember (r : Rules) : Reader (List Node) := firstOf [
  do return [← r.spread],
  r.method,
  do
    let key ← r.memberKey
    sign (lit ":")
    return key ++ [← r.assignment],
  do
    let _ ← word
    r.defaultValue]

/-- An object literal. -/
def objectLiteral (r : Rules) : Reader Node := other do
  sign (lit "\x7b")
  let members ← inBrackets (commaList r.objectMember)
  sign (lit "\x7d")
  return members.flatten

/-- A template with expressions in it. -/
def templateLiteral (r : Rules) : Reader Node :=
  other (template (do return [← inBrackets r.expression]))

/-- The arguments of a call. -/
def callArguments (r : Rules) : Reader Node := do
  let given ← node .arguments do
    sign (lit "(")
    let given ← inBrackets (commaList (r.spread <|> r.assignment))
    sign (lit ")")
    return given
  return given.as .arguments

/-! ### Operands -/

/-- A word that stands for a value: a variable or one of the value words. -/
def wordValue : Reader Node := span do
  let w ← word
  require (valueWords.contains w || !reservedWords.contains w)
  return (if valueWords.contains w then Kind.other else .identifier, [])

/-- The words `import` and `new` with a property behind them, and `import` to be called. -/
def metaProperty : Reader Node := other do
  let w ← word
  require (w = lit "import" || w = lit "new")
  let dotted ← accept (lit ".")
  if dotted then
    let _ ← word
  else require (w = lit "import" && (← isNext (lit "(")))
  return []

/-- An operand without anything behind it. -/
def primary (r : Rules) : Reader Node := firstOf [
  r.functionExpression,
  r.classDefinition,
  metaProperty,
  wordValue,
  Reader.string,
  number,
  r.templateLiteral,
  other do return [← r.inParentheses],
  r.listLiteral,
  r.objectLiteral,
  regex,
  other do sign (lit "#"); let _ ← wordHere; return []]

/-- What can stand behind an operand so that it goes on: the kind of the whole and the parts that
are added. -/
abbrev Link := Reader (Kind × List Node)

/-- A name or an expression in square brackets that picks a part of a value. -/
def memberLink (r : Rules) : Link := firstOf [
  do
    let _ ← firstOf [sign (lit "?."), do sign (lit "."); require !((← rest).head?.any (·.is '.'))]
    let _ ← firstOf [word, do sign (lit "#"); wordHere]
    return (.other, []),
  do
    let _ ← maybe (sign (lit "?."))
    sign (lit "[")
    let e ← inBrackets r.expression
    sign (lit "]")
    return (.other, [e]),
  do return (.other, [← r.templateLiteral]),
  do
    whereTyped
    require (!(← onNewRow))
    sign (lit "!")
    require !((← rest).head?.any (·.is '='))
    return (.other, [])]

/-- What can stand behind the types that something generic is given without being called. -/
def endsOperand (front : Text) : Bool :=
  match front.head? with
  | none => true
  | some c => (lit ")],;:\x7d.").contains c

/-- The arguments of a call, or the types that something generic is given. -/
def callLink (r : Rules) : Link := firstOf [
  do return (.call, [← r.callArguments]),
  do
    sign (lit "?.")
    let _ ← maybe r.typeArguments
    return (.call, [← r.callArguments]),
  do
    r.typeArguments
    return (.call, [← r.callArguments]),
  do
    r.typeArguments
    return (.other, [← r.templateLiteral]),
  do
    r.typeArguments
    require (endsOperand (← ahead))
    return (.other, [])]

/-- A doubled plus or minus behind an operand in the same row. -/
def stepLink : Link := do
  require (!(← onNewRow))
  sign (lit "++") <|> sign (lit "--")
  return (.other, [])

/-- Reads links behind an operand, `fuel` at most. -/
def chain (link : Link) (begin_ : Cursor) : (fuel : Nat) → Node → Reader Node
  | 0, n => return n
  | fuel + 1, n => do
    match ← maybe link with
    | none => return n
    | some (kind, parts) =>
      let length := begin_.left - (← get).left
      chain link begin_ fuel
        { kind, role := .plain, front := n.front, length, row := n.row,
          children := n.as (if kind = .call then .callee else .plain) :: parts }

/-- An operand with the links behind it. -/
def linked (first : Reader Node) (link : Link) : Reader Node := do
  gap
  let begin_ ← get
  let n ← first
  chain link begin_ (begin_.left + 1) n

/-- A value that a constructor makes. -/
def construction (r : Rules) : Reader Node := other do
  keyword (lit "new")
  let made ← linked
    (firstOf [do require (← isNextWord (lit "new")); r.operand, r.primary]) r.memberLink
  let _ ← maybe r.typeArguments
  let given ← maybe r.callArguments
  return made :: given.toList

/-- An operand with an operator before it. -/
def prefixed (r : Rules) : Reader Node := other do
  firstOf ((["++", "--", "+", "-", "!", "~"] : List String).map (fun t => sign (lit t)) ++
    (["typeof", "void", "delete", "await"] : List String).map fun t => keyword (lit t))
  return [← r.operand]

/-- What a generator hands out. -/
def handedOut (r : Rules) : Reader Node := other do
  keyword (lit "yield")
  let all ← accept (lit "*")
  let given ← maybe do
    require (all || !(← onNewRow))
    r.assignment
  return given.toList

/-- A type in angle brackets before an operand, where no markup can be meant. -/
def assertion (r : Rules) : Reader Node := other do
  require !(← read).markup
  r.typeArguments
  return [← r.operand]

/-- An operand with everything before and behind it. -/
def readOperand (r : Rules) : Reader Node := firstOf [
  r.arrowFunction,
  do whereMarkup; r.element,
  r.assertion,
  r.prefixed,
  r.handedOut,
  linked (r.construction <|> r.primary) (firstOf [r.callLink, r.memberLink, stepLink])]

end Rules

end HelpCenter.Syntax

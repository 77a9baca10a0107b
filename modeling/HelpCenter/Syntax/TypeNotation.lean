import HelpCenter.Syntax.Rules

/-!
# Types

Types are passed over: the text of a type can be asked for, what stands in it never. What is
between brackets of a type is skipped as a whole, except between angle brackets, which are told
from signs of comparison by reading the types in them.
-/

namespace HelpCenter.Syntax

namespace Rules

open Reader

/-- Types in angle brackets as arguments of something generic. -/
def typeArguments (r : Rules) : Reader Unit := do
  whereTyped
  sign (lit "<")
  let given ← commaList r.type
  require (!given.isEmpty)
  sign (lit ">")

/-- A parameter of something generic: modifiers, a name, maybe a bound and a default. -/
def typeParameter (r : Rules) : Reader Unit := do
  let _ ← many do
    let w ← word
    require ((["const", "in", "out"] : List Text).contains w)
    require (← nextWord).isSome
  let _ ← word
  let _ ← maybe do
    keyword (lit "extends")
    r.type
  let _ ← maybe do
    sign (lit "=")
    r.type

/-- The parameters of something generic in angle brackets. -/
def typeParameters (r : Rules) : Reader Unit := do
  whereTyped
  sign (lit "<")
  let given ← commaList r.typeParameter
  require (!given.isEmpty)
  sign (lit ">")

/-- A dotted name with arguments, such as a type is called by. -/
def typeName (r : Rules) : Reader Unit := do
  let _ ← word
  let _ ← many do
    sign (lit ".")
    let _ ← firstOf [word, do exactly (lit "#"); wordHere]
  let _ ← maybe r.typeArguments

/-- The parameters and the result of a function type. -/
def functionType (r : Rules) : Reader Unit := do
  let _ ← maybe r.typeParameters
  brackets (lit "(")
  sign (lit "=>")
  r.type
  let _ ← maybe do
    keyword (lit "is")
    r.type

/-- The words that may stand before a type and change it. -/
def typeOperators : List Text :=
  List.map Text.ofString ["keyof", "readonly", "unique", "infer", "asserts", "abstract", "new"]

/-- A sign that stands for a type without a name. -/
def literalType : Reader Unit := firstOf [
  do let _ ← string,
  do let _ ← number,
  do sign (lit "-"); let _ ← number,
  do let _ ← template (do let _ ← takeWhile fun c => !c.is '\x7d'; return []),
  sign (lit "*")]

/-- A type that starts with a word. -/
def namedType (r : Rules) (postfixType : Reader Unit) : Reader Unit := firstOf [
  do
    keyword (lit "typeof")
    require !(← isNextWord (lit "import"))
    r.typeName,
  do
    let _ ← firstOf [keyword (lit "typeof"), pure ()]
    keyword (lit "import")
    brackets (lit "(")
    let _ ← many do
      sign (lit ".")
      word
    let _ ← maybe r.typeArguments,
  do
    let w ← word
    require (typeOperators.contains w)
    postfixType,
  r.typeName]

/-- A type without operators between types; `fuel` bounds the words in front of it. -/
def simpleType (r : Rules) : (fuel : Nat) → Reader Unit
  | 0 => failure
  | fuel + 1 => do
    firstOf [
      r.functionType,
      brackets (lit "("),
      brackets (lit "\x7b"),
      brackets (lit "["),
      literalType,
      namedType r (simpleType r fuel)]
    let _ ← many (brackets (lit "["))

/-- The sign between alternatives or parts of a type. -/
def typeJoint : Reader Unit := firstOf [
  do sign (lit "|"); require (!(← rest).head?.any (·.is '|')),
  do sign (lit "&"); require (!(← rest).head?.any (·.is '&'))]

/-- Simple types with joints between them. -/
def joinedType (r : Rules) : Reader Unit := do
  let simple := r.simpleType 16
  let _ ← maybe typeJoint
  simple
  let _ ← many do
    typeJoint
    simple

/-- A type. -/
def readType (r : Rules) : Reader Unit := inBrackets do
  r.joinedType
  let _ ← maybe do
    keyword (lit "extends")
    r.joinedType
    let _ ← maybe do
      keyword (lit "extends")
      r.joinedType
    sign (lit "?")
    r.type
    sign (lit ":")
    r.type

/-- A type with the colon before it. A comment right before the type belongs to it. -/
def statedType (r : Rules) : Reader Node := do
  whereTyped
  let annotation ← node .statedType do
    sign (lit ":")
    let blanks := (← rest).takeWhile isSpace
    modify (Cursor.skip blanks.length)
    let leading ← maybe (nodeHere .comment do
      require (Text.startsWith (← rest) (lit "//") || Text.startsWith (← rest) (lit "/*"))
      let before ← get
      let n := if Text.startsWith before.rest (lit "//") then
          (before.rest.takeWhile fun c => !isLineEnd c && !c.is '\r').length
        else ((Text.splitAtFirst? (lit "*/") (before.rest.drop 2)).elim before.left
          fun (body, _) => body.length + 4)
      modify (Cursor.skip n)
      return [])
    let type ← other do
      r.type
      let _ ← maybe do
        require (!(← onNewRow))
        keyword (lit "is")
        r.type
      return []
    return leading.toList ++ [type]
  return annotation.as .type

end Rules

end HelpCenter.Syntax

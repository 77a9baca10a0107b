import HelpCenter.Syntax.TypeNotation

/-!
# Markup

Elements in angle brackets with attributes, text, character references, and expressions in
braces. Text is read as it stands: blanks and what looks like a comment belong to it.
-/

namespace HelpCenter.Syntax

namespace Rules

open Reader

/-- A name in markup, which may hold hyphens, with parts after colons or dots. -/
def markupName : Reader Unit := do
  let part : Reader Unit := do
    gap
    let front ← rest
    require (front.head?.any isWordStart)
    let _ ← takeWhile fun c => isWordPart c || c.is '-'
  part
  let _ ← many do
    sign (lit ":") <|> sign (lit ".")
    part

/-- An expression or nothing in braces; three dots may stand before the expression. -/
def embedded (r : Rules) : Reader Node := node .embedded do
  sign (lit "\x7b")
  let content ← inBrackets (maybe ((other do
    sign (lit "...")
    return [← r.assignment]) <|> r.expression))
  sign (lit "\x7d")
  return content.toList

/-- A string in markup; it ends at its quote whatever comes before. -/
def markupString : Reader Node := node .string do
  match (← rest).head? with
  | none => failure
  | some quote =>
    require (quote.is '"' || quote.is '\'')
    modify Cursor.next
    let _ ← takeWhile (· ≠ quote)
    exactly [quote]
    return []

/-- An attribute: a name, and maybe a value. -/
def attr (r : Rules) : Reader Node := node .attr do
  let name ← node .other do markupName; return []
  let value ← maybe do
    sign (lit "=")
    firstOf [markupString, r.embedded, r.element]
  return name :: value.toList

/-- The name in a tag with its attributes. -/
def tagContent (r : Rules) : Reader (List Node) := do
  let name ← node .other do markupName; return []
  let _ ← maybe r.typeArguments
  let attributes ← many (r.attr <|> r.embedded)
  return name.as .name :: attributes

/-- The length of a character reference at the front of a text. -/
def referenceLength? (t : Text) : Option Nat :=
  let closed := fun (before : Nat) (name : Text) (least most : Nat) =>
    if least ≤ name.length && name.length ≤ most
        && ((t.drop (before + name.length)).head?.any (·.is ';')) then
      some (before + name.length + 1)
    else none
  match t with
  | a :: b :: rest =>
    if !a.is '&' then none
    else if b.is '#' then
      if rest.head?.any fun c => c.is 'x' || c.is 'X' then
        closed 3 ((rest.drop 1).takeWhile CodePoint.isHexDigit) 1 6
      else closed 2 (rest.takeWhile CodePoint.isDigit) 1 5
    else closed 1 ((b :: rest).takeWhile CodePoint.isLetter) 1 30
  | _ => none

/-- Whether a code point belongs to a run of text. -/
def isMarkupText (c : CodePoint) : Bool :=
  !c.is '<' && !c.is '>' && !c.is '\x7b' && !c.is '\x7d' && !c.is '&'

/-- A part of the content of an element. -/
def content (r : Rules) : Reader Node := firstOf [
  nodeHere .markupText do
    require !(← takeWhile isMarkupText).isEmpty
    return [],
  nodeHere .characterReference do
    pass (referenceLength? (← rest))
    return [],
  nodeHere .other do
    require ((← rest).head?.any fun c => c.is '&' || c.is '>')
    modify Cursor.next
    return [],
  r.embedded,
  do
    require !(← couldRead do sign (lit "<"); sign (lit "/"))
    r.element]

/-- The closing tag of an element, with a name if the opening tag has one. -/
def closingTag (named : Bool) : Reader Unit := do
  sign (lit "<")
  sign (lit "/")
  if named then markupName
  sign (lit ">")

/-- An opening tag, or a tag that closes itself; only the former may lack a name. -/
def openingTag (r : Rules) : Reader Node := span do
  sign (lit "<")
  let parts ← inBrackets (r.tagContent <|> return [])
  let closed ← accept (lit "/")
  sign (lit ">")
  require !(closed && parts.isEmpty)
  return (if closed then Kind.selfClosingElement else .openingElement, parts)

/-- An element. -/
def readElement (r : Rules) : Reader Node := span do
  let tag ← r.openingTag
  if tag.kind = .selfClosingElement then return (.selfClosingElement, tag.children)
  let content ← inBrackets (many r.content)
  closingTag !tag.children.isEmpty
  return (.element, tag :: content)

end Rules

end HelpCenter.Syntax

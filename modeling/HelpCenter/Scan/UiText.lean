import HelpCenter.Scan.Component
import HelpCenter.Syntax.StringValue
import HelpCenter.Text.Reference
import HelpCenter.Wording.Basic

/-!
# Texts of the user interface in a source

Attributes that users read, and the content of elements, as far as they read like copy.
-/

namespace HelpCenter

open Syntax

namespace SourceUnit

/-- The attributes whose values users read. -/
def textAttributes : List Text := List.map Text.ofString [
  "placeholder", "title", "alt", "aria-label", "label", "children", "text", "message",
  "description", "content"]

/-- The component that the given nodes, the nearest first, stand in. -/
def enclosingComponent? : List Node → Option Text
  | [] => none
  | n :: around =>
    let named := fun (d : Node) => isPascalCase (d.childText .name)
    if n.kind = .functionDeclaration && named n then some (n.childText .name)
    else
      match n.isFunctionValue, around.head? with
      | true, some d =>
        if d.kind = .variableDeclarator && named d then some (d.childText .name)
        else enclosingComponent? around
      | _, _ => enclosingComponent? around

/-- The text that a part of an element's content gives, if any. -/
def contentText? (n : Node) : Except Failure (Option Text) :=
  let unlessEmpty := fun (t : Text) => if t.isEmpty then none else some t
  match n.kind with
  | .markupText => .ok (unlessEmpty (Text.trim (Text.collapseBlanks n.text)))
  | .characterReference => .ok (some (Reference.decode n.text))
  | .embedded => do return (← n.literal?).bind unlessEmpty
  | _ => .ok none

/-- The text between the tags of an element, other elements in it left out. -/
def elementText (n : Node) : Except Failure Text := do
  let parts ← n.children.mapM contentText?
  return Text.joinWith (lit " ") (parts.filterMap id)

/-- The texts that a tag gives: its attributes, then the content of its element. -/
def textsOfTag (path : Text) (v : Visit) : Except Failure (List UiText) := do
  let kind := Wording.kindOfTag v.node.tagName
  let component := ((enclosingComponent? v.around).map Json.str).getD .null
  let read := v.node.attributes.filter fun (_, name, _) => textAttributes.contains name
  let fromAttributes ← read.mapM fun (attr, name, value?) => do
    match ← value?.elim (.ok none) Node.attributeLiteral? with
    | some value =>
      if Wording.isUserFacing value then
        return some {
          value, component, sourceFile := path, line := attr.line
          kind := if name = lit "placeholder" then name else kind : UiText }
      else return none
    | none => return none
  let content ← match v.node.kind, v.parent? with
    | .openingElement, some element => elementText element
    | _, _ => .ok []
  let fromContent : List UiText := if Wording.isUserFacing content then
      [{ value := content, component, sourceFile := path, line := v.node.line, kind }]
    else []
  return fromAttributes.filterMap id ++ fromContent

/-- The texts of a source that users see. -/
def texts (u : SourceUnit) : Except Failure (List UiText) := do
  let perTag ← (u.tree.visitsOf [.openingElement, .selfClosingElement]).mapM (textsOfTag u.path)
  return perTag.flatten

end SourceUnit

end HelpCenter

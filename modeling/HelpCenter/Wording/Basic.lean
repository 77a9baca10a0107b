import HelpCenter.Text.Case
import HelpCenter.Text.Search

/-!
# What reads like copy

A text shown to users is told from an identifier, a path, a piece of code or a constant. The tag
around a text says what kind of copy it is.
-/

namespace HelpCenter.Wording

/-- Whether a code point is a letter `a` to `z` when case is ignored. Two characters outside
ASCII have such letters as their upper case. -/
def isCaselessLetter (c : CodePoint) : Bool :=
  let l := c.lower
  CodePoint.between 'a' 'z' l || l.toNat == 0x17F || l.toNat == 0x131

/-- Whether the text is an identifier; one line feed at the end is overlooked. -/
def isIdentifier (value : Text) : Bool :=
  match if value.getLast? = some '\n' then value.dropLast else value with
  | c :: rest =>
    (isCaselessLetter c || c = '_') && rest.all fun d => isCaselessLetter d || d = '_' || d.isDigit
  | [] => false

/-- Whether a text reads like copy rather than code. -/
def isUserFacing (value : Text) : Bool :=
  2 ≤ value.length
    && !isIdentifier value
    && !Text.startsWith value (lit "/")
    && !Text.startsWith value (lit "http")
    && !Text.hasInfix (lit "=>") value
    && !Text.hasInfix (lit "()") value
    && !(value = Text.toUpper value && 3 < value.length)

/-- Whether a tag is one of the six headings; one line feed at the end is overlooked. -/
def isHeading (tag : Text) : Bool :=
  match if tag.getLast? = some '\n' then tag.dropLast else tag with
  | [h, d] => h = 'h' && CodePoint.between '1' '6' d
  | _ => false

/-- The kind of copy that stands in an element with this tag. -/
def kindOfTag (tag : Text) : Text :=
  let tag := Text.toLower tag
  if isHeading tag then lit "heading"
  else if tag = lit "button" then lit "button"
  else if tag = lit "label" then lit "label"
  else if tag = lit "input" || tag = lit "textarea" then lit "placeholder"
  else if Text.hasInfix (lit "error") tag || Text.hasInfix (lit "alert") tag then lit "error"
  else lit "other"

end HelpCenter.Wording

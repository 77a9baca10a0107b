import HelpCenter.Article.Plan
import HelpCenter.Json.Reader
import HelpCenter.Text.Blank

/-!
# Replies

A model is asked for a JSON object and often puts it into a fenced block with words around it. A
reply without any object is taken as the article's content.
-/

namespace HelpCenter.Reply

/-- Whether a fence follows, with blanks before it or not. -/
def fenceFollows (t : Text) : Bool :=
  Text.startsWith (t.dropWhile CodePoint.isBlank) (lit "```")

/-- The longest front part that ends in a closing brace before a fence. -/
def bodyBeforeFence? : Text → Option Text
  | [] => none
  | c :: t =>
    match bodyBeforeFence? t with
    | some body => some (c :: body)
    | none => if c.is '\x7d' && fenceFollows t then some [c] else none

/-- The object in a fenced block that begins here. -/
def fencedHere? (t : Text) : Option Text := do
  let inside ← Text.afterPrefix? (lit "```") t
  let inside := (Text.afterPrefix? (lit "json") inside).getD inside
  match inside.dropWhile CodePoint.isBlank with
  | c :: rest => if c.is '\x7b' then (c :: ·) <$> bodyBeforeFence? rest else none
  | [] => none

/-- The object in the first fenced block that holds one. -/
def fenced? : Text → Option Text
  | [] => none
  | c :: t => (fencedHere? (c :: t)).or (fenced? t)

/-- The members of the first text that is a JSON object; other texts are passed over, but an
integer too long to be read is a failure. -/
def firstObject? : List Text → Except DataFault (Option (List (Text × Json)))
  | [] => .ok none
  | t :: rest =>
    match Json.parse t with
    | .ok (.obj members) => .ok (some members)
    | .error .hugeInteger => .error .unreadable
    | _ => firstObject? rest

/-- The value as a text, if it is one that is not blank. -/
def filledText? : Option Json → Option Text
  | some (.str t) => if Text.isBlank t then none else some t
  | _ => none

/-- The draft in a reply. -/
def draft (t : Text) (fallbackTitle : Text) : Except DataFault Draft := do
  let trimmed := Text.trim t
  match ← firstObject? (trimmed :: (fenced? t).toList) with
  | none => return ⟨fallbackTitle, [], trimmed⟩
  | some members =>
    let member (name : String) := Json.member? (lit name) members
    return {
      title := ((filledText? (member "title")).map Text.trim).getD fallbackTitle
      pages :=
        match member "pages" with
        | some (.arr pages) => pages.filterMap Json.str?
        | _ => []
      content := (filledText? (member "content")).getD trimmed }

/-- An estimate of the tokens used, a quarter of the characters read and written. -/
def estimateTokens (context content : Text) : Nat :=
  roundHalfEven (context.length + content.length) 4

end HelpCenter.Reply

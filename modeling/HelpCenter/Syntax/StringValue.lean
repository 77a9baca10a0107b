import HelpCenter.Syntax.Escape
import HelpCenter.Syntax.Node
import HelpCenter.Text.Utf16

/-!
# Values of strings

The text that a string of a source stands for: what is between its quotes, with each escape
sequence replaced by what it names and surrogate pairs joined. In an attribute of markup a string
has no escapes.
-/

namespace HelpCenter.Syntax

/-- An octal digit. -/
def isOctal (c : CodePoint) : Bool := CodePoint.between '0' '7' c

/-- How many code points after a backslash belong to its escape sequence. -/
def escapeLength : Text → Nat
  | [] => 0
  | c :: rest =>
    if isOctal c then 1 + ((rest.take 2).takeWhile isOctal).length
    else if c.is 'x' then 3
    else if c.is 'u' then
      if rest.head?.any (·.is '\x7b') then
        3 + ((rest.drop 1).takeWhile CodePoint.isHexDigit).length
      else 5
    else if (c.is '\r' || c.is '?') &&
        rest.head?.any (fun d => d.is '\n' || d.toNat == 0x2028 || d.toNat == 0x2029) then 2
    else 1

/-- Replaces the escape sequences in what stands between the quotes of a string. -/
def decodeContent (t : Text) : Except Failure Text :=
  match t with
  | [] => .ok []
  | c :: rest =>
    if c.is '\\' then do
      let n := escapeLength rest
      let d ← Escape.decode (c :: rest.take n)
      return d ++ (← decodeContent (rest.drop n))
    else do return c :: (← decodeContent rest)
termination_by t.length
decreasing_by
  · simp only [List.length_drop, List.length_cons]; omega
  · simp only [List.length_cons]; omega

/-- The value of what stands between the quotes of a string. -/
def stringValue (content : Text) : Except Failure Text :=
  (decodeContent content).map Text.joinPairs

namespace Node

/-- The text of a string between its quotes. -/
def quoted (n : Node) : Text := (n.text.drop 1).dropLast

/-- The value of a string or of braces around nothing but a string; other nodes have none. -/
def literal? (n : Node) : Except Failure (Option Text) :=
  let value := fun (s : Node) => do return some (← stringValue s.quoted)
  match n.kind, n.children with
  | .string, _ => value n
  | .embedded, [inner] => if inner.kind = .string then value inner else .ok none
  | _, _ => .ok none

/-- The value of a node that stands in an attribute, where a string is taken as it is. -/
def attributeLiteral? (n : Node) : Except Failure (Option Text) :=
  if n.kind = .string then .ok (some n.quoted) else n.literal?

end Node

end HelpCenter.Syntax

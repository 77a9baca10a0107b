import HelpCenter.Yaml.Cursor
import HelpCenter.Yaml.Kind

/-!
# Styles of scalars

A text is written plain where it reads back as the same text, in single quotes where its line
breaks and blanks allow that, and in double quotes otherwise.
-/

namespace HelpCenter.Yaml

/-- How a scalar is written. -/
inductive ScalarStyle where
  | plain
  | single
  | double
deriving DecidableEq

/-- Whether a character breaks lines when written. -/
def isWrittenBreak (c : CodePoint) : Bool :=
  c.is '\n' || c.toNat == 0x85 || c.toNat == 0x2028 || c.toNat == 0x2029

/-- Whether a character separates words or lines, the null character included. -/
def isWrittenGap (c : CodePoint) : Bool :=
  isWrittenBreak c || c.is ' ' || c.is '\t' || c.is '\r' || c.toNat == 0

/-- Whether a character can stand for itself outside double quotes. -/
def isPrinted (c : CodePoint) : Bool :=
  let n := c.toNat
  c.is '\n' || (0x20 ≤ n && n ≤ 0x7E) || n == 0x85 ||
    ((0xA0 ≤ n && n ≤ 0xD7FF) || (0xE000 ≤ n && n ≤ 0xFFFD) || (0x10000 ≤ n && n < 0x10FFFF)) &&
      n != 0xFEFF

/-- Whether the first of two neighbours has one property and the second another. -/
def hasNeighbours (p q : CodePoint → Bool) : Text → Bool
  | a :: b :: t => (p a && q b) || hasNeighbours p q (b :: t)
  | _ => false

/-- Whether the text starts or ends with a character of a kind. -/
def hasAtEdge (p : CodePoint → Bool) (t : Text) : Bool := t.head?.any p || t.getLast?.any p

/-- Whether a gap or the end follows. -/
def gapFollows : Text → Bool
  | [] => true
  | c :: _ => isWrittenGap c

/-- A lower case hexadecimal digit as a capital one. -/
def capitalHex (c : CodePoint) : CodePoint :=
  if CodePoint.between 'a' 'f' c then CodePoint.ofNat (c.toNat - 32) else c

/-- Whether a character is one of those in a text. -/
def isOneOf (chars : String) (c : CodePoint) : Bool := (lit chars).contains c

/-- Whether marks inside the text, after the first character, give it a structure in a block. -/
def hasBlockMarks : (afterGap : Bool) → Text → Bool
  | _, [] => false
  | afterGap, c :: t =>
    (c.is ':' && gapFollows t) || (c.is '#' && afterGap) || hasBlockMarks (isWrittenGap c) t

/-- Whether the text starts like a document. -/
def startsLikeDocument (t : Text) : Bool :=
  Text.startsWith t (lit "---") || Text.startsWith t (lit "...")

/-- Whether a plain text would be taken for structure in a block. -/
def hasBlockIndicators (t : Text) : Bool :=
  match t with
  | [] => false
  | c :: rest =>
    startsLikeDocument t || isOneOf "#,[]\x7b\x7d&*!|>'\"%@`" c ||
      (isOneOf "?:-" c && gapFollows rest) || hasBlockMarks (isWrittenGap c) rest

/-- Whether a plain text would be taken for structure in a flow. -/
def hasFlowIndicators (t : Text) : Bool :=
  match t with
  | [] => false
  | c :: rest =>
    hasBlockIndicators t || isOneOf "?:" c || rest.any (isOneOf ",?[]\x7b\x7d:")

/-- Whether the text has more than one line. -/
def isMultiline (t : Text) : Bool := t.any isWrittenBreak

/-- Whether the text can be plain as far as its characters go. -/
def canBePlain (inFlow : Bool) (t : Text) : Bool :=
  if t.isEmpty then !inFlow
  else
    !hasAtEdge (CodePoint.is ' ') t && !isMultiline t && t.all isPrinted &&
      !(if inFlow then hasFlowIndicators t else hasBlockIndicators t)

/-- Whether the text can be in single quotes. -/
def canBeSingle (t : Text) : Bool :=
  t.all isPrinted && !hasNeighbours (CodePoint.is ' ') isWrittenBreak t &&
    !hasNeighbours isWrittenBreak (CodePoint.is ' ') t

/-- The style of a text; a key on one line cannot be empty or have several lines. -/
def textStyle (inFlow isKey : Bool) (t : Text) : ScalarStyle :=
  if implicitTag t = coreTag "str" && canBePlain inFlow t && !(isKey && t.isEmpty) then .plain
  else if canBeSingle t && !(isKey && isMultiline t) then .single
  else .double

end HelpCenter.Yaml

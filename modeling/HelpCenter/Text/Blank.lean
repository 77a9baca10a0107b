import HelpCenter.Text.RangeTable

/-!
# Blank characters and trimming

The whitespace that trimming removes: every Unicode character with a white space, paragraph or
segment separator direction.
-/

namespace HelpCenter

/-- The blank characters. -/
def blankTable : RangeTable := [
  (9, 13), (28, 32), (133, 133), (160, 160), (5760, 5760), (8192, 8202), (8232, 8233),
  (8239, 8239), (8287, 8287), (12288, 12288)]

/-- Whether a code point is white space. -/
def CodePoint.isBlank (c : CodePoint) : Bool := blankTable.contains c.toNat

namespace Text

/-- Removes the longest prefix whose code points satisfy `p`. -/
def trimLeftBy (p : CodePoint → Bool) (t : Text) : Text := t.dropWhile p

/-- Removes the longest suffix whose code points satisfy `p`. -/
def trimRightBy (p : CodePoint → Bool) (t : Text) : Text := (t.reverse.dropWhile p).reverse

/-- Removes code points that satisfy `p` from both ends. -/
def trimBy (p : CodePoint → Bool) (t : Text) : Text := trimRightBy p (trimLeftBy p t)

/-- Removes white space from the start. -/
def trimLeft (t : Text) : Text := trimLeftBy CodePoint.isBlank t

/-- Removes white space from the end. -/
def trimRight (t : Text) : Text := trimRightBy CodePoint.isBlank t

/-- Removes white space from both ends. -/
def trim (t : Text) : Text := trimBy CodePoint.isBlank t

/-- Whether the text holds nothing but white space. -/
def isBlank (t : Text) : Bool := t.all CodePoint.isBlank

/-- Each run of white space becomes one space. -/
def collapseBlanks : Text → Text
  | [] => []
  | c :: rest =>
    if c.isBlank then
      match rest with
      | [] => [(' ' : CodePoint)]
      | d :: _ => if d.isBlank then collapseBlanks rest else ' ' :: collapseBlanks rest
    else c :: collapseBlanks rest

end Text

end HelpCenter

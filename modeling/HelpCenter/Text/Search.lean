import HelpCenter.Text.Basic

/-!
# Searching, splitting and joining
-/

namespace HelpCenter.Text

/-- The text after `lead`, if it starts with it. -/
def afterPrefix? : (lead t : Text) → Option Text
  | [], t => some t
  | _ :: _, [] => none
  | a :: lead, b :: t => if a = b then afterPrefix? lead t else none

/-- Whether the text starts with `lead`. -/
def startsWith (t lead : Text) : Bool := (afterPrefix? lead t).isSome

/-- Whether the text ends with `tail`. -/
def endsWith (t tail : Text) : Bool := startsWith t.reverse tail.reverse

/-- Whether `part` stands somewhere in the text. -/
def hasInfix (part : Text) : Text → Bool
  | [] => part.isEmpty
  | c :: t => startsWith (c :: t) part || hasInfix part t

/-- What stands before and after the first occurrence of `part`, which is not empty. -/
def splitAtFirst? (part : Text) : Text → Option (Text × Text)
  | [] => none
  | c :: t =>
    match afterPrefix? part (c :: t) with
    | some rest => some ([], rest)
    | none => (splitAtFirst? part t).map fun (l, r) => (c :: l, r)

/-- The pieces between the separators; always at least one. -/
def splitOn (sep : CodePoint) : Text → List Text
  | [] => [[]]
  | c :: t =>
    if c = sep then [] :: splitOn sep t
    else
      match splitOn sep t with
      | [] => [[c]]
      | piece :: rest => (c :: piece) :: rest

/-- What stands before and after the first separator, the whole text and nothing without one. -/
def cutAtFirst (sep : CodePoint) (t : Text) : Text × Text :=
  (t.takeWhile (· ≠ sep), (t.dropWhile (· ≠ sep)).drop 1)

/-- The last piece between separators. -/
def lastPiece (sep : CodePoint) (t : Text) : Text := (t.reverse.takeWhile (· ≠ sep)).reverse

/-- The texts one after the other with `sep` between neighbours. -/
def joinWith (sep : Text) : List Text → Text
  | [] => []
  | [t] => t
  | t :: u :: rest => t ++ sep ++ joinWith sep (u :: rest)

/-- Replaces every occurrence of one code point by a text. -/
def substitute (c : CodePoint) (by_ : Text) (t : Text) : Text :=
  t.flatMap fun d => if d = c then by_ else [d]

/-- Replaces occurrences of `part`, from the left and without overlap, looking no further than
`fuel` code points. -/
def replaceFrom (part by_ : Text) : Nat → Text → Text
  | 0, t => t
  | _ + 1, [] => []
  | fuel + 1, c :: t =>
    match afterPrefix? part (c :: t) with
    | some rest => by_ ++ replaceFrom part by_ fuel rest
    | none => c :: replaceFrom part by_ fuel t

/-- Replaces every occurrence of `part`, which is not empty. -/
def replaceAll (part by_ t : Text) : Text := replaceFrom part by_ t.length t

/-- The lines of a text, without their line feeds; a final line feed ends the last line. -/
def lines (t : Text) : List Text :=
  match (splitOn '\n' t).reverse with
  | [] :: rest => rest.reverse
  | all => all.reverse

/-- Carriage returns, alone or before a line feed, become line feeds. -/
def normalizeNewlines : Text → Text
  | [] => []
  | c :: t =>
    if c = '\r' then
      match t with
      | [] => [CodePoint.ofChar '\n']
      | d :: _ =>
        if d = '\n' then normalizeNewlines t
        else '\n' :: normalizeNewlines t
    else c :: normalizeNewlines t

end HelpCenter.Text

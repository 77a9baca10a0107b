import HelpCenter.Text.Search
import HelpCenter.Text.Utf8

/-!
# Addresses of requests

An address is a path and, behind a question mark, a query. In both, a percent sign with two
hexadecimal digits stands for a byte of UTF-8.
-/

namespace HelpCenter

/-- The address of a request. -/
structure Address where
  path : Text
  query : List (Text × Text) := []

namespace Address

/-- The bytes that a text with percent signs stands for; a percent sign without two hexadecimal
digits stands for itself. -/
def percentBytes : Text → Bytes
  | [] => []
  | [a] => a.utf8
  | [a, b] => a.utf8 ++ b.utf8
  | a :: b :: c :: t =>
    match a.is '%', b.hexValue?, c.hexValue? with
    | true, some high, some low => (16 * high + low).toUInt8 :: percentBytes t
    | _, _, _ => a.utf8 ++ percentBytes (b :: c :: t)

/-- The text that a text with percent signs stands for. -/
def percentDecode (t : Text) : Text := Utf8.decodeReplacing (percentBytes t)

/-- The path without single dots and with each double dot taking back the name before it, unless
only the root is left. -/
def removeDots (path : Text) : Text :=
  let step := fun (made : List Text) (name : Text) =>
    if name = lit "." then made
    else if name = lit ".." then if made = [[]] then made else made.dropLast
    else made ++ [name]
  Text.joinWith (lit "/") ((Text.splitOn '/' path).foldl step [])

/-- A name or value of a query. -/
def queryText (t : Text) : Text := percentDecode (Text.substitute '+' (lit " ") t)

/-- The names and values of a query. -/
def queryOfText (t : Text) : List (Text × Text) :=
  ((Text.splitOn '&' t).filter fun piece => !piece.isEmpty).map fun piece =>
    let (name, value) := Text.cutAtFirst '=' piece
    (queryText name, queryText value)

/-- Reads an address. The path is decoded twice, as it passes through the client and the server. -/
def ofText (t : Text) : Address where
  path :=
    let path := (t.takeWhile fun c => !c.is '#').takeWhile fun c => !c.is '?'
    let names := path.dropWhile (CodePoint.is '/')
    percentDecode (percentDecode (removeDots ('/' :: names)))
  query := queryOfText (Text.cutAtFirst '?' (t.takeWhile fun c => !c.is '#')).2

/-- The value of a name in the query, the last one if there are several. -/
def value? (a : Address) (name : String) : Option Text := a.query.reverse.lookup (lit name)

end Address

end HelpCenter

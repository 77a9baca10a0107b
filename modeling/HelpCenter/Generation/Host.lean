import HelpCenter.Text.RangeTable
import HelpCenter.Text.Search

/-!
# Hosts of addresses

An address behind whose scheme two slashes follow names a host. Brackets in it must be a pair
around an address of version 6 or later, and no character may stand for one of the signs that
would end the host.
-/

namespace HelpCenter.Url

/-- A character that a scheme can be made of. -/
def isSchemeChar (c : CodePoint) : Bool :=
  c.isLetter || c.isDigit || c.is '+' || c.is '-' || c.is '.'

/-- The address without the scheme in front. -/
def withoutScheme (t : Text) : Text :=
  let scheme := t.takeWhile fun c => !c.is ':'
  match t.drop scheme.length with
  | _ :: rest =>
    if scheme.head?.any CodePoint.isLetter && scheme.all isSchemeChar then rest else t
  | [] => t

/-- The host that an address names, with the port and what stands before it; controls at the front
and line breaks do not count. -/
def host (url : Text) : Text :=
  let url := url.dropWhile fun c => c.toNat ≤ 32
  let url := url.filter fun c => !(c.is '\t' || c.is '\r' || c.is '\n')
  match Text.afterPrefix? (lit "//") (withoutScheme url) with
  | some rest => rest.takeWhile fun c => !(c.is '/' || c.is '?' || c.is '#')
  | none => []

/-- A number from 0 to 255 without zeros in front. -/
def isOctet (t : Text) : Bool :=
  !t.isEmpty && t.length ≤ 3 && t.all CodePoint.isDigit && (t.length = 1 || t.head? ≠ some '0') &&
    t.foldl (fun n c => n * 10 + (c.toNat - 48)) 0 ≤ 255

/-- Four numbers with points between them. -/
def isDotted (t : Text) : Bool :=
  let parts := Text.splitOn '.' t
  parts.length = 4 && parts.all isOctet

/-- One to four hexadecimal digits. -/
def isGroup (t : Text) : Bool := !t.isEmpty && t.length ≤ 4 && t.all CodePoint.isHexDigit

/-- The groups of an address; four numbers with points at its end stand for two of them. -/
def groups? (t : Text) : Option (List Text) :=
  let parts := Text.splitOn ':' t
  let last := parts.getLast?.getD []
  if last.contains '.' then
    if isDotted last then some (parts.dropLast ++ [lit "0", lit "0"]) else none
  else some parts

/-- Whether groups make an address: eight of them, or fewer with one gap between two colons. -/
def areGroups (groups : List Text) : Bool :=
  -- A gap at the edge leaves an empty group on its outer side as well.
  let side (part : List Text) : List Text := if part = [[]] then [] else part
  let inner := groups.tail.dropLast
  let before := (inner.takeWhile fun g => !g.isEmpty).length + 1
  if before ≤ inner.length then
    let run := side (groups.take before) ++ side (groups.drop (before + 1))
    run.length ≤ 7 && run.all isGroup
  else groups.length = 8 && groups.all isGroup

/-- Whether a text is an address of version 6; a zone may follow a percent sign. -/
def isGroupedAddress (t : Text) : Bool :=
  let (address, zone) := Text.cutAtFirst '%' t
  (groups? address).any areGroups &&
    (!t.contains '%' || !zone.isEmpty && !zone.contains '%')

/-- Whether a text is an address of a later version: its number, a point and more. -/
def isLaterAddress (t : Text) : Bool :=
  match t with
  | v :: rest =>
    let number := rest.takeWhile CodePoint.isHexDigit
    let behind := rest.drop number.length
    v.is 'v' && !number.isEmpty && behind.head? = some '.' && 2 ≤ behind.length
  | [] => false

/-- Whether brackets in a host are a pair around an address that belongs there. -/
def hasGoodBrackets (host : Text) : Bool :=
  if host.contains '[' && host.contains ']' then
    let inside := (Text.cutAtFirst ']' (Text.cutAtFirst '[' host).2).1
    if inside.head? = some 'v' then isLaterAddress inside else isGroupedAddress inside
  else !host.contains '[' && !host.contains ']'

/-- The characters that are wide, small or joined forms of a slash, a question mark, a number sign,
an at sign or a colon. -/
def signForms : RangeTable := [
  (0x2047, 0x2049), (0x2100, 0x2101), (0x2105, 0x2106), (0x2A74, 0x2A74), (0xFE13, 0xFE13),
  (0xFE16, 0xFE16), (0xFE55, 0xFE56), (0xFE5F, 0xFE5F), (0xFE6B, 0xFE6B), (0xFF03, 0xFF03),
  (0xFF0F, 0xFF0F), (0xFF1A, 0xFF1A), (0xFF1F, 0xFF20)]

/-- Whether the host of an address can be one. -/
def hasGoodHost (url : Text) : Bool :=
  hasGoodBrackets (host url) && !(host url).any fun c => signForms.contains c.toNat

end HelpCenter.Url

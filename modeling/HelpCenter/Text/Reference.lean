import HelpCenter.Text.Blank
import HelpCenter.Text.ReferenceTable

/-!
# Character references

Markup may write a character as a number or by its name between an ampersand and a semicolon.
-/

namespace HelpCenter.Reference

/-- What the numbers from `0x80` to `0x9F` stand for. -/
def controlTable : List Nat := [
  0x20AC, 0x81, 0x201A, 0x192, 0x201E, 0x2026, 0x2020, 0x2021, 0x2C6, 0x2030, 0x160, 0x2039,
  0x152, 0x8D, 0x17D, 0x8F, 0x90, 0x2018, 0x2019, 0x201C, 0x201D, 0x2022, 0x2013, 0x2014, 0x2DC,
  0x2122, 0x161, 0x203A, 0x153, 0x9D, 0x17E, 0x178]

/-- Whether a number is a control or no character, so that a reference to it is dropped. -/
def isDropped (n : Nat) : Bool :=
  (1 ≤ n && n ≤ 8) || n == 0xB || (0xE ≤ n && n ≤ 0x1F) || n == 0x7F
    || (0xFDD0 ≤ n && n ≤ 0xFDEF) || 0xFFFE ≤ n % 0x10000

/-- The text of a reference by number. -/
def ofNumber (n : Nat) : Text :=
  if n = 0 then [CodePoint.replacement]
  else if 0x80 ≤ n && n ≤ 0x9F then
    (controlTable[n - 0x80]?).toList.map CodePoint.ofNat
  else if (0xD800 ≤ n && n ≤ 0xDFFF) || 0x10FFFF < n then [CodePoint.replacement]
  else if isDropped n then []
  else [CodePoint.ofNat n]

/-- The number of a run of decimal digits. -/
def decimal (t : Text) : Nat := t.foldl (fun n c => 10 * n + (c.toNat - 48)) 0

/-- The text of a reference by name. A name that is unknown is cut to the longest front that may
stand without a semicolon and has at least two letters. -/
def ofName (name : Text) : Text :=
  match referenceNames.lookup name with
  | some t => t
  | none =>
    let fronts := (List.range name.length).reverse.filter (2 ≤ ·)
    match fronts.find? fun n => looseReferenceNames.contains (name.take n) with
    | some n => (referenceNames.lookup (name.take n)).getD [] ++ name.drop n ++ lit ";"
    | none => lit "&" ++ name ++ lit ";"

/-- The text that a reference stands for, which is given with its ampersand and semicolon. -/
def decode (reference : Text) : Text :=
  let body := (reference.drop 1).dropLast
  match body with
  | c :: rest =>
    if c.is '#' then
      match rest with
      | d :: digits =>
        if d.is 'x' || d.is 'X' then ofNumber (Text.hexNumber digits)
        else ofNumber (decimal rest)
      | [] => reference
    else ofName body
  | [] => reference

end HelpCenter.Reference

import HelpCenter.Text.CaseTable

/-!
# Changing case

The full case mappings. A capital sigma is lowered to the final form where a word ends. Two
characters are equal without case if their lower case forms are the same or are listed as variants
of each other.
-/

namespace HelpCenter

namespace CodePoint

/-- Lower case, one character for one; this is the form in which case is ignored. -/
def lower (c : CodePoint) : CodePoint := ofNat (lowerTable.apply c.toNat)

/-- Upper case where it is one character, otherwise the character itself. -/
def upperSingle (c : CodePoint) : CodePoint := ofNat (upperTable.apply c.toNat)

/-- Upper case. -/
def upper (c : CodePoint) : Text :=
  match upperSequences.lookup c.toNat with
  | some cs => cs.map ofNat
  | none => [c.upperSingle]

/-- Title case. -/
def title (c : CodePoint) : Text :=
  match titleSequences.lookup c.toNat with
  | some cs => cs.map ofNat
  | none => c.upper

/-- Whether the character makes a sigma next to it part of a word; `none` if it is transparent. -/
def caseContext? (c : CodePoint) : Option Bool :=
  if caseIgnorableTable.contains c.toNat then none else some (casedTable.contains c.toNat)

end CodePoint

namespace Text

/-- Whether the first character that is not transparent has case. -/
def meetsCased : Text → Bool
  | [] => false
  | c :: t => c.caseContext?.getD (meetsCased t)

/-- Lowers a text whose characters before it are `before`, the nearest first. -/
def toLowerAfter (before : Text) : Text → Text
  | [] => []
  | c :: t =>
    let here : Text :=
      if c.toNat = 0x3A3 then
        [CodePoint.ofNat (if meetsCased before && !meetsCased t then 0x3C2 else 0x3C3)]
      else if c.toNat = 0x130 then [CodePoint.ofNat 0x69, CodePoint.ofNat 0x307]
      else [c.lower]
    here ++ toLowerAfter (c :: before) t

/-- Lower case. -/
def toLower (t : Text) : Text := toLowerAfter [] t

/-- Upper case. -/
def toUpper (t : Text) : Text := t.flatMap CodePoint.upper

/-- The first character in title case, all others in lower case. -/
def capitalize : Text → Text
  | [] => []
  | c :: t => c.title ++ toLowerAfter [c] t

end Text

/-! ## Characters that are equal when case is ignored -/

/-- Lower case characters and their variants. -/
def caseVariants : List (Nat × List Nat) := [
  (105, [305]), (115, [383]), (181, [956]), (305, [105]), (383, [115]), (837, [953, 8126]),
  (912, [8147]), (944, [8163]), (946, [976]), (949, [1013]), (952, [977]), (953, [837, 8126]),
  (954, [1008]), (956, [181]), (960, [982]), (961, [1009]), (962, [963]), (963, [962]),
  (966, [981]), (976, [946]), (977, [952]), (981, [966]), (982, [960]), (1008, [954]),
  (1009, [961]), (1013, [949]), (1074, [7296]), (1076, [7297]), (1086, [7298]), (1089, [7299]),
  (1090, [7300, 7301]), (1098, [7302]), (1123, [7303]), (7296, [1074]), (7297, [1076]),
  (7298, [1086]), (7299, [1089]), (7300, [1090, 7301]), (7301, [1090, 7300]), (7302, [1098]),
  (7303, [1123]), (7304, [42571]), (7777, [7835]), (7835, [7777]), (8126, [837, 953]),
  (8147, [912]), (8163, [944]), (42571, [7304]), (64261, [64262]), (64262, [64261])]

namespace CodePoint

/-- The variants of a lower case character, itself first. -/
def variants (c : CodePoint) : List CodePoint :=
  c :: ((caseVariants.lookup c.toNat).getD []).map ofNat

/-- Whether two characters are equal when case is ignored. -/
def sameCaseless (c d : CodePoint) : Bool := c.lower.variants.contains d.lower

/-- The characters whose lower case is `c`. -/
def raised (c : CodePoint) : List CodePoint :=
  let moved := lowerTable.filterMap fun (lo, hi, step, d) =>
    let n := (c.toNat - d : Int)
    if (lo : Int) ≤ n && n ≤ hi && (n - lo) % step == 0 then some (ofNat n.toNat) else none
  if c.lower = c then c :: moved else moved

end CodePoint

end HelpCenter

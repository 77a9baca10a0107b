import HelpCenter.Number.Binary64
import HelpCenter.Text.Search

/-!
# Decimal texts of doubles

A finite double is shown with the fewest digits that read back as it, positional while the
first digit's place is from `10 ^ (-4)` to `10 ^ 15`. A general form with a fixed number of
significant digits drops trailing zeros.
-/

namespace HelpCenter

/-- A positive decimal number `digits * 10 ^ exponent`. -/
structure Decimal where
  digits : Nat
  exponent : Int
deriving DecidableEq

namespace Decimal

/-- The same number without trailing zero digits, dropping at most `fuel` of them. -/
def strip : Nat → Decimal → Decimal
  | 0, d => d
  | fuel + 1, d =>
    if d.digits ≠ 0 ∧ d.digits % 10 = 0 then strip fuel ⟨d.digits / 10, d.exponent + 1⟩ else d

/-- The same number without trailing zero digits. -/
def normalize (d : Decimal) : Decimal := strip (digitCount d.digits) d

/-- The place of the first digit: the number is from `10 ^ place` to below `10 ^ (place + 1)`. -/
def place (d : Decimal) : Int := digitCount d.digits - 1 + d.exponent

end Decimal

/-- How a decimal number is laid out. -/
structure NumberLayout where
  /-- The least place written positionally. -/
  leastPlace : Int
  /-- The first place no longer written positionally. -/
  placeLimit : Int
  /-- Whether a positional number without fraction ends in `.0`. -/
  keepsPoint : Bool

namespace NumberLayout

/-- The layout in which numbers read back. -/
def exact : NumberLayout := ⟨-4, 16, true⟩

/-- The layout for reading at a glance, with `digits` significant digits. -/
def general (digits : Nat) : NumberLayout := ⟨-4, digits, false⟩

/-- Lays out a positive decimal number. -/
def render (layout : NumberLayout) (d : Decimal) : Text :=
  let d := d.normalize
  let digits := Text.ofNat d.digits
  let place := d.place
  if layout.leastPlace ≤ place ∧ place < layout.placeLimit then
    if place < 0 then
      lit "0." ++ List.replicate (-place - 1).toNat ('0' : CodePoint) ++ digits
    else
      let whole := place.toNat + 1
      let padding := List.replicate (whole - digits.length) ('0' : CodePoint)
      let fraction := digits.drop whole
      let tail : Text :=
        if fraction.isEmpty then (if layout.keepsPoint then lit ".0" else [])
        else '.' :: fraction
      digits.take whole ++ padding ++ tail
  else
    let fraction := digits.drop 1
    let point : Text := if fraction.isEmpty then [] else '.' :: fraction
    let mantissa : Text := digits.take 1 ++ point
    let sign : Text := if place < 0 then lit "e-" else lit "e+"
    mantissa ++ sign ++ Text.ofNatPadded 2 place.natAbs

end NumberLayout

namespace Binary64

/-- The place of the first decimal digit of `num / den`, both positive. -/
def leadingPlace (num den : Nat) : Int :=
  if den ≤ num then digitCount (num / den) - 1
  else
    let below := -(digitCount (den / num) : Int)
    if num * Nat.pow 10 (-below - 1).toNat < den then below else below + 1

/-- `num / den` counted in units of `10 ^ exponent`, as a fraction. -/
def inDecimalUnits (num den : Nat) (exponent : Int) : Nat × Nat :=
  if 0 ≤ exponent then (num, den * Nat.pow 10 exponent.toNat)
  else (num * Nat.pow 10 (-exponent).toNat, den)

/-- The decimal with `digits` significant digits nearest to the magnitude of `x` among those that
read back as it. -/
def withDigits? (x : Binary64) (num den digits : Nat) : Option Decimal :=
  let exponent := leadingPlace num den - digits + 1
  let (a, b) := inDecimalUnits num den exponent
  let low := a / b
  let high := low + 1
  let hits (n : Nat) : Bool := ofDecimal x.isNeg n exponent == x
  let nearestFirst :=
    if 2 * (a % b) < b || (2 * (a % b) == b && low % 2 == 0) then [low, high] else [high, low]
  (nearestFirst.find? hits).map (⟨·, exponent⟩)

/-- The shortest decimal that reads back as the magnitude of `x`, trying more and more digits. -/
def shortestFrom (x : Binary64) (num den : Nat) : (digits fuel : Nat) → Decimal
  | digits, 0 => (withDigits? x num den digits).getD ⟨num, 0⟩
  | digits, fuel + 1 =>
    match withDigits? x num den digits with
    | some d => d
    | none => shortestFrom x num den (digits + 1) fuel

/-- The shortest decimal for a finite double's magnitude, which is not zero. -/
def shortest (x : Binary64) : Decimal := shortestFrom x x.units.natAbs one 1 16

/-- The sign in front of a number's text. -/
def signText (x : Binary64) : Text := if x.isNeg then lit "-" else []

/-- The text that reads back: fewest digits, a fraction or an exponent always present. -/
def toText (x : Binary64) : Text :=
  match x with
  | .nan => lit "nan"
  | .infinite _ => x.signText ++ lit "inf"
  | .finite .. =>
    if x.isZero then x.signText ++ lit "0.0"
    else x.signText ++ NumberLayout.exact.render x.shortest

/-- The text with at most `digits` significant digits and no trailing zeros. -/
def toGeneralText (digits : Nat) (x : Binary64) : Text :=
  match x with
  | .nan => lit "nan"
  | .infinite _ => x.signText ++ lit "inf"
  | .finite .. =>
    if x.isZero then x.signText ++ lit "0"
    else
      let num := x.units.natAbs
      let exponent := leadingPlace num one - digits + 1
      let (a, b) := inDecimalUnits num one exponent
      x.signText ++ (NumberLayout.general digits).render ⟨roundHalfEven a b, exponent⟩

end Binary64

end HelpCenter

/-!
# Double precision numbers

A finite double is a sign, a mantissa below `2 ^ 53` and an exponent, counted from the smallest
positive double `2 ^ (-1074)`. The pair is unique, so equality of values is equality of the data,
except that the two zeros differ as data and the program's comparison calls them equal. All
arithmetic is exact and rounded once, to nearest with ties to the even mantissa.
-/

namespace HelpCenter

/-- The quotient of two natural numbers, rounded to nearest, a half to the even neighbour. -/
def roundHalfEven (num den : Nat) : Nat :=
  let q := num / den
  let r := num % den
  if 2 * r < den then q else if den < 2 * r then q + 1 else if q % 2 = 0 then q else q + 1

/-- The number of decimal digits; zero has none. -/
def digitCount (n : Nat) : Nat :=
  if h : n = 0 then 0 else digitCount (n / 10) + 1
termination_by n
decreasing_by omega

/-- Mantissa and exponent of a finite double: the mantissa fills its 53 bits unless the exponent
is the least. -/
def Canonical (mantissa exponent : Nat) : Prop :=
  mantissa < 0x20000000000000 ∧ exponent ≤ 2045 ∧ (exponent = 0 ∨ 0x10000000000000 ≤ mantissa)

instance (m e : Nat) : Decidable (Canonical m e) := by unfold Canonical; infer_instance

/-- A double; a finite one is `± mantissa * 2 ^ exponent` units of `2 ^ (-1074)`. -/
inductive Binary64 where
  | nan
  | infinite (neg : Bool)
  | finite (neg : Bool) (mantissa exponent : Nat) (canonical : Canonical mantissa exponent)
deriving DecidableEq

namespace Binary64

/-- A signed zero. -/
def zero (neg : Bool) : Binary64 := .finite neg 0 0 (by decide)

instance : Inhabited Binary64 := ⟨zero false⟩

/-- How many units of `2 ^ (-1074)` make one. -/
def one : Nat := Nat.pow 2 1074

/-- The double with these parts, infinite where the exponent is too large. -/
def ofParts (neg : Bool) (mantissa exponent : Nat) : Binary64 :=
  if h : Canonical mantissa exponent then .finite neg mantissa exponent h else .infinite neg

/-- The double nearest to `num / den` units. -/
def ofUnits (neg : Bool) (num den : Nat) : Binary64 :=
  let exponent := Nat.log2 (num / den) + 1 - 53
  let mantissa := roundHalfEven num (den * Nat.pow 2 exponent)
  if mantissa = 0x20000000000000 then ofParts neg 0x10000000000000 (exponent + 1)
  else ofParts neg mantissa exponent

/-- The double nearest to `num / den`. -/
def ofRatio (neg : Bool) (num den : Nat) : Binary64 := ofUnits neg (num * one) den

/-- The double nearest to an integer. -/
def ofInt (n : Int) : Binary64 := ofRatio (n < 0) n.natAbs 1

/-- The double nearest to `digits * 10 ^ exponent`. Powers of ten far outside the range are not
computed. -/
def ofDecimal (neg : Bool) (digits : Nat) (exponent : Int) : Binary64 :=
  let magnitude : Int := digitCount digits + exponent
  if digits = 0 || magnitude < -330 then zero neg
  else if 310 < magnitude then .infinite neg
  else if 0 ≤ exponent then ofRatio neg (digits * Nat.pow 10 exponent.toNat) 1
  else ofRatio neg digits (Nat.pow 10 (-exponent).toNat)

/-- The value with the other sign. -/
def negate : Binary64 → Binary64
  | .nan => .nan
  | .infinite neg => .infinite (!neg)
  | .finite neg m e h => .finite (!neg) m e h

/-- Whether the sign is minus. -/
def isNeg : Binary64 → Bool
  | .nan => false
  | .infinite neg => neg
  | .finite neg _ _ _ => neg

/-- Neither infinite nor undefined. -/
def isFinite : Binary64 → Bool
  | .finite .. => true
  | _ => false

/-- Plus or minus zero. -/
def isZero : Binary64 → Bool
  | .finite _ m _ _ => m == 0
  | _ => false

/-- The value of a finite double in units, zero for the others. -/
def units : Binary64 → Int
  | .finite neg m e _ => if neg then -(m * Nat.pow 2 e : Nat) else (m * Nat.pow 2 e : Nat)
  | _ => 0

/-- The sum, rounded. -/
def add : Binary64 → Binary64 → Binary64
  | .nan, _ => .nan
  | _, .nan => .nan
  | .infinite s, .infinite t => if s = t then .infinite s else .nan
  | .infinite s, .finite .. => .infinite s
  | .finite .., .infinite t => .infinite t
  | x@(.finite s ..), y@(.finite t ..) =>
    let sum := x.units + y.units
    if sum = 0 then zero (s && t) else ofUnits (sum < 0) sum.natAbs 1

/-- The product, rounded. -/
def mul : Binary64 → Binary64 → Binary64
  | .nan, _ => .nan
  | _, .nan => .nan
  | .infinite s, y => if y.isZero then .nan else .infinite (s != y.isNeg)
  | x, .infinite t => if x.isZero then .nan else .infinite (x.isNeg != t)
  | .finite s m e _, .finite t m' e' _ =>
    ofUnits (s != t) (m * m' * Nat.pow 2 (e + e')) one

instance : Add Binary64 := ⟨add⟩
instance : Mul Binary64 := ⟨mul⟩

/-- The numeric order; false when either side is undefined. -/
def lt : Binary64 → Binary64 → Bool
  | .nan, _ => false
  | _, .nan => false
  | .infinite s, .infinite t => s && !t
  | .infinite s, .finite .. => s
  | .finite .., .infinite t => !t
  | x, y => x.units < y.units

/-- Whether the value is larger than an integer. -/
def isAbove (n : Int) : Binary64 → Bool
  | .nan => false
  | .infinite neg => !neg
  | x => n * one < x.units

/-- Whether the value is smaller than an integer. -/
def isBelow (n : Int) : Binary64 → Bool
  | .nan => false
  | .infinite neg => neg
  | x => x.units < n * one

/-- Numeric equality: undefined equals nothing, and the two zeros are equal. -/
def same : Binary64 → Binary64 → Bool
  | .nan, _ => false
  | _, .nan => false
  | .infinite s, .infinite t => s == t
  | .finite s m e h, .finite t m' e' h' =>
    (Binary64.finite s m e h).units == (Binary64.finite t m' e' h').units
  | _, _ => false

/-- The first of the two unless the second is smaller. -/
def min (x y : Binary64) : Binary64 := if lt y x then y else x

/-- The first of the two unless the second is larger. -/
def max (x y : Binary64) : Binary64 := if lt x y then y else x

/-- The integer part; undefined and infinite doubles have none. -/
def truncate? : Binary64 → Option Int
  | .finite neg m e _ =>
    let n := m * Nat.pow 2 e / one
    some (if neg then -n else n)
  | _ => none

/-- The double nearest to the value rounded to `places` decimal places, a half to even. -/
def roundTo (places : Nat) : Binary64 → Binary64
  | .finite neg m e _ =>
    ofRatio neg (roundHalfEven (m * Nat.pow 2 e * Nat.pow 10 places) one) (Nat.pow 10 places)
  | x => x

end Binary64

end HelpCenter

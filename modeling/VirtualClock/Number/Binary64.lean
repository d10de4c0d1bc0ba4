import VirtualClock.Number.Power

/-!
# Binary floating point numbers

Sixty-four bit floating point values as exact numbers: a significand below
2^53 times a power of two, an infinity, or no number at all.  Every operation
computes the exact result and rounds it once, to the nearest value and to the
even one of two equally near.

The texts of such numbers are kept in `VirtualClock.Number.FloatText`.
-/

namespace VirtualClock

/-- A sixty-four bit floating point value.  A finite value is
`± significand · 2 ^ exponent`; `Binary64.ofRatio` gives the significand its
full fifty-three bits wherever the exponent allows. -/
inductive Binary64 where
  | nan
  | infinite (negative : Bool)
  | finite (negative : Bool) (significand : Nat) (exponent : Int)
  deriving DecidableEq, Repr, Inhabited

/-- The quotient to the nearest whole number, and to the even one of two equally near. -/
def roundHalfEven (numerator denominator : Nat) : Nat :=
  let quotient := numerator / denominator
  let remainder := numerator % denominator
  if 2 * remainder < denominator then quotient
  else if denominator < 2 * remainder then quotient + 1
  else if quotient % 2 = 0 then quotient
  else quotient + 1

namespace Binary64

/-- The exponent of the smallest positive value. -/
def leastExponent : Int := -1074

/-- The exponent of the greatest finite value. -/
def greatestExponent : Int := 971

def zero (negative : Bool) : Binary64 := .finite negative 0 leastExponent

/-- The ratio `numerator / (denominator · 2 ^ exponent)` as a pair. -/
def scaleDown (numerator denominator : Nat) (exponent : Int) : Nat × Nat :=
  if 0 ≤ exponent then (numerator, denominator * twoTo exponent.toNat)
  else (numerator * twoTo (-exponent).toNat, denominator)

/-- The value nearest to a ratio of natural numbers with a sign. -/
def ofRatio (negative : Bool) (numerator denominator : Nat) : Binary64 :=
  if numerator = 0 then zero negative
  else
    let guess : Int := (numerator.log2 : Int) - (denominator.log2 : Int) - 52
    let (upper, lower) := scaleDown numerator denominator guess
    let normal := if upper < twoTo 52 * lower then guess - 1 else guess
    let exponent := max normal leastExponent
    let (scaled, divisor) := scaleDown numerator denominator exponent
    let significand := roundHalfEven scaled divisor
    let (significand, exponent) :=
      if significand = twoTo 53 then (twoTo 52, exponent + 1) else (significand, exponent)
    if greatestExponent < exponent then .infinite negative
    else .finite negative significand exponent

/-- The magnitude `significand · 2 ^ exponent` as a ratio. -/
def ratio (significand : Nat) (exponent : Int) : Nat × Nat :=
  scaleDown significand 1 (-exponent)

/-- The value nearest to `digits · 10 ^ exponent`.  Far outside the range the
power of ten is not computed. -/
def ofDecimal (negative : Bool) (digits : Nat) (exponent : Int) : Binary64 :=
  if digits = 0 then zero negative
  else
    let size : Int := (toString digits).length + exponent
    if 400 < size then .infinite negative
    else if size < -400 then zero negative
    else if 0 ≤ exponent then ofRatio negative (digits * tenTo exponent.toNat) 1
    else ofRatio negative digits (tenTo (-exponent).toNat)

def ofInt (number : Int) : Binary64 := ofRatio (number < 0) number.natAbs 1

/-- The whole part of a magnitude and the remaining fraction as a ratio. -/
def splitWhole (significand : Nat) (exponent : Int) : Nat × Nat × Nat :=
  let (numerator, denominator) := ratio significand exponent
  (numerator / denominator, numerator % denominator, denominator)

/-- The nearest whole number to a magnitude, the even one of two equally near. -/
def nearestWhole (significand : Nat) (exponent : Int) : Nat :=
  let (numerator, denominator) := ratio significand exponent
  roundHalfEven numerator denominator

/-- Millionths in a magnitude: the whole part counts exactly, the fraction
times a million is first rounded to a value and then to a whole number. -/
def millionths (significand : Nat) (exponent : Int) : Nat :=
  let (whole, numerator, denominator) := splitWhole significand exponent
  let rounded :=
    match ofRatio false (numerator * 1000000) denominator with
    | .finite _ significand exponent => nearestWhole significand exponent
    | _ => 0
  whole * 1000000 + rounded

def withSign (negative : Bool) (magnitude : Nat) : Int :=
  if negative then -(magnitude : Int) else magnitude

/-- The whole part of a finite value, toward zero. -/
def truncate? : Binary64 → Option Int
  | .finite negative significand exponent =>
    some (withSign negative (splitWhole significand exponent).1)
  | _ => none

/-- The greatest whole number not above a finite value. -/
def floor? : Binary64 → Option Int
  | .finite negative significand exponent =>
    let (whole, rest, _) := splitWhole significand exponent
    some (if negative then -((whole + if rest = 0 then 0 else 1 : Nat) : Int) else whole)
  | _ => none

/-- A finite value without a fraction, as a whole number. -/
def whole? : Binary64 → Option Int
  | .finite negative significand exponent =>
    let (whole, rest, _) := splitWhole significand exponent
    if rest = 0 then some (withSign negative whole) else none
  | _ => none

def isZero : Binary64 → Bool
  | .finite _ significand _ => significand == 0
  | _ => false

/-- Equality of numbers: nothing equals a value that is no number, and the two zeros are equal. -/
def equal : Binary64 → Binary64 → Bool
  | .nan, _ => false
  | _, .nan => false
  | left, right => left == right || (left.isZero && right.isZero)

end Binary64

end VirtualClock

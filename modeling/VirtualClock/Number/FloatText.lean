import VirtualClock.Number.Binary64
import VirtualClock.Text.Blank
import VirtualClock.Text.Digits
import VirtualClock.Text.Underscore

/-!
# Texts of floating point numbers

Reading a decimal text as the nearest floating point value, and writing a
value: with the fewest digits that read back, with a fixed count of places,
in scientific form, or in the general form that picks between the two.
-/

namespace VirtualClock

/-! ## Reading -/

namespace FloatText

/-- A sign in front of a text: whether it is a minus, and the rest. -/
def takeSign : List Char → Bool × List Char
  | '-' :: rest => (true, rest)
  | '+' :: rest => (false, rest)
  | text => (false, text)

/-- The exponent after its letter. -/
def readExponent (text : List Char) : Option Int :=
  let (negative, digits) := takeSign text
  if digits.isEmpty || !digits.all Char.isDigit then none
  else some (Binary64.withSign negative (Text.digitsValue digits))

/-- Digits, point and exponent without a sign.  Digits must stand before the point
or after it. -/
def readMagnitude (negative : Bool) (text : List Char) : Option Binary64 := do
  let isExponentMark := fun character => character == 'e' || character == 'E'
  let front := text.takeWhile (!isExponentMark ·)
  let exponent ←
    match text.drop front.length with
    | [] => some 0
    | _ :: rest => readExponent rest
  let whole := front.takeWhile (· != '.')
  let fraction := (front.drop whole.length).drop 1
  let digits := whole ++ fraction
  if digits.isEmpty || !digits.all Char.isDigit then none
  else some (.ofDecimal negative (Text.digitsValue digits) (exponent - fraction.length))

/-- The value that characters stand for: a decimal number, `inf`, `infinity` or
`nan` in any case, with an optional sign. -/
def readCharacters (text : List Char) : Option Binary64 :=
  let (negative, body) := takeSign text
  let word := String.ofList (body.map Char.toLower)
  if word == "inf" || word == "infinity" then some (.infinite negative)
  else if word == "nan" then some .nan
  else readMagnitude negative body

/-- The value a text stands for; blanks around it are passed over. -/
def read? (text : String) : Option Binary64 :=
  readCharacters (Text.trim Text.isBlank text.toList)

/-- As `read?`, but a text that is not read can have single underscores within it,
wherever they stand.  Such a text can have no blanks around it. -/
def readGrouped? (text : String) : Option Binary64 :=
  match read? text with
  | some value => some value
  | none => (Text.dropUnderscores? text.toList).bind readCharacters

/-! ## Decimal digits of a value -/

/-- The least `exponent`, from a starting point upwards, with `numerator / denominator`
below `10 ^ exponent`. -/
def leastPowerAbove (numerator denominator : Nat) : Nat → Int → Int
  | 0, exponent => exponent
  | fuel + 1, exponent =>
    let isBelow :=
      if 0 ≤ exponent then numerator < denominator * tenTo exponent.toNat
      else numerator * tenTo (-exponent).toNat < denominator
    if isBelow then exponent else leastPowerAbove numerator denominator fuel (exponent + 1)

/-- The place of the first decimal digit of a positive ratio: it is below
`10 ^ place` and not below `10 ^ (place - 1)`. -/
def decimalPlace (numerator denominator : Nat) : Int :=
  let bits : Int := (numerator.log2 : Int) - denominator.log2
  leastPowerAbove numerator denominator 8 (bits * 30103 / 100000 - 2)

/-- The ratio divided by a power of ten, as a ratio. -/
def scaleByTen (numerator denominator : Nat) (exponent : Int) : Nat × Nat :=
  if 0 ≤ exponent then (numerator, denominator * tenTo exponent.toNat)
  else (numerator * tenTo (-exponent).toNat, denominator)

/-- Digits of a positive number and the place of the point: `0.digits · 10 ^ place`. -/
structure Digits where
  digits : List Char
  place : Int
  deriving Repr

/-- A positive ratio rounded to the given count of digits, at least one. -/
def roundedDigits (numerator denominator count : Nat) : Digits :=
  let place := decimalPlace numerator denominator
  let (scaled, divisor) := scaleByTen numerator denominator (place - count)
  let rounded := roundHalfEven scaled divisor
  if rounded = tenTo count then ⟨(toString (tenTo (count - 1))).toList, place + 1⟩
  else ⟨(toString rounded).toList, place⟩

/-- The two neighbours of the value among decimals of `count` digits that read
back as the value, the nearer first and of two equally near the even one. -/
def shortestOf (significand : Nat) (exponent : Int) (count : Nat) : Option Digits :=
  let (numerator, denominator) := Binary64.ratio significand exponent
  let place := decimalPlace numerator denominator
  let (scaled, divisor) := scaleByTen numerator denominator (place - count)
  let low := scaled / divisor
  let remainder := scaled % divisor
  let lowFirst := 2 * remainder < divisor || (2 * remainder = divisor && low % 2 = 0)
  let candidates := if lowFirst then [low, low + 1] else [low + 1, low]
  let readsBack := fun digits =>
    decide (Binary64.ofDecimal false digits (place - count) =
      .finite false significand exponent)
  (candidates.find? readsBack).map fun digits =>
    if digits = tenTo count then ⟨(toString (tenTo (count - 1))).toList, place + 1⟩
    else ⟨(toString digits).toList, place⟩

/-- The fewest digits that read back as a positive value; seventeen always do. -/
def shortestDigits (significand : Nat) (exponent : Int) : Digits :=
  match ((List.range 17).map (· + 1)).findSome? (shortestOf significand exponent) with
  | some digits => ⟨(digits.digits.reverse.dropWhile (· == '0')).reverse, digits.place⟩
  | none => ⟨['0'], 1⟩

/-! ## Writing -/

def signText (negative : Bool) : String := if negative then "-" else ""

/-- Digits around a point that stands `place` digits from their start, with at
least `places` digits after it and no point when there are none. -/
def positional (digits : List Char) (place : Int) (places : Nat) : String :=
  let whole :=
    if place ≤ 0 then ['0']
    else digits.take place.toNat ++ List.replicate (place.toNat - digits.length) '0'
  let fraction :=
    if place ≤ 0 then List.replicate (-place).toNat '0' ++ digits
    else digits.drop place.toNat
  let padded := fraction ++ List.replicate (places - fraction.length) '0'
  String.ofList (if padded.isEmpty then whole else whole ++ '.' :: padded)

/-- An exponent with its sign and at least two digits. -/
def exponentText (exponent : Int) : String :=
  (if exponent < 0 then "-" else "+") ++ Text.atLeastTwo exponent.natAbs

/-- One digit, the others after a point, and the exponent. -/
def scientific (digits : List Char) (place : Int) : String :=
  let mantissa :=
    match digits with
    | [] => ['0']
    | [digit] => [digit]
    | digit :: rest => digit :: '.' :: rest
  String.ofList mantissa ++ "e" ++ exponentText (place - 1)

/-- The shortest text that reads back as the value: positional from 0.0001 up
to 10^16 and with a fraction always shown there, scientific outside. -/
def shortest : Binary64 → String
  | .nan => "nan"
  | .infinite negative => signText negative ++ "inf"
  | .finite negative 0 _ => signText negative ++ "0.0"
  | .finite negative significand exponent =>
    let shown := shortestDigits significand exponent
    signText negative ++
      if -4 < shown.place && shown.place ≤ 16 then positional shown.digits shown.place 1
      else scientific shown.digits shown.place

/-- The digits of a magnitude rounded to `places` after the point. -/
def fixedMagnitude (significand : Nat) (exponent : Int) (places : Nat) : String :=
  let (numerator, denominator) := Binary64.ratio significand exponent
  let rounded := toString (roundHalfEven (numerator * tenTo places) denominator)
  let padded := List.replicate (places + 1 - rounded.length) '0' ++ rounded.toList
  let whole := padded.take (padded.length - places)
  let fraction := padded.drop (padded.length - places)
  String.ofList (if fraction.isEmpty then whole else whole ++ '.' :: fraction)

/-- The magnitude in scientific form with `places` digits after the point. -/
def scientificMagnitude (significand : Nat) (exponent : Int) (places : Nat) : String :=
  if significand = 0 then scientific (List.replicate (places + 1) '0') 1
  else
    let (numerator, denominator) := Binary64.ratio significand exponent
    let shown := roundedDigits numerator denominator (places + 1)
    scientific shown.digits shown.place

/-- The magnitude with `count` significant digits: positional when the exponent
lies from -4 to below the count, scientific otherwise.  Zeros at the end of the
fraction are dropped unless they are kept on request. -/
def generalMagnitude (significand : Nat) (exponent : Int) (count : Nat) (keepZeros : Bool) :
    String :=
  let count := max count 1
  let shown : Digits :=
    if significand = 0 then ⟨List.replicate count '0', 1⟩
    else
      let (numerator, denominator) := Binary64.ratio significand exponent
      roundedDigits numerator denominator count
  let isPositional := -4 ≤ shown.place - 1 && shown.place - 1 < count
  let kept :=
    if keepZeros then shown.digits
    else
      let significant := (shown.digits.reverse.dropWhile (· == '0')).reverse
      if significant.isEmpty then ['0'] else significant
  if isPositional then positional kept shown.place 0 else scientific kept shown.place

/-- The general form with six significant digits. -/
def general : Binary64 → String
  | .nan => "nan"
  | .infinite negative => signText negative ++ "inf"
  | .finite negative significand exponent =>
    signText negative ++ generalMagnitude significand exponent 6 false

end FloatText

end VirtualClock

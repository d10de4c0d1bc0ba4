/-!
# Decimal digits

Numbers written with a fixed count of decimal digits, and the reading of such
digits back.  Only the ten ASCII digits count as digits.
-/

namespace VirtualClock.Text

def decimalDigit (value : Nat) : Char := Char.ofNat (48 + value)

def digitValue (character : Char) : Nat := character.toNat - 48

/-- The last `width` decimal digits of a number. -/
def fixedDigits : Nat → Nat → List Char
  | 0, _ => []
  | width + 1, number => fixedDigits width (number / 10) ++ [decimalDigit (number % 10)]

def digitsValue (digits : List Char) : Nat :=
  digits.foldl (fun total digit => total * 10 + digitValue digit) 0

/-- Reads exactly `count` digits off the front of a text. -/
def takeDigits (count : Nat) (text : List Char) : Option (Nat × List Char) :=
  let digits := text.take count
  if digits.length = count ∧ digits.all Char.isDigit then
    some (digitsValue digits, text.drop count)
  else none

/-- A number padded with zeros to at least two digits. -/
def atLeastTwo (number : Nat) : String :=
  if number < 10 then "0" ++ toString number else toString number

end VirtualClock.Text

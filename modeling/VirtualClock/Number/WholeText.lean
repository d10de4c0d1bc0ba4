import VirtualClock.Number.Binary64
import VirtualClock.Text.Blank
import VirtualClock.Text.Digits
import VirtualClock.Text.Underscore

/-!
# Texts of whole numbers

Reading whole numbers as people write them: with blanks around, a sign, zeros
in front, underscores between digits and a fraction of zeros.  Such a text is
first brought into its plain form, an optional minus and digits without a zero
in front, and only the plain form is read.

After zeros in front a minus can still follow.  A minus at the front of the text
is no such case: zeros behind it are not dropped.
-/

namespace VirtualClock.WholeText

/-- Why a text is not read as a whole number. -/
inductive Refusal where
  | unreadable
  | tooLong
  deriving DecidableEq, Repr

/-! ## The plain form -/

/-- The text without a plus sign.  A minus must not follow one. -/
def dropPlus : List Char → Option (List Char)
  | '+' :: '-' :: _ => none
  | '+' :: rest => some rest
  | text => some text

/-- The characters with which a number begins once the zeros before it are dropped. -/
def beginsNumber (character : Char) : Bool :=
  character == '-' || (character.isDigit && character != '0')

/-- Drops zeros and the underscores among them.  Before a point or the end the
last of these characters stays; `last` is the one that was just passed. -/
def dropZerosAfter (last : Char) : List Char → Option (List Char)
  | [] => some [last]
  | character :: rest =>
    if character == '0' || character == '_' then dropZerosAfter character rest
    else if beginsNumber character then some (character :: rest)
    else if character == '.' then some (last :: character :: rest)
    else none

/-- The text without zeros in front, when it begins like a number. -/
def dropZeros : List Char → Option (List Char)
  | [] => none
  | first :: rest =>
    if first == '0' then dropZerosAfter first rest
    else if beginsNumber first then some (first :: rest)
    else none

/-- The text without a fraction that consists of zeros. -/
def dropZeroFraction (text : List Char) : List Char :=
  let front := text.takeWhile (· != '.')
  match text.drop front.length with
  | _ :: zeros => if !zeros.isEmpty && zeros.all (· == '0') then front else text
  | [] => text

/-- The plain form of a text; misplaced underscores stay in it. -/
def plainForm (text : List Char) : Option (List Char) := do
  let number ← dropZeros (← dropPlus (Text.trim Text.isBlank text))
  let number := dropZeroFraction number
  some ((Text.dropUnderscores? number).getD number)

/-! ## Reading -/

/-- The most digits that are read. -/
def longest : Nat := 4300

/-- The digits of a plain form: zero alone, or digits with none in front. -/
def readDigits (text : List Char) : Except Refusal Nat :=
  let digits := text.takeWhile Char.isDigit
  match text with
  | '0' :: rest => if rest.isEmpty then .ok 0 else .error .unreadable
  | _ =>
    if longest < digits.length then .error .tooLong
    else if digits.isEmpty || digits.length < text.length then .error .unreadable
    else .ok (Text.digitsValue digits)

def readPlain : List Char → Except Refusal Int
  | '-' :: rest => (readDigits rest).map fun size => -(size : Int)
  | text => (readDigits text).map fun size => (size : Int)

def read (text : String) : Except Refusal Int :=
  match plainForm text.toList with
  | some number => readPlain number
  | none => .error .unreadable

end VirtualClock.WholeText

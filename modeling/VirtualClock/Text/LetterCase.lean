/-!
# Letter case

Case mapping as far as it meets ASCII: a text is mapped only to be compared
with ASCII names, so every character whose mapped form holds a character
beyond ASCII may stay as it is.
-/

namespace VirtualClock.Text

/-- The upper case of every character whose upper case is ASCII: the ASCII
letters, the sharp s, the dotless i, the long s and the Latin ligatures. -/
def upperChar (character : Char) : List Char :=
  match character.toNat with
  | 0xDF => ['S', 'S']
  | 0x131 => ['I']
  | 0x17F => ['S']
  | 0xFB00 => ['F', 'F']
  | 0xFB01 => ['F', 'I']
  | 0xFB02 => ['F', 'L']
  | 0xFB03 => ['F', 'F', 'I']
  | 0xFB04 => ['F', 'F', 'L']
  | 0xFB05 => ['S', 'T']
  | 0xFB06 => ['S', 'T']
  | _ => [character.toUpper]

/-- The lower case of every character whose lower case is ASCII: the ASCII
letters and the Kelvin sign. -/
def lowerChar (character : Char) : Char :=
  if character.toNat = 0x212A then 'k' else character.toLower

def upper (text : String) : String := String.ofList (text.toList.flatMap upperChar)

def lower (text : String) : String := String.ofList (text.toList.map lowerChar)

end VirtualClock.Text

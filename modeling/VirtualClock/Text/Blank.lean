/-!
# Blanks

The characters that separate words: the ones with the Unicode property of
white space, and the wider set that also counts the four information
separators of ASCII.
-/

namespace VirtualClock.Text

/-- A character with the Unicode property of white space. -/
def isBlank (character : Char) : Bool :=
  let code := character.toNat
  (9 ≤ code && code ≤ 13) || code == 0x20 || code == 0x85 || code == 0xA0 || code == 0x1680 ||
    (0x2000 ≤ code && code ≤ 0x200A) || code == 0x2028 || code == 0x2029 || code == 0x202F ||
    code == 0x205F || code == 0x3000

/-- A blank or one of the four information separators. -/
def isBlankOrSeparator (character : Char) : Bool :=
  isBlank character || (0x1C ≤ character.toNat && character.toNat ≤ 0x1F)

/-- The text without the characters of a class at its end. -/
def trimEnd (drops : Char → Bool) (text : List Char) : List Char :=
  (text.reverse.dropWhile drops).reverse

/-- The text without the characters of a class at either end. -/
def trim (drops : Char → Bool) (text : List Char) : List Char :=
  trimEnd drops (text.dropWhile drops)

end VirtualClock.Text

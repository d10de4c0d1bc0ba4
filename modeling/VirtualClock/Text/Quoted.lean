import VirtualClock.Text.Visible

/-!
# Quoted text

A text between quotes, with escapes for what has no visible form.  The quote
is single unless the text holds a single quote and no double one.  Backslashes
and the chosen quote are escaped, as are line ends and tabs by their letters;
every other hidden character is written by its code in two, four or eight
hexadecimal digits.
-/

namespace VirtualClock.Text

/-- The lower-case hexadecimal digit of a value below sixteen. -/
def hexDigit (value : Nat) : Char :=
  if value < 10 then Char.ofNat (48 + value) else Char.ofNat (87 + value)

/-- The last `width` hexadecimal digits of a number. -/
def hexDigits : Nat → Nat → List Char
  | 0, _ => []
  | width + 1, number => hexDigits width (number / 16) ++ [hexDigit (number % 16)]

def quoteFor (text : List Char) : Char :=
  if text.contains '\'' && !text.contains '"' then '"' else '\''

def quotedChar (quote character : Char) : List Char :=
  if character = quote || character = '\\' then ['\\', character]
  else if character = '\n' then ['\\', 'n']
  else if character = '\r' then ['\\', 'r']
  else if character = '\t' then ['\\', 't']
  else if isVisible character then [character]
  else
    let code := character.toNat
    if code < 0x100 then '\\' :: 'x' :: hexDigits 2 code
    else if code < 0x10000 then '\\' :: 'u' :: hexDigits 4 code
    else '\\' :: 'U' :: hexDigits 8 code

/-- A character beyond ASCII as an escape by its code, any other one as it is. -/
def asciiChar (character : Char) : List Char :=
  let code := character.toNat
  if code < 0x80 then [character]
  else if code < 0x100 then '\\' :: 'x' :: hexDigits 2 code
  else if code < 0x10000 then '\\' :: 'u' :: hexDigits 4 code
  else '\\' :: 'U' :: hexDigits 8 code

/-- A text with escapes for all characters beyond ASCII. -/
def asciiOnly (text : String) : String := String.ofList (text.toList.flatMap asciiChar)

/-- A control character: one of the first thirty-two, or of those from 127 to 159. -/
def isControl (character : Char) : Bool :=
  let code := character.toNat
  code < 0x20 || (0x7F ≤ code && code < 0xA0)

/-- A text on one line of a terminal: its control characters are written by their
codes, and everything else stays as it is. -/
def withoutControls (text : String) : String :=
  String.ofList (text.toList.flatMap fun character =>
    if isControl character then '\\' :: 'x' :: hexDigits 2 character.toNat else [character])

def quoted (text : String) : String :=
  let characters := text.toList
  let quote := quoteFor characters
  String.ofList (quote :: characters.flatMap (quotedChar quote) ++ [quote])

end VirtualClock.Text

import VirtualClock.Json.Basic
import VirtualClock.Number.FloatText
import VirtualClock.Text.Quoted

/-!
# Writing JSON

A value on a single line of printable ASCII: a blank after every comma and
colon, and an escape for every character that is not printable ASCII.
Characters beyond the basic plane are written as a pair of surrogates.  The
values that are no finite numbers are written by name.
-/

namespace VirtualClock.Json

/-- The escape of a code below 2^16. -/
def escapedUnit (unit : Nat) : List Char := '\\' :: 'u' :: Text.hexDigits 4 unit

def escapedChar (character : Char) : List Char :=
  match character with
  | '"' => ['\\', '"']
  | '\\' => ['\\', '\\']
  | '\n' => ['\\', 'n']
  | '\r' => ['\\', 'r']
  | '\t' => ['\\', 't']
  | '\x0c' => ['\\', 'f']
  | '\x08' => ['\\', 'b']
  | _ =>
    let code := character.toNat
    if 0x20 ≤ code ∧ code < 0x7F then [character]
    else if code < 0x10000 then escapedUnit code
    else
      let beyond := code - 0x10000
      escapedUnit (0xD800 + beyond / 0x400) ++ escapedUnit (0xDC00 + beyond % 0x400)

def renderText (content : String) : List Char :=
  '"' :: content.toList.flatMap escapedChar ++ ['"']

def renderFloat : Binary64 → String
  | .nan => "NaN"
  | .infinite negative => if negative then "-Infinity" else "Infinity"
  | number => FloatText.shortest number

mutual

def renderChars : Json → List Char
  | .null => ['n', 'u', 'l', 'l']
  | .flag true => ['t', 'r', 'u', 'e']
  | .flag false => ['f', 'a', 'l', 's', 'e']
  | .whole number => (toString number).toList
  | .float number => (renderFloat number).toList
  | .text content => renderText content
  | .list [] => ['[', ']']
  | .list (member :: rest) => '[' :: renderChars member ++ renderMembers rest
  | .object [] => ['\x7b', '\x7d']
  | .object ((name, value) :: rest) =>
    '\x7b' :: renderText name ++ ':' :: ' ' :: renderChars value ++ renderFields rest

/-- The members after the first and the closing bracket. -/
def renderMembers : List Json → List Char
  | [] => [']']
  | member :: rest => ',' :: ' ' :: renderChars member ++ renderMembers rest

/-- The fields after the first and the closing brace. -/
def renderFields : List (String × Json) → List Char
  | [] => ['\x7d']
  | (name, value) :: rest =>
    ',' :: ' ' :: renderText name ++ ':' :: ' ' :: renderChars value ++ renderFields rest

end

def render (value : Json) : String := String.ofList (renderChars value)

end VirtualClock.Json

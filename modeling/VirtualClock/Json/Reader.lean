import VirtualClock.Json.Basic
import VirtualClock.Number.FloatText
import VirtualClock.Text.Digits

/-!
# Reading JSON

A text holds one value with blanks around it, where only the space, the tab
and the two line ends are blanks.  The names of the values that are no finite
numbers are accepted; leading zeros, a point without digits and commas
without a member are not.  Inside a text no control character may stand bare.

An escaped surrogate without its partner becomes the replacement character.
-/

namespace VirtualClock.Json

def isSpace (character : Char) : Bool :=
  character == ' ' || character == '\t' || character == '\n' || character == '\r'

def skipSpace (text : List Char) : List Char := text.dropWhile isSpace

/-! ## Texts -/

def hexValue? (character : Char) : Option Nat :=
  if '0' ≤ character ∧ character ≤ '9' then some (character.toNat - 48)
  else if 'a' ≤ character ∧ character ≤ 'f' then some (character.toNat - 87)
  else if 'A' ≤ character ∧ character ≤ 'F' then some (character.toNat - 55)
  else none

def unitOf? (first second third fourth : Char) : Option Nat := do
  let high ← hexValue? first
  let upper ← hexValue? second
  let lower ← hexValue? third
  let low ← hexValue? fourth
  some (((high * 16 + upper) * 16 + lower) * 16 + low)

/-- The code that a letter after a backslash stands for. -/
def escapeCode? : Char → Option Nat
  | '"' => some 0x22
  | '\\' => some 0x5C
  | '/' => some 0x2F
  | 'b' => some 0x08
  | 'f' => some 0x0C
  | 'n' => some 0x0A
  | 'r' => some 0x0D
  | 't' => some 0x09
  | _ => none

/-- The codes of a text up to its closing quote, and what follows it. -/
def readCodes : List Char → Option (List Nat × List Char)
  | [] => none
  | '"' :: rest => some ([], rest)
  | '\\' :: 'u' :: first :: second :: third :: fourth :: rest => do
    let unit ← unitOf? first second third fourth
    let (codes, after) ← readCodes rest
    some (unit :: codes, after)
  | '\\' :: letter :: rest => do
    let code ← escapeCode? letter
    let (codes, after) ← readCodes rest
    some (code :: codes, after)
  | character :: rest =>
    if character.toNat < 0x20 ∨ character = '\\' then none
    else do
      let (codes, after) ← readCodes rest
      some (character.toNat :: codes, after)

def isHighSurrogate (code : Nat) : Bool := 0xD800 ≤ code && code < 0xDC00

def isLowSurrogate (code : Nat) : Bool := 0xDC00 ≤ code && code < 0xE000

/-- The character of a code; a surrogate has none and is replaced. -/
def charOfCode (code : Nat) : Char :=
  if isHighSurrogate code || isLowSurrogate code then '\uFFFD' else Char.ofNat code

/-- The characters of a row of codes, pairs of surrogates joined. -/
def joinCodes : List Nat → List Char
  | [] => []
  | [code] => [charOfCode code]
  | high :: low :: rest =>
    if isHighSurrogate high && isLowSurrogate low then
      Char.ofNat (0x10000 + (high - 0xD800) * 0x400 + (low - 0xDC00)) :: joinCodes rest
    else charOfCode high :: joinCodes (low :: rest)

/-- A text after its opening quote. -/
def readText (text : List Char) : Option (String × List Char) :=
  (readCodes text).map fun (codes, rest) => (String.ofList (joinCodes codes), rest)

/-! ## Numbers -/

/-- The longest row of digits that a whole number may have. -/
def longestWhole : Nat := 4300

/-- The digits of a whole number, which has no leading zero. -/
def takeWholeDigits (text : List Char) : Option (List Char × List Char) :=
  match text with
  | '0' :: rest => some (['0'], rest)
  | _ =>
    let digits := text.takeWhile Char.isDigit
    if digits.isEmpty then none else some (digits, text.drop digits.length)

/-- A point and digits, when both are there. -/
def takeFraction (text : List Char) : Option (List Char) × List Char :=
  match text with
  | '.' :: rest =>
    let digits := rest.takeWhile Char.isDigit
    if digits.isEmpty then (none, text) else (some digits, rest.drop digits.length)
  | _ => (none, text)

/-- The exponent mark, a sign and digits, when they are there. -/
def takeExponent (text : List Char) : Option Int × List Char :=
  match text with
  | mark :: rest =>
    if mark = 'e' ∨ mark = 'E' then
      let (negative, body) := FloatText.takeSign rest
      let digits := body.takeWhile Char.isDigit
      if digits.isEmpty then (none, text)
      else
        let size : Int := Text.digitsValue digits
        (some (if negative then -size else size), body.drop digits.length)
    else (none, text)
  | [] => (none, text)

/-- A number after its sign. -/
def readNumber (negative : Bool) (text : List Char) : Option (Json × List Char) := do
  let (wholeDigits, rest) ← takeWholeDigits text
  let (fraction, rest) := takeFraction rest
  let (exponent, rest) := takeExponent rest
  if fraction.isNone ∧ exponent.isNone then
    if longestWhole < wholeDigits.length then none
    else some (.whole (Binary64.withSign negative (Text.digitsValue wholeDigits)), rest)
  else
    let fractionDigits := fraction.getD []
    some
      (.float (.ofDecimal negative (Text.digitsValue (wholeDigits ++ fractionDigits))
        (exponent.getD 0 - fractionDigits.length)), rest)

/-! ## Values -/

/-- The rest of a text after a word at its start. -/
def afterWord? (word text : List Char) : Option (List Char) :=
  if word.isPrefixOf text then some (text.drop word.length) else none

/-- Words that stand for values. -/
def words : List (String × Json) :=
  [("null", .null), ("true", .flag true), ("false", .flag false), ("NaN", .float .nan),
   ("Infinity", .float (.infinite false)), ("-Infinity", .float (.infinite true))]

/-- A word or a number at the start of a text. -/
def readPlain (text : List Char) : Option (Json × List Char) :=
  let word := words.findSome? fun (word, value) =>
    (afterWord? word.toList text).map fun rest => (value, rest)
  match word with
  | some found => some found
  | none =>
    match text with
    | '-' :: rest => readNumber true rest
    | _ => readNumber false text

mutual

/-- A value at the start of a text, and what follows it.  The count bounds the
nesting; twice the length of the text is always enough. -/
def readValue : Nat → List Char → Option (Json × List Char)
  | 0, _ => none
  | fuel + 1, source =>
    match source with
    | '"' :: rest => (readText rest).map fun (content, after) => (.text content, after)
    | '[' :: rest =>
      match skipSpace rest with
      | ']' :: after => some (.list [], after)
      | body => (readMembers fuel body).map fun (members, after) => (.list members, after)
    | '\x7b' :: rest =>
      match skipSpace rest with
      | '\x7d' :: after => some (.object [], after)
      | body => (readFields fuel body).map fun (fields, after) => (.object (collect fields), after)
    | _ => readPlain source

/-- Members up to the closing bracket. -/
def readMembers : Nat → List Char → Option (List Json × List Char)
  | 0, _ => none
  | fuel + 1, source => do
    let (member, rest) ← readValue fuel source
    match skipSpace rest with
    | ']' :: after => some ([member], after)
    | ',' :: more =>
      let (members, after) ← readMembers fuel (skipSpace more)
      some (member :: members, after)
    | _ => none

/-- Fields up to the closing brace. -/
def readFields : Nat → List Char → Option (List (String × Json) × List Char)
  | 0, _ => none
  | fuel + 1, source =>
    match source with
    | '"' :: rest => do
      let (name, rest) ← readText rest
      match skipSpace rest with
      | ':' :: rest =>
        let (value, rest) ← readValue fuel (skipSpace rest)
        match skipSpace rest with
        | '\x7d' :: after => some ([(name, value)], after)
        | ',' :: more =>
          let (fields, after) ← readFields fuel (skipSpace more)
          some ((name, value) :: fields, after)
        | _ => none
      | _ => none
    | _ => none

end

def parse (text : String) : Option Json :=
  let characters := skipSpace text.toList
  match readValue (2 * characters.length + 1) characters with
  | some (value, rest) => if (skipSpace rest).isEmpty then some value else none
  | none => none

end VirtualClock.Json

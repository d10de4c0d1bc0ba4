import VirtualClock.Json.Reader
import VirtualClock.Value

/-!
# Templates of messages

A template is a text with directives that a row of arguments fills in order.
A directive begins with a percent sign and ends with the letter of its
conversion; between them stand flags, a width, a point with a precision, and a
letter for the size of the argument, which says nothing.  A star takes the
width or the precision from the arguments.

Every argument has to be used, and every directive has to find one.  Two
percent signs in a row stand for one.
-/

namespace VirtualClock.Template

structure Directive where
  leftAligned : Bool
  signed : Bool
  blankSigned : Bool
  alternate : Bool
  zeroFilled : Bool
  width : Nat
  precision : Option Nat
  conversion : Char
  deriving Repr

def fail {Result : Type} (problem : TemplateProblem) : Except Fault Result :=
  .error (.template problem)

/-! ## Reading a directive -/

/-- The greatest width and the greatest precision. -/
def widthLimit : Nat := 9223372036854775807

def precisionLimit : Nat := 2147483647

def isFlag (character : Char) : Bool :=
  character == '-' || character == '+' || character == ' ' || character == '#' || character == '0'

def takeArgument : List Value → Except Fault (Value × List Value)
  | [] => fail .tooFewArguments
  | value :: rest => .ok (value, rest)

/-- The number that a star takes from the arguments, below a limit. -/
def takeStar (limit : Nat) (word : String) (arguments : List Value) :
    Except Fault (Int × List Value) := do
  let (value, rest) ← takeArgument arguments
  let number ←
    match value with
    | .whole number => pure number
    | .flag state => pure (if state then 1 else 0)
    | _ => fail .starNeedsWhole
  if limit < number.natAbs then fail (.starTooLarge word) else pure (number, rest)

/-- The width of a directive; a negative one from a star aligns to the left. -/
def readWidth (text : List Char) (arguments : List Value) :
    Except Fault (Int × List Char × List Value) :=
  match text with
  | '*' :: rest => do
    let (number, arguments) ← takeStar widthLimit "ssize_t" arguments
    pure (number, rest, arguments)
  | _ =>
    let digits := text.takeWhile Char.isDigit
    let number := Text.digitsValue digits
    if widthLimit < number then fail .widthTooBig
    else .ok (number, text.drop digits.length, arguments)

/-- The precision of a directive, when a point announces one. -/
def readPrecision (text : List Char) (arguments : List Value) :
    Except Fault (Option Nat × List Char × List Value) :=
  match text with
  | '.' :: '*' :: rest => do
    let (number, arguments) ← takeStar precisionLimit "int" arguments
    pure (some number.toNat, rest, arguments)
  | '.' :: rest =>
    let digits := rest.takeWhile Char.isDigit
    let number := Text.digitsValue digits
    if precisionLimit < number then fail .precisionTooBig
    else .ok (some number, rest.drop digits.length, arguments)
  | _ => .ok (none, text, arguments)

/-- The text after a letter for the size of an argument. -/
def skipSize : List Char → List Char
  | character :: rest =>
    if character = 'h' ∨ character = 'l' ∨ character = 'L' then rest else character :: rest
  | [] => []

/-- A directive after its percent sign, and the text and the arguments after it. -/
def readDirective (text : List Char) (arguments : List Value) :
    Except Fault (Directive × List Char × List Value) := do
  if text.head? = some '(' then fail .needsMapping
  else
    let flags := text.takeWhile isFlag
    let (width, text, arguments) ← readWidth (text.drop flags.length) arguments
    let (precision, text, arguments) ← readPrecision text arguments
    match skipSize text with
    | [] => fail .incomplete
    | conversion :: rest =>
      let directive : Directive :=
        { leftAligned := flags.contains '-' || width < 0
          signed := flags.contains '+'
          blankSigned := flags.contains ' '
          alternate := flags.contains '#'
          zeroFilled := flags.contains '0'
          width := width.natAbs
          precision, conversion }
      pure (directive, rest, arguments)

/-! ## Writing an argument -/

/-- The letters of the conversions to another base. -/
def isBaseConversion (conversion : Char) : Bool :=
  conversion == 'o' || conversion == 'x' || conversion == 'X'

/-- The sign of a number's text, or the one that a flag asks for, and the rest. -/
def splitSign (directive : Directive) (body : List Char) : List Char × List Char :=
  match body with
  | '-' :: rest => (['-'], rest)
  | '+' :: rest => (['+'], rest)
  | _ =>
    (if directive.signed then ['+'] else if directive.blankSigned then [' '] else [], body)

/-- Fills a text up to the width.  Zeros go between the sign and the digits of a number. -/
def layOut (directive : Directive) (isNumber : Bool) (body : List Char) : List Char :=
  let (sign, rest) := if isNumber then splitSign directive body else ([], body)
  let hasMark := isNumber && directive.alternate && isBaseConversion directive.conversion
  let mark := if hasMark then rest.take 2 else []
  let digits := if hasMark then rest.drop 2 else rest
  let padding := directive.width - (sign ++ mark ++ digits).length
  if directive.leftAligned then sign ++ mark ++ digits ++ List.replicate padding ' '
  else if isNumber && directive.zeroFilled then
    sign ++ mark ++ List.replicate padding '0' ++ digits
  else List.replicate padding ' ' ++ sign ++ mark ++ digits

/-- The digits of a number in a base, with at least `count` of them. -/
def baseDigits (base count number : Nat) : List Char :=
  let digits := Nat.toDigits base number
  List.replicate (count - digits.length) '0' ++ digits

/-- A whole number in the base of the conversion. -/
def wholeText (directive : Directive) (number : Int) : List Char :=
  let count := directive.precision.getD 0
  let sign := if number < 0 then ['-'] else []
  let mark := fun letter => if directive.alternate then ['0', letter] else []
  let size := number.natAbs
  match directive.conversion with
  | 'o' => sign ++ mark 'o' ++ baseDigits 8 count size
  | 'x' => sign ++ mark 'x' ++ baseDigits 16 count size
  | 'X' => sign ++ mark 'X' ++ (baseDigits 16 count size).map Char.toUpper
  | _ => sign ++ baseDigits 10 count size

def wholeArgument (conversion : Char) (value : Value) : Except Fault Int :=
  match value with
  | .whole number => .ok number
  | .flag state => .ok (if state then 1 else 0)
  | .float number =>
    if isBaseConversion conversion then
      fail (.needsWhole conversion value.qualifiedTypeName)
    else
      match number with
      | .nan => .error .notANumber
      | .infinite _ => .error .infiniteSpan
      | _ => .ok (number.truncate?.getD 0)
  | _ =>
    if isBaseConversion conversion then
      fail (.needsWhole conversion value.qualifiedTypeName)
    else fail (.needsReal conversion value.qualifiedTypeName)

/-- A point at the end of the digits before an exponent, when there is none. -/
def withPoint (text : List Char) : List Char :=
  if text.contains '.' then text
  else text.takeWhile (· != 'e') ++ '.' :: text.dropWhile (· != 'e')

/-- A floating point number in the form of the conversion. -/
def floatText (directive : Directive) (number : Binary64) : List Char :=
  let places := directive.precision.getD 6
  let body :=
    match number with
    | .nan => "nan".toList
    | .infinite negative => (FloatText.signText negative ++ "inf").toList
    | .finite negative significand exponent =>
      let magnitude :=
        match directive.conversion.toLower with
        | 'e' => FloatText.scientificMagnitude significand exponent places
        | 'f' => FloatText.fixedMagnitude significand exponent places
        | _ => FloatText.generalMagnitude significand exponent places directive.alternate
      let pointed :=
        if directive.alternate then withPoint magnitude.toList else magnitude.toList
      (FloatText.signText negative).toList ++ pointed
  if directive.conversion.isUpper then body.map Char.toUpper else body

/-- The floating point number that an argument stands for. -/
def floatArgument (value : Value) : Except Fault Binary64 :=
  let ofWhole := fun number =>
    match Binary64.ofInt number with
    | .infinite _ => fail .floatTooLarge
    | result => .ok result
  match value with
  | .float number => .ok number
  | .whole number => ofWhole number
  | .flag state => ofWhole (if state then 1 else 0)
  | _ => fail (.needsFloat value.qualifiedTypeName)

def characterArgument (value : Value) : Except Fault Char :=
  let ofCode := fun (code : Int) =>
    if code < 0 ∨ 0x110000 ≤ code then fail .characterOutOfRange
    else .ok (Json.charOfCode code.toNat)
  match value with
  | .text content =>
    match content.toList with
    | [character] => .ok character
    | _ => fail .needsCharacter
  | .whole number => ofCode number
  | .flag state => ofCode (if state then 1 else 0)
  | _ => fail .needsCharacter

/-- The beginning of a text up to the precision. -/
def shorten (directive : Directive) (content : String) : List Char :=
  match directive.precision with
  | some count => content.toList.take count
  | none => content.toList

/-- An argument as a directive asks for it.  `index` is the place of the
conversion in the template. -/
def writeArgument (directive : Directive) (index : Nat) (value : Value) :
    Except Fault (List Char) :=
  match directive.conversion with
  | 's' => .ok (layOut directive false (shorten directive value.displayText))
  | 'r' => .ok (layOut directive false (shorten directive value.constructorText))
  | 'a' => .ok (layOut directive false (shorten directive (Text.asciiOnly value.constructorText)))
  | 'd' | 'i' | 'u' | 'o' | 'x' | 'X' => do
    let number ← wholeArgument directive.conversion value
    pure (layOut directive true (wholeText directive number))
  | 'e' | 'E' | 'f' | 'F' | 'g' | 'G' => do
    let number ← floatArgument value
    pure (layOut directive true (floatText directive number))
  | 'c' => do
    let character ← characterArgument value
    pure (layOut directive false [character])
  | conversion => fail (.unknownConversion conversion index)

/-! ## Filling a template -/

/-- Fills the rest of a template of `size` characters.  The count bounds the
directives and is the length of the rest. -/
def fillFrom (size : Nat) : Nat → List Char → List Value → Except Fault (List Char)
  | _, [], [] => .ok []
  | _, [], _ :: _ => fail .tooManyArguments
  | 0, _, _ => .ok []
  | fuel + 1, '%' :: '%' :: rest, arguments => do
    let filled ← fillFrom size fuel rest arguments
    pure ('%' :: filled)
  | fuel + 1, '%' :: text, arguments => do
    let (directive, rest, arguments) ← readDirective text arguments
    let (value, arguments) ← takeArgument arguments
    let written ← writeArgument directive (size - rest.length - 1) value
    let filled ← fillFrom size fuel rest arguments
    pure (written ++ filled)
  | fuel + 1, character :: rest, arguments => do
    let filled ← fillFrom size fuel rest arguments
    pure (character :: filled)

/-- The template with its directives replaced by the arguments. -/
def fill (template : String) (arguments : List Value) : Except Fault String := do
  let characters := template.toList
  let filled ← fillFrom characters.length characters.length characters arguments
  pure (String.ofList filled)

end VirtualClock.Template

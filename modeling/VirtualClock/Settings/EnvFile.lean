import VirtualClock.Text.Blank

/-!
# Files of variables

A text file that gives values to names, one binding a line.  A value is bare,
in single quotes or in double quotes; quoted values can span lines.  Bare
values end before a blank and a hash sign.  A line that does not fit is
skipped, and its number is kept for a complaint.

Names between `$`, an opening and a closing brace are replaced by the value
of an earlier line or of the surrounding environment.
-/

namespace VirtualClock.EnvFile

open Text

def isLineEnd (character : Char) : Bool := character == '\n'

/-- A blank that does not end a line. -/
def isInnerBlank (character : Char) : Bool := isBlankOrSeparator character && !isLineEnd character

/-- All line ends of a text become a single line feed. -/
def unifyLineEnds : List Char → List Char
  | [] => []
  | '\r' :: '\n' :: rest => '\n' :: unifyLineEnds rest
  | '\r' :: rest => '\n' :: unifyLineEnds rest
  | character :: rest => character :: unifyLineEnds rest

/-- The text without the mark that can stand at its start to tell its encoding. -/
def dropEncodingMark : List Char → List Char
  | '\ufeff' :: rest => rest
  | text => text

/-! ## Quoted values -/

/-- The body of a quoted value after its opening quote, and what follows the closing
one.  A backslash keeps the character after it from closing the value. -/
def readQuoted (quote : Char) : List Char → Option (List Char × List Char)
  | [] => none
  | '\\' :: next :: rest =>
    (readQuoted quote rest).map fun (body, after) => ('\\' :: next :: body, after)
  | character :: rest =>
    if character = quote then some ([], rest)
    else (readQuoted quote rest).map fun (body, after) => (character :: body, after)

/-- Escapes in single quotes: the backslash and the quote itself. -/
def unescapeSingle : List Char → List Char
  | '\\' :: '\\' :: rest => '\\' :: unescapeSingle rest
  | '\\' :: '\'' :: rest => '\'' :: unescapeSingle rest
  | character :: rest => character :: unescapeSingle rest
  | [] => []

/-- The character that a letter after a backslash stands for in double quotes. -/
def escapedLetter? : Char → Option Char
  | '\\' => some '\\'
  | '\'' => some '\''
  | '"' => some '"'
  | 'a' => some '\x07'
  | 'b' => some '\x08'
  | 'f' => some '\x0c'
  | 'n' => some '\n'
  | 'r' => some '\r'
  | 't' => some '\t'
  | 'v' => some '\x0b'
  | _ => none

/-- Escapes in double quotes; a backslash before another letter stays. -/
def unescapeDouble : List Char → List Char
  | '\\' :: letter :: rest =>
    match escapedLetter? letter with
    | some character => character :: unescapeDouble rest
    | none => '\\' :: unescapeDouble (letter :: rest)
  | character :: rest => character :: unescapeDouble rest
  | [] => []

/-! ## Bare values -/

/-- The row of blanks at the front of a text is followed by a hash sign. -/
def startsComment (text : List Char) : Bool :=
  match text with
  | character :: _ =>
    isBlankOrSeparator character && (text.dropWhile isBlankOrSeparator).head? == some '#'
  | [] => false

/-- The text before the first blanks that a hash sign follows. -/
def beforeComment : List Char → List Char
  | [] => []
  | character :: rest =>
    if startsComment (character :: rest) then [] else character :: beforeComment rest

/-- The bare value on the rest of a line after the equals sign. -/
def bareValue (line : List Char) : List Char :=
  trim isBlankOrSeparator (beforeComment line)

/-! ## Bindings -/

/-- A name with the value it is given; a name alone has none. -/
structure Binding where
  name : String
  value : Option String
  deriving DecidableEq, Repr

/-- The value after the equals sign and what follows it.  On failure the text is
given back from where the reading stopped. -/
def readValue (text : List Char) : Except (List Char) (List Char × List Char) :=
  let quoted := fun (quote : Char) (unescape : List Char → List Char) (rest : List Char) =>
    match readQuoted quote rest with
    | some (body, after) => .ok (unescape body, after)
    | none => .error (quote :: rest)
  match text.dropWhile isInnerBlank with
  | '\'' :: rest => quoted '\'' unescapeSingle rest
  | '"' :: rest => quoted '"' unescapeDouble rest
  | _ =>
    let line := text.takeWhile (!isLineEnd ·)
    .ok (bareValue line, text.drop line.length)

/-- Drops the word `export` and the blanks after it. -/
def skipExport (text : List Char) : List Char :=
  if "export".toList.isPrefixOf text then
    let rest := text.drop 6
    match rest with
    | character :: _ => if isInnerBlank character then rest.dropWhile isInnerBlank else text
    | [] => text
  else text

/-- A name: quoted, or up to a blank, an equals sign or a hash sign.  A comment
has no name. -/
def readName (text : List Char) : Option (Option (List Char) × List Char) :=
  match text with
  | '#' :: _ => some (none, text)
  | '\'' :: rest =>
    let name := rest.takeWhile (· != '\'')
    match rest.drop name.length with
    | _ :: after => if name.isEmpty then none else some (some name, after)
    | [] => none
  | _ =>
    let name := text.takeWhile fun character =>
      !(character == '=' || character == '#' || isBlankOrSeparator character)
    if name.isEmpty then none else some (some name, text.drop name.length)

/-- The rest of a binding's line: blanks and a comment. -/
def readLineEnd (text : List Char) : Option (List Char) :=
  let inner := text.dropWhile isInnerBlank
  let rest := if inner.head? = some '#' then inner.dropWhile (!isLineEnd ·) else inner
  match rest with
  | [] => some []
  | character :: after => if isLineEnd character then some after else none

/-- What is left after the rest of a line is dropped. -/
def skipLine (text : List Char) : List Char := (text.dropWhile (!isLineEnd ·)).drop 1

/-- The equals sign and the value, when they are there, and what follows them. -/
def readAssignment (text : List Char) : Except (List Char) (Option (List Char) × List Char) :=
  match text.dropWhile isInnerBlank with
  | '=' :: rest => (readValue rest).map fun (value, after) => (some value, after)
  | after => .ok (none, after)

/-- A binding, or nothing on a line of comment, and the text after its line.  On
failure the text is given back from where the reading stopped. -/
def readBinding (text : List Char) : Except (List Char) (Option Binding × List Char) := do
  let source := skipExport text
  match readName source with
  | none => .error source
  | some (name, rest) =>
    let (value, rest) ← readAssignment rest
    match readLineEnd rest with
    | none => .error rest
    | some after =>
      pure (name.map fun name => ⟨String.ofList name, value.map String.ofList⟩, after)

/-! ## Statements -/

inductive Statement where
  | binding (binding : Binding)
  /-- A line that does not fit.  Its number is that of the line where it begins, with
  the empty lines before it. -/
  | malformed (line : Nat)
  deriving DecidableEq, Repr

def lineEndCount (text : List Char) : Nat := text.countP isLineEnd

/-- The statements of a text that begins on the line of a number.  The count bounds
the statements and is the length of the text. -/
def readStatements : Nat → Nat → List Char → List Statement
  | 0, _, _ => []
  | fuel + 1, line, text =>
    let source := text.dropWhile isBlankOrSeparator
    if source.isEmpty then []
    else
      let (found, rest) :=
        match readBinding source with
        | .ok (binding, rest) => ((binding.map Statement.binding).toList, rest)
        | .error stopped => ([.malformed line], skipLine stopped)
      found ++ readStatements fuel (line + lineEndCount text - lineEndCount rest) rest

def statements (text : String) : List Statement :=
  let characters := unifyLineEnds (dropEncodingMark text.toList)
  readStatements (characters.length + 1) 1 characters

/-- The numbers of the lines that do not fit. -/
def malformedLines (text : String) : List Nat :=
  (statements text).filterMap fun
    | .binding _ => none
    | .malformed line => some line

/-- The complaint about a line that does not fit. -/
def complaint (line : Nat) : String :=
  "python-dotenv could not parse statement starting at line " ++ toString line

/-! ## Replacing names by values -/

/-- A reference after its opening brace: the name, the default and the rest. -/
def readReference (text : List Char) : Option (List Char × List Char × List Char) :=
  let name := text.takeWhile fun character => character != '\x7d' && character != ':'
  match text.drop name.length with
  | '\x7d' :: after => some (name, [], after)
  | ':' :: '-' :: rest =>
    let fallback := rest.takeWhile (· != '\x7d')
    match rest.drop fallback.length with
    | _ :: after => some (name, fallback, after)
    | [] => none
  | _ => none

/-- A text with its references replaced.  The count bounds the references and
is the length of the text. -/
def expand (valueOf : String → Option (Option String)) : Nat → List Char → List Char
  | 0, text => text
  | _ + 1, [] => []
  | fuel + 1, '$' :: '\x7b' :: rest =>
    match readReference rest with
    | some (name, fallback, after) =>
      let value :=
        match valueOf (String.ofList name) with
        | some value => (value.getD "").toList
        | none => fallback
      value ++ expand valueOf fuel after
    | none => '$' :: expand valueOf fuel ('\x7b' :: rest)
  | fuel + 1, character :: rest => character :: expand valueOf fuel rest

/-- Sets the value of a name, in its place when it is there already. -/
def setValue (name : String) (value : Option String) :
    List (String × Option String) → List (String × Option String)
  | [] => [(name, value)]
  | (other, current) :: rest =>
    if other = name then (other, value) :: rest
    else (other, current) :: setValue name value rest

/-- The values of a row of bindings, each with its references replaced by
earlier values or by those of the environment. -/
def resolve (environment : List (String × String)) (bindings : List Binding) :
    List (String × Option String) :=
  bindings.foldl
    (fun values binding =>
      let valueOf := fun name =>
        match values.lookup name with
        | some value => some value
        | none => (environment.lookup name).map some
      let value := binding.value.map fun text =>
        String.ofList (expand valueOf text.length text.toList)
      setValue binding.name value values)
    []

def values (environment : List (String × String)) (text : String) :
    List (String × Option String) :=
  resolve environment ((statements text).filterMap fun
    | .binding binding => some binding
    | .malformed _ => none)

end VirtualClock.EnvFile

import VirtualClock.Text.Quoted

/-!
# Faults

Everything that can stop an operation, by its cause.  The kind of a fault and
its wording are given here once; faults of the system carry no wording.

Faults of the settings are lists of field faults, one for each field that was
refused, in the order in which the fields are declared.
-/

namespace VirtualClock

/-- Why the value of one settings field was refused. -/
inductive FieldProblem where
  /-- The value is none of the listed words. -/
  | notOneOf (choices : List String)
  | notText
  | notWhole
  | unreadableWhole
  | fractional
  | notFinite
  | tooLong
  | tooSmall (least : Int)
  | notASection (name : String)
  | unknownZone (wording : String)
  | missing
  deriving DecidableEq, Repr

/-- A refused field, by the path of names that leads to it. -/
structure FieldFault where
  path : List String
  problem : FieldProblem
  deriving DecidableEq, Repr

/-- How a template and its arguments can fail to fit. -/
inductive TemplateProblem where
  | tooFewArguments
  | tooManyArguments
  | needsMapping
  | incomplete
  | starNeedsWhole
  | widthTooBig
  | precisionTooBig
  | unknownConversion (character : Char) (index : Nat)
  | needsReal (conversion : Char) (found : String)
  | needsWhole (conversion : Char) (found : String)
  | needsFloat (found : String)
  | needsCharacter
  | characterOutOfRange
  | floatTooLarge
  | starTooLarge (word : String)
  deriving DecidableEq, Repr

inductive Fault where
  /-- A travel offset is neither a duration nor a number of seconds. -/
  | notAnOffset (found : String)
  /-- A travel target is neither a date nor a moment. -/
  | notATarget (found : String)
  | notCallable (found : String)
  | notAZone (found : String)
  /-- An anchor without an offset, by its written form. -/
  | naiveAnchor (shown : String)
  | naiveClockReading
  | clockNeedsZone
  | unknownZone (name : String)
  | zoneIsDirectory
  | zoneNameTooLong
  | dateOutOfRange
  | yearOutOfRange (year : Int)
  | notANumber
  | infiniteSpan
  | wordOverflow
  | spanOutOfBounds (days : Int)
  | timestampNotANumber
  | timestampOutOfRange
  /-- A year that the calendar of the system cannot count to. -/
  | yearTooFar
  | unsupportedSpan (found : String)
  | zoneWithoutOffset
  | mixedAwareness
  | incomparable (left right : String)
  | unorderable (left right : String)
  | unhashable (found : String)
  | missingAttribute (owner member : String)
  | missingClassAttribute (owner member : String)
  | frozenField (field : String)
  | foreignBinding
  | contextInUse
  | unknownName (name : String)
  | indexOutOfRange
  | fileMissing
  | fileIsDirectory
  /-- A file stands where a directory should. -/
  | fileInTheWay
  | fileNameTooLong
  | zeroInName
  /-- The home of a user that nobody knows. -/
  | unknownHome
  | template (problem : TemplateProblem)
  | refusedSettings (fields : List FieldFault)
  | unreadableSettings (field source : String)
  | unknownLevel (name : String)
  /-- Raised by a program that runs under the clock. -/
  | raised (kind text : String)
  deriving DecidableEq, Repr

/-- Words in single quotes, with `or` before the last. -/
def alternatives : List String → String
  | [] => ""
  | [only] => "'" ++ only ++ "'"
  | [first, last] => "'" ++ first ++ "' or '" ++ last ++ "'"
  | first :: rest => "'" ++ first ++ "', " ++ alternatives rest

namespace FieldProblem

def kind : FieldProblem → String
  | .notOneOf _ => "literal_error"
  | .notText => "string_type"
  | .notWhole => "int_type"
  | .unreadableWhole => "int_parsing"
  | .fractional => "int_from_float"
  | .notFinite => "finite_number"
  | .tooLong => "int_parsing_size"
  | .tooSmall _ => "greater_than_equal"
  | .notASection _ => "model_type"
  | .unknownZone _ => "value_error"
  | .missing => "missing"

def message : FieldProblem → String
  | .notOneOf choices => "Input should be " ++ alternatives choices
  | .notText => "Input should be a valid string"
  | .notWhole => "Input should be a valid integer"
  | .unreadableWhole => "Input should be a valid integer, unable to parse string as an integer"
  | .fractional => "Input should be a valid integer, got a number with a fractional part"
  | .notFinite => "Input should be a finite number"
  | .tooLong => "Unable to parse input string as an integer, exceeded maximum size"
  | .tooSmall least => "Input should be greater than or equal to " ++ toString least
  | .notASection name => "Input should be a valid dictionary or instance of " ++ name
  | .unknownZone wording => "Value error, " ++ wording
  | .missing => "Field required"

end FieldProblem

namespace TemplateProblem

def kind : TemplateProblem → String
  | .tooFewArguments | .tooManyArguments | .needsMapping | .starNeedsWhole
  | .needsReal _ _ | .needsWhole _ _ | .needsFloat _ | .needsCharacter => "TypeError"
  | .incomplete | .widthTooBig | .precisionTooBig | .unknownConversion _ _ => "ValueError"
  | .characterOutOfRange | .floatTooLarge | .starTooLarge _ => "OverflowError"

def message : TemplateProblem → String
  | .tooFewArguments => "not enough arguments for format string"
  | .tooManyArguments => "not all arguments converted during string formatting"
  | .needsMapping => "format requires a mapping"
  | .incomplete => "incomplete format"
  | .starNeedsWhole => "* wants int"
  | .widthTooBig => "width too big"
  | .precisionTooBig => "precision too big"
  | .unknownConversion character index =>
    let code := character.toNat
    let shown := if 31 ≤ code && code ≤ 126 then character else '?'
    let hexadecimal := String.ofList (Nat.toDigits 16 code)
    "unsupported format character '" ++ shown.toString ++ "' (0x" ++ hexadecimal ++
      ") at index " ++ toString index
  | .needsReal conversion found =>
    "%" ++ conversion.toString ++ " format: a real number is required, not " ++ found
  | .needsWhole conversion found =>
    "%" ++ conversion.toString ++ " format: an integer is required, not " ++ found
  | .needsFloat found => "must be real number, not " ++ found
  | .needsCharacter => "%c requires int or char"
  | .characterOutOfRange => "%c arg not in range(0x110000)"
  | .floatTooLarge => "int too large to convert to float"
  | .starTooLarge word => "Python int too large to convert to C " ++ word

end TemplateProblem

namespace Fault

def kind : Fault → String
  | .notAnOffset _ | .notATarget _ | .notCallable _ | .notAZone _ | .naiveAnchor _
  | .naiveClockReading | .clockNeedsZone => "InvalidTravelArgumentError"
  | .unknownZone _ => "UnknownTimeZoneError"
  | .zoneIsDirectory | .fileIsDirectory => "IsADirectoryError"
  | .zoneNameTooLong | .yearTooFar | .fileNameTooLong => "OSError"
  | .fileInTheWay => "NotADirectoryError"
  | .fileMissing => "FileNotFoundError"
  | .dateOutOfRange | .infiniteSpan | .wordOverflow | .spanOutOfBounds _
  | .timestampOutOfRange => "OverflowError"
  | .yearOutOfRange _ | .notANumber | .timestampNotANumber | .zoneWithoutOffset | .foreignBinding
  | .unknownLevel _ | .zeroInName => "ValueError"
  | .unsupportedSpan _ | .mixedAwareness | .incomparable _ _ | .unorderable _ _
  | .unhashable _ => "TypeError"
  | .missingAttribute _ _ | .missingClassAttribute _ _ => "AttributeError"
  | .frozenField _ => "FrozenInstanceError"
  | .contextInUse | .unknownHome => "RuntimeError"
  | .unknownName _ => "KeyError"
  | .indexOutOfRange => "IndexError"
  | .template problem => problem.kind
  | .refusedSettings _ => "ValidationError"
  | .unreadableSettings _ _ => "SettingsError"
  | .raised kind _ => kind

/-- The wording of a fault; faults of the system have none, and refused
settings are worded field by field. -/
def message? : Fault → Option String
  | .notAnOffset found =>
    some ("Travel offset must be a timedelta or seconds, got " ++ found)
  | .notATarget found =>
    some ("Cannot travel to " ++ found ++ "; expected a date or datetime")
  | .notCallable found => some ("Travel body must be callable, got " ++ found)
  | .notAZone found => some ("Expected a tzinfo or zone name, got " ++ found)
  | .naiveAnchor shown => some ("Override anchor must be timezone-aware, got " ++ shown)
  | .naiveClockReading => some "FakeClock.now() returned a naive datetime"
  | .clockNeedsZone => some "FakeClock requires an aware datetime"
  | .unknownZone name => some ("Unknown time zone " ++ Text.quoted name)
  | .zoneIsDirectory | .zoneNameTooLong | .yearTooFar | .fileMissing | .fileIsDirectory
  | .fileInTheWay | .fileNameTooLong => none
  | .zeroInName => some "embedded null byte"
  | .unknownHome => some "Could not determine home directory."
  | .dateOutOfRange => some "date value out of range"
  | .yearOutOfRange year => some ("year " ++ toString year ++ " is out of range")
  | .notANumber => some "cannot convert float NaN to integer"
  | .infiniteSpan => some "cannot convert float infinity to integer"
  | .wordOverflow => some "Python int too large to convert to C int"
  | .spanOutOfBounds days =>
    some ("days=" ++ toString days ++ "; must have magnitude <= 999999999")
  | .timestampNotANumber => some "Invalid value NaN (not a number)"
  | .timestampOutOfRange => some "timestamp out of range for platform time_t"
  | .unsupportedSpan found =>
    some ("unsupported type for timedelta seconds component: " ++ found)
  | .zoneWithoutOffset => some "fromutc: non-None utcoffset() result required"
  | .mixedAwareness => some "can't compare offset-naive and offset-aware datetimes"
  | .incomparable left right => some ("can't compare " ++ left ++ " to " ++ right)
  | .unorderable left right =>
    some ("'<' not supported between instances of '" ++ left ++ "' and '" ++ right ++ "'")
  | .unhashable found => some ("unhashable type: '" ++ found ++ "'")
  | .missingAttribute owner member =>
    some ("'" ++ owner ++ "' object has no attribute '" ++ member ++ "'")
  | .missingClassAttribute owner member =>
    some ("type object '" ++ owner ++ "' has no attribute '" ++ member ++ "'")
  | .frozenField field => some ("cannot assign to field " ++ Text.quoted field)
  | .foreignBinding => some "the binding was created in a different Context"
  | .contextInUse => some "cannot enter context: it is already entered"
  | .unknownName name => some (Text.quoted name)
  | .indexOutOfRange => some "tuple index out of range"
  | .template problem => some problem.message
  | .refusedSettings _ => none
  | .unreadableSettings field source =>
    some ("error parsing value for field \"" ++ field ++ "\" from source \"" ++ source ++ "\"")
  | .unknownLevel name => some ("Unknown level: " ++ Text.quoted name)
  | .raised _ text => some text

/-- A time or a span cannot be represented. -/
def isOverflow : Fault → Bool
  | .dateOutOfRange | .infiniteSpan | .wordOverflow | .spanOutOfBounds _
  | .timestampOutOfRange => true
  | _ => false

end Fault

end VirtualClock

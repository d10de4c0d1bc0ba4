import VirtualClock.Json.Basic
import VirtualClock.Number.WholeText
import VirtualClock.Zone.Atlas

/-!
# The schema of the settings

The settings of the program and of its log, and how they are read off the
fields of an object.  Unknown fields are ignored and missing ones take their
defaults; every refused field is reported, in the order of the declaration.

A zone name that leads to a directory, or is too long, is not a refused field:
the search for it fails as a whole.
-/

namespace VirtualClock

abbrev Fields := List (String × Json)

structure LoggingSettings where
  level : String
  format : String
  file : Option String
  maxFileSizeMb : Int
  backupCount : Int
  deriving DecidableEq, Repr

structure Settings where
  timeZone : Option String
  logging : LoggingSettings
  deriving DecidableEq, Repr

/-- The names of the log levels, from the least to the most severe. -/
def levelNames : List String := ["DEBUG", "INFO", "WARNING", "ERROR", "CRITICAL"]

def formatNames : List String := ["json", "text"]

/-! ## Single values -/

namespace FieldReading

/-- One of a row of words, which must be given as a text. -/
def oneOf (choices : List String) : Json → Except FieldProblem String
  | .text word => if choices.contains word then .ok word else .error (.notOneOf choices)
  | _ => .error (.notOneOf choices)

/-- A text or nothing. -/
def optionalText : Json → Except FieldProblem (Option String)
  | .null => .ok none
  | .text content => .ok (some content)
  | _ => .error .notText

def wholeOfText (content : String) : Except FieldProblem Int :=
  match WholeText.read content with
  | .ok number => .ok number
  | .error .unreadable => .error .unreadableWhole
  | .error .tooLong => .error .tooLong

/-- Floating point numbers from this size on do not count as whole numbers. -/
def floatLimit : Int := 9223372036854775808

/-- A whole number: a flag counts as zero or one, a floating point number must
have no fraction. -/
def whole : Json → Except FieldProblem Int
  | .whole number => .ok number
  | .flag state => .ok (if state then 1 else 0)
  | .float number =>
    match number.truncate?, number.whole? with
    | none, _ => .error .notFinite
    | some _, none => .error .fractional
    | some _, some integer =>
      if integer.natAbs < floatLimit.natAbs then .ok integer else .error .tooLong
  | .text content => wholeOfText content
  | _ => .error .notWhole

/-- A whole number that is not below a bound. -/
def wholeFrom (least : Int) (value : Json) : Except FieldProblem Int := do
  let number ← whole value
  if number < least then .error (.tooSmall least) else .ok number

/-- Reads a field, or takes its default when it is missing. -/
def field {Result : Type} (fields : Fields) (name : String) (default : Result)
    (read : Json → Except FieldProblem Result) : Except FieldFault Result :=
  match Json.lookup fields name with
  | none => .ok default
  | some value =>
    match read value with
    | .ok result => .ok result
    | .error problem => .error ⟨[name], problem⟩

def faults {Result : Type} : Except FieldFault Result → List FieldFault
  | .ok _ => []
  | .error fault => [fault]

end FieldReading

/-! ## The settings -/

namespace LoggingSettings

open FieldReading

def standard : LoggingSettings := ⟨"INFO", "json", none, 10, 3⟩

/-- The settings that the fields of an object give, or all refused fields. -/
def ofFields (fields : Fields) : Except (List FieldFault) LoggingSettings :=
  let level := field fields "level" standard.level (oneOf levelNames)
  let format := field fields "format" standard.format (oneOf formatNames)
  let file := field fields "file" standard.file optionalText
  let maxFileSizeMb := field fields "max_file_size_mb" standard.maxFileSizeMb (wholeFrom 1)
  let backupCount := field fields "backup_count" standard.backupCount (wholeFrom 0)
  match level, format, file, maxFileSizeMb, backupCount with
  | .ok level, .ok format, .ok file, .ok maxFileSizeMb, .ok backupCount =>
    .ok ⟨level, format, file, maxFileSizeMb, backupCount⟩
  | _, _, _, _, _ =>
    .error (faults level ++ faults format ++ faults file ++ faults maxFileSizeMb ++
      faults backupCount)

/-- The settings that a value gives; only an object can give any. -/
def ofJson : Json → Except (List FieldFault) LoggingSettings
  | .object fields => ofFields fields
  | _ => .error [⟨[], .notASection "LoggingSettings"⟩]

/-- The settings satisfy the schema. -/
def IsValid (settings : LoggingSettings) : Prop :=
  settings.level ∈ levelNames ∧ settings.format ∈ formatNames ∧ 1 ≤ settings.maxFileSizeMb ∧
    0 ≤ settings.backupCount

instance (settings : LoggingSettings) : Decidable settings.IsValid := by
  unfold IsValid
  infer_instance

end LoggingSettings

namespace Settings

open FieldReading

variable [Atlas]

/-- The name of a zone that can be found, or nothing.  An unknown name is a
refused field; any other failure of the search ends the reading. -/
def zoneName (value : Json) : Except Fault (Except FieldProblem (Option String)) :=
  match optionalText value with
  | .ok (some name) =>
    match Atlas.find name with
    | .ok _ => .ok (.ok (some name))
    | .error (.unknownZone name) =>
      .ok (.error (.unknownZone ((Fault.unknownZone name).message?.getD "")))
    | .error fault => .error fault
  | .ok none => .ok (.ok none)
  | .error problem => .ok (.error problem)

/-- The log settings among the fields of an object. -/
def loggingOf (fields : Fields) : Except (List FieldFault) LoggingSettings :=
  match Json.lookup fields "logging" with
  | none => .ok .standard
  | some value =>
    match LoggingSettings.ofJson value with
    | .ok settings => .ok settings
    | .error refused =>
      .error (refused.map fun fault => ⟨"logging" :: fault.path, fault.problem⟩)

/-- The settings that the fields of an object give.  `defaultZone` is the zone
when none is given. -/
def ofFields (defaultZone : Option String) (fields : Fields) : Except Fault Settings := do
  let zone : Except FieldProblem (Option String) ←
    match Json.lookup fields "time_zone" with
    | none => pure (.ok defaultZone)
    | some value => zoneName value
  match zone, loggingOf fields with
  | .ok timeZone, .ok logging => pure ⟨timeZone, logging⟩
  | .ok _, .error refused => .error (.refusedSettings refused)
  | .error problem, logging =>
    .error (.refusedSettings (⟨["time_zone"], problem⟩ ::
      match logging with
      | .ok _ => []
      | .error refused => refused))

end Settings

end VirtualClock

import VirtualClock.Json.Reader
import VirtualClock.Settings.EnvFile
import VirtualClock.Settings.Schema
import VirtualClock.Text.LetterCase

/-!
# The sources of the settings

Settings are gathered from what a caller gives, from the variables of the
environment and from a file of variables.  What the caller gives comes before
the environment, and the environment before the file; sections are merged
field by field.

The names of variables, and of the fields that a caller gives, are compared without
their case.  A variable can hold a whole section as JSON, and variables for single
fields of it are laid over that.
-/

namespace VirtualClock.Settings

variable [Atlas]

/-! ## Merging -/

mutual

/-- A value laid over another one: two objects are merged, else the new value stands. -/
def overlayValue (base : Option Json) : Json → Json
  | .object fields =>
    match base with
    | some (.object baseFields) => .object (overlay baseFields fields)
    | _ => .object fields
  | value => value

/-- Fields laid over other ones. -/
def overlay (base : Fields) : Fields → Fields
  | [] => base
  | (name, value) :: rest =>
    overlay (Json.setField name (overlayValue (Json.lookup base name) value) base) rest

end

/-! ## Variables -/

/-- Variables by their lower-case names.  A name alone has no value. -/
abbrev Variables := List (String × Option String)

/-- The name that all variables of the program begin with. -/
def variableStem : String := "timewarp_"

/-- What stands between a section and a field in the name of a variable. -/
def nesting : String := "__"

/-- Variables by their names in lower case; of several with one name the last counts. -/
def foldNames (given : Variables) : Variables :=
  given.foldl (fun known row => EnvFile.setValue (Text.lower row.1) row.2 known) []

/-- The parts of a text between the occurrences of the nesting mark. -/
def nestedParts : List Char → List (List Char)
  | [] => [[]]
  | '_' :: '_' :: rest => [] :: nestedParts rest
  | character :: rest =>
    match nestedParts rest with
    | part :: parts => (character :: part) :: parts
    | [] => [[character]]

/-- Puts a value at a path below an object.  Where something else than an object
stands on the way it stays as it is. -/
def putAt (path : List String) (last : String) (value : Json) (fields : Fields) : Fields :=
  match path with
  | [] => Json.setField last value fields
  | step :: rest =>
    match Json.lookup fields step with
    | none => fields ++ [(step, .object (putAt rest last value []))]
    | some (.object inner) =>
      Json.setField step (.object (putAt rest last value inner)) fields
    | some _ => fields

/-- The text of a variable, or nothing when it has no value. -/
def jsonOfText : Option String → Json
  | some content => .text content
  | none => .null

/-- The part of a variable's name after the name of a section and the nesting mark. -/
def nestedName? (sectionName name : String) : Option (List Char) :=
  let stem := (variableStem ++ sectionName ++ nesting).toList
  if stem.isPrefixOf name.toList then some (name.toList.drop stem.length) else none

/-- The fields of a section that single variables give. -/
def nestedFields (sectionName : String) (known : Variables) : Fields :=
  known.foldl
    (fun fields row =>
      match nestedName? sectionName row.1 with
      | none => fields
      | some name =>
        let parts := (nestedParts name).map String.ofList
        putAt parts.dropLast (parts.getLast?.getD "") (jsonOfText row.2) fields)
    []

def loggingFieldNames : List String :=
  ["level", "format", "file", "max_file_size_mb", "backup_count"]

/-- The fields of a section under their proper names, whatever their case. -/
def properNames (fields : Fields) : Fields :=
  fields.foldl
    (fun known row =>
      let name :=
        (loggingFieldNames.find? fun proper => proper == Text.lower row.1).getD row.1
      Json.setField name row.2 known)
    []

/-- The section of log settings that the variables of a source give, when they
give one. -/
def loggingSection (source : String) (known : Variables) : Except Fault (Option Json) :=
  let nested := nestedFields "logging" known
  match (known.lookup (variableStem ++ "logging")).join with
  | none => .ok (if nested.isEmpty then none else some (.object (properNames nested)))
  | some text =>
    match Json.parse text with
    | none => .error (.unreadableSettings "logging" source)
    | some (.object fields) => .ok (some (.object (properNames (overlay fields nested))))
    | some .null => .ok none
    | some value => .ok (some value)

/-- The fields that the variables of a source give. -/
def variableFields (source : String) (given : Variables) : Except Fault Fields := do
  let known := foldNames given
  let logging ← loggingSection source known
  let zone := ((known.lookup (variableStem ++ "time_zone")).join).map Json.text
  pure ((zone.map fun value => ("time_zone", value)).toList ++
    (logging.map fun value => ("logging", value)).toList)

/-! ## All sources -/

def fieldNames : List String := ["time_zone", "logging"]

/-- Given fields under their proper names.  Of several that are one field but for
their case the first counts. -/
def givenFields (given : Fields) : Fields :=
  fieldNames.filterMap fun name =>
    (given.find? fun row => Text.lower row.1 == name).map fun row => (name, row.2)

def loadGiven (defaultZone : Option String) (given : Fields) : Except Fault Settings :=
  ofFields defaultZone (givenFields given)

/-- The settings from all sources: what is given, the environment, and the text
of a file of variables when there is one. -/
def load (given : Fields) (environment : List (String × String)) (file : Option String) :
    Except Fault Settings := do
  let surrounding ←
    variableFields "EnvSettingsSource" (environment.map fun row => (row.1, some row.2))
  let written ←
    match file with
    | none => pure []
    | some text => variableFields "DotEnvSettingsSource" (EnvFile.values environment text)
  ofFields none (overlay (overlay written surrounding) (givenFields given))

end VirtualClock.Settings

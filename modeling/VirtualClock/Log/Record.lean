import VirtualClock.Json.Printer
import VirtualClock.Log.Template
import VirtualClock.Traveler.Ambient

/-!
# Log records

What a program logs: a message with its arguments, the real time at which it
was logged, and what else it carries.  A record can be stamped with the state
of a traveler, its depth and the virtual time; a stamp can also be set by hand
and then holds any JSON value.
-/

namespace VirtualClock

inductive RecordedFault where
  /-- The record was told to report an exception while there was none. -/
  | absent
  | present (fault : Fault)
  deriving DecidableEq

structure Record where
  name : String
  levelNumber : Int
  levelName : String
  template : String
  arguments : List Value
  /-- Seconds since the first midnight of 1970, in universal time. -/
  created : Binary64
  /-- The milliseconds that are shown after the second. -/
  millis : Value
  fault : Option RecordedFault
  stack : Option String
  depth : Option Json
  virtualTime : Option Json

/-- How deep a traveler has travelled and to what time. -/
structure TravelStamp where
  depth : Json
  virtualTime : Json

namespace Json

/-- The value counts as true: it is neither empty nor zero nor nothing. -/
def isTruthy : Json → Bool
  | .null => false
  | .flag state => state
  | .whole number => number != 0
  | .float number => !number.isZero
  | .text content => !content.isEmpty
  | .list members => !members.isEmpty
  | .object fields => !fields.isEmpty

mutual

/-- The form a program would write the value in. -/
def constructorText : Json → String
  | .null => "None"
  | .flag state => if state then "True" else "False"
  | .whole number => toString number
  | .float number => FloatText.shortest number
  | .text content => Text.quoted content
  | .list members => "[" ++ String.intercalate ", " (constructorTexts members) ++ "]"
  | .object fields => "\x7b" ++ String.intercalate ", " (fieldTexts fields) ++ "\x7d"

def constructorTexts : List Json → List String
  | [] => []
  | member :: rest => constructorText member :: constructorTexts rest

def fieldTexts : List (String × Json) → List String
  | [] => []
  | (name, value) :: rest =>
    (Text.quoted name ++ ": " ++ constructorText value) :: fieldTexts rest

end

def displayText : Json → String
  | .text content => content
  | value => value.constructorText

end Json

namespace RecordedFault

/-- The kinds of faults that belong to the clock, by their full names. -/
def ownKinds : List (String × String) :=
  ["TimeTravelError", "InvalidTravelArgumentError", "UnknownTimeZoneError"].map fun name =>
    (name, "timewarp._errors." ++ name)

/-- The kind and the wording of an exception on a line; an empty wording is left out. -/
def text : RecordedFault → String
  | .absent => "NoneType: None"
  | .present fault =>
    let kind := (ownKinds.lookup fault.kind).getD fault.kind
    match fault.message? with
    | none => kind
    | some wording => if wording.isEmpty then kind else kind ++ ": " ++ wording

end RecordedFault

namespace TravelStamp

variable {Memory : Type}

def none : TravelStamp := ⟨.whole 0, .null⟩

def ofTraveler (traveler : Traveler) : Run Memory TravelStamp := do
  match ← traveler.currentOverride with
  | .none => pure .none
  | some override =>
    let depth ← traveler.depth
    pure ⟨.whole depth, .text override.anchor.isoText⟩

end TravelStamp

namespace Record

variable {Memory : Type}

/-- The message with its arguments filled in; without arguments it is taken as it is. -/
def message (record : Record) : Except Fault String :=
  if record.arguments.isEmpty then .ok record.template
  else Template.fill record.template record.arguments

/-- Stamps a record with the current state of a traveler. -/
def stamp (record : Record) (traveler : Traveler) : Run Memory Record := do
  let stamp ← TravelStamp.ofTraveler traveler
  pure { record with depth := some stamp.depth, virtualTime := some stamp.virtualTime }

/-- The stamp of a record, or the state of the ambient traveler when it has none. -/
def travelStamp (record : Record) : Run Memory TravelStamp := do
  match record.depth with
  | some depth =>
    if depth.isNull then TravelStamp.ofTraveler (← Ambient.traveler)
    else pure ⟨depth, record.virtualTime.getD .null⟩
  | none => TravelStamp.ofTraveler (← Ambient.traveler)

end Record

end VirtualClock

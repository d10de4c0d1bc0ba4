import VirtualClock.Day
import VirtualClock.Zone.Atlas
import VirtualClock.Number.FloatText

/-!
# Values

What a caller can hand to an operation.  The operations of a travelling clock
accept arguments of any kind and refuse the wrong ones by name, so the kinds
they can meet are values of one type with their names and texts.
-/

namespace VirtualClock

inductive Value where
  | nothing
  | whole (number : Int)
  | float (number : Binary64)
  | flag (state : Bool)
  | text (content : String)
  | list (members : List Value)
  | duration (span : Duration)
  | day (content : Day)
  | moment (content : Moment)
  | zone (content : Zone)
  deriving Inhabited

namespace Value

def typeName : Value → String
  | .nothing => "NoneType"
  | .whole _ => "int"
  | .float _ => "float"
  | .flag _ => "bool"
  | .text _ => "str"
  | .list _ => "list"
  | .duration _ => "timedelta"
  | .day content => content.kind.name
  | .moment content => content.kind.name
  | .zone (.utc) | .zone (.fixed _ _) => "timezone"
  | .zone (.region _) => "ZoneInfo"
  | .zone .floating => "NoOffset"

/-- The name of the kind of a value together with its module, where it shows one. -/
def qualifiedTypeName : Value → String
  | .duration _ => "datetime.timedelta"
  | .day content => content.kind.qualifiedName
  | .moment content => content.kind.qualifiedName
  | .zone (.utc) | .zone (.fixed _ _) => "datetime.timezone"
  | .zone (.region _) => "zoneinfo.ZoneInfo"
  | value => value.typeName

mutual

/-- The form a program would build the value with. -/
def constructorText : Value → String
  | .nothing => "None"
  | .whole number => toString number
  | .float number => FloatText.shortest number
  | .flag state => if state then "True" else "False"
  | .text content => Text.quoted content
  | .list members => "[" ++ String.intercalate ", " (constructorTexts members) ++ "]"
  | .duration span => span.constructorText
  | .day content => content.constructorText
  | .moment content => content.constructorText
  | .zone content => content.constructorText

def constructorTexts : List Value → List String
  | [] => []
  | value :: rest => constructorText value :: constructorTexts rest

end

def displayText : Value → String
  | .text content => content
  | .duration span => span.clockText
  | .day content => content.date.isoText
  | .moment content => content.textWith ' '
  | .zone content => content.text
  | value => value.constructorText

/-- The fault of asking a value for a member it lacks. -/
def lacks (value : Value) (member : String) : Fault :=
  .missingAttribute value.qualifiedTypeName member

/-- A value as a duration for moving a clock: flags count as numbers here. -/
def toSpan : Value → Except Fault Duration
  | .duration span => .ok span
  | .whole number => Duration.ofSeconds number
  | .flag state => Duration.ofSeconds (if state then 1 else 0)
  | .float number => Duration.ofFloatSeconds number
  | value => .error (.unsupportedSpan value.qualifiedTypeName)

/-- A value as the offset of a travel: a duration or a number, but no flag. -/
def toOffset : Value → Except Fault Duration
  | .duration span => .ok span
  | .whole number => Duration.ofSeconds number
  | .float number => Duration.ofFloatSeconds number
  | value => .error (.notAnOffset value.typeName)

/-- A value as a zone or as no zone; a text names a region of the atlas. -/
def toZone [Atlas] : Value → Except Fault (Option Zone)
  | .nothing => .ok none
  | .zone content => .ok (some content)
  | .text name => (Atlas.find name).map fun place => some (.region place)
  | value => .error (.notAZone value.typeName)

end Value

end VirtualClock

import VirtualClock.Log.Record

/-!
# Lines of a log

The two forms in which a record is written.  A JSON line is an object on one
line; a text line is meant for readers and can go on over several lines, with
the exception and the stack below the message.

Both show the real time of the record and, while an override was open, the
virtual time and the depth.
-/

namespace VirtualClock

inductive LineFormat where
  /-- Objects that name a service and its version. -/
  | json (service version : Json)
  | text

/-! ## The time of a record -/

namespace RecordTime

/-- The greatest size of a count of seconds. -/
def secondLimit : Nat := 9223372036854775808

/-- Seconds and microseconds of a floating point time, to the nearest microsecond. -/
def micros (created : Binary64) : Except Fault Int :=
  match created with
  | .nan => .error .timestampNotANumber
  | .infinite _ => .error .timestampOutOfRange
  | .finite negative significand exponent =>
    let size := Binary64.millionths significand exponent
    if secondLimit * 1000000 ≤ size then .error .timestampOutOfRange
    else .ok (Binary64.withSign negative size)

/-- Days of four centuries. -/
def cycleDays : Int := 146097

/-- The year of a day, which may lie outside the calendar. -/
def yearOf (day : Int) : Int :=
  day / cycleDays * 400 + (CivilDate.yearOfDay (day % cycleDays).toNat).1

/-- The system counts years from 1900 in words of 32 bits. -/
def canCount (year : Int) : Bool :=
  -2147483648 ≤ year - 1900 && year - 1900 < 2147483648

/-- A count of microseconds since 1970 as a moment in universal time. -/
def utcMoment (micros : Int) : Except Fault Moment :=
  let ticks := micros + WallTime.epochSeconds * 1000000
  match WallTime.ofTicks? ticks with
  | some wall => .ok (.atUtc wall)
  | none =>
    let year := yearOf (ticks / WallTime.ticksPerDay)
    .error (if canCount year then .yearOutOfRange year else .yearTooFar)

def isoText (created : Binary64) : Except Fault String := do
  let micros ← micros created
  let moment ← utcMoment micros
  pure moment.isoText

/-- A wall second since 1970 as date and time of day, the year without padding. -/
def wallText (second : Int) : String :=
  let total := second + WallTime.epochSeconds
  let day := total / 86400
  let rest := (total % 86400).toNat
  let date := CivilDate.ofDayNumber (day % cycleDays).toNat
  let two := fun number => String.ofList (Text.fixedDigits 2 number)
  toString (yearOf day) ++ "-" ++ two date.month ++ "-" ++ two date.day ++ " " ++
    two (rest / 3600) ++ ":" ++ two (rest / 60 % 60) ++ ":" ++ two (rest % 60)

/-- The whole second of a record in the local zone, with milliseconds of its own. -/
def localText (system : ZoneRule) (created : Binary64) (millis : Value) :
    Except Fault String := do
  let _ ← micros created
  let second := created.floor?.getD 0
  let shown := second + system.localOffset second
  if canCount (yearOf ((shown + WallTime.epochSeconds) / 86400)) then
    Template.fill "%s,%03d" [.text (wallText shown), millis]
  else .error .yearTooFar

end RecordTime

namespace Record

variable {Memory : Type}

/-! ## JSON lines -/

/-- The fields of a JSON line after its time. -/
def lineFields (record : Record) (service version : Json) (stamp : TravelStamp)
    (message : String) : List (String × Json) :=
  [("level", .text record.levelName), ("logger", .text record.name),
    ("message", .text message), ("service", service)] ++
  (if version.isTruthy then [("version", version)] else []) ++
  (if stamp.depth.isTruthy then
    [("virtual_time", stamp.virtualTime), ("travel_depth", stamp.depth)]
   else []) ++
  (match record.fault with
    | some (.present fault) => [("exception", .text (RecordedFault.present fault).text)]
    | _ => []) ++
  match record.stack with
  | some stack => if stack.isEmpty then [] else [("stack_info", .text stack)]
  | none => []

def jsonLine (record : Record) (service version : Json) : Run Memory String := do
  let time ← Run.ofExcept (RecordTime.isoText record.created)
  let message ← Run.ofExcept record.message
  let stamp ← record.travelStamp
  pure (Json.render
    (.object (("timestamp", .text time) :: record.lineFields service version stamp message)))

/-! ## Text lines -/

/-- A text with more below it, on a line of its own. -/
def below (text more : String) : String :=
  if text.toList.getLast? = some '\n' then text ++ more else text ++ "\n" ++ more

/-- A text with the exception and the stack of a record below it. -/
def withDetails (record : Record) (text : String) : String :=
  let text :=
    match record.fault with
    | some fault => below text fault.text
    | none => text
  match record.stack with
  | some stack => if stack.isEmpty then text else below text stack
  | none => text

/-- Adds a text at the end of the first line of another one. -/
def extendFirstLine (addition text : String) : String :=
  let characters := text.toList
  let head := characters.takeWhile (· != '\n')
  String.ofList (head ++ addition.toList ++ characters.drop head.length)

/-- What a text line shows of an open override. -/
def travelSuffix (stamp : TravelStamp) : String :=
  " [virtual " ++ stamp.virtualTime.displayText ++ ", depth " ++ stamp.depth.displayText ++ "]"

def plainLine (record : Record) (system : ZoneRule) : Except Fault String := do
  let message ← record.message
  let time ← RecordTime.localText system record.created record.millis
  pure (record.withDetails
    (time ++ " [" ++ record.levelName ++ "] " ++ record.name ++ ": " ++ message))

def textLine (record : Record) : Run Memory String := do
  let world ← Run.world
  let line ← Run.ofExcept (record.plainLine world.system)
  let stamp ← record.travelStamp
  pure (if stamp.depth.isTruthy then extendFirstLine (travelSuffix stamp) line else line)

def line (record : Record) : LineFormat → Run Memory String
  | .json service version => record.jsonLine service version
  | .text => record.textLine

end Record

end VirtualClock

import VirtualClock.Fault
import VirtualClock.Number.Binary64
import VirtualClock.Text.Digits

/-!
# Durations

Spans of time in whole microseconds.  A number of seconds becomes a duration
only when its count of days fits: first a machine word, then a magnitude of
999999999.

The texts write a duration as days, seconds of the day and microseconds, the
last two never negative.
-/

namespace VirtualClock

/-- A span of time in microseconds, forward or backward. -/
structure Duration where
  micros : Int
  deriving DecidableEq, Repr, Inhabited

namespace Duration

def microsPerSecond : Int := 1000000

def microsPerDay : Int := 86400000000

/-- Days, seconds of the day and microseconds of the second; only the days can be negative. -/
def days (span : Duration) : Int := span.micros / microsPerDay

def seconds (span : Duration) : Int := span.micros % microsPerDay / microsPerSecond

def microseconds (span : Duration) : Int := span.micros % microsPerSecond

def ofParts (days seconds microseconds : Int) : Duration :=
  ⟨days * microsPerDay + seconds * microsPerSecond + microseconds⟩

/-- The duration of a count of microseconds, when its days fit. -/
def ofMicros (micros : Int) : Except Fault Duration :=
  let days := micros / microsPerDay
  if days < -2147483648 ∨ 2147483647 < days then .error .wordOverflow
  else if 999999999 < days.natAbs then .error (.spanOutOfBounds days)
  else .ok ⟨micros⟩

def ofSeconds (seconds : Int) : Except Fault Duration := ofMicros (seconds * microsPerSecond)

/-- A floating point number of seconds, to the nearest microsecond. -/
def ofFloatSeconds : Binary64 → Except Fault Duration
  | .nan => .error .notANumber
  | .infinite _ => .error .infiniteSpan
  | .finite negative significand exponent =>
    ofMicros (Binary64.withSign negative (Binary64.millionths significand exponent))

/-- Named parts that are not zero, separated by commas, or a lone zero. -/
def namedParts (span : Duration) : String :=
  let part := fun (name : String) (value : Int) =>
    if value = 0 then [] else [name ++ "=" ++ toString value]
  let parts := part "days" span.days ++ part "seconds" span.seconds ++
    part "microseconds" span.microseconds
  if parts.isEmpty then "0" else String.intercalate ", " parts

/-- The form a program would build the duration with. -/
def constructorText (span : Duration) : String :=
  "datetime.timedelta(" ++ namedParts span ++ ")"

/-- Days when there are any, then hours, minutes and seconds, then the fraction when there
is one. -/
def clockText (span : Duration) : String :=
  let dayText :=
    if span.days = 0 then ""
    else toString span.days ++ (if span.days.natAbs = 1 then " day, " else " days, ")
  let seconds := span.seconds.toNat
  let fraction := span.microseconds.toNat
  dayText ++ toString (seconds / 3600) ++ ":" ++ Text.atLeastTwo (seconds / 60 % 60) ++ ":" ++
    Text.atLeastTwo (seconds % 60) ++
    if fraction = 0 then "" else "." ++ String.ofList (Text.fixedDigits 6 fraction)

end Duration

end VirtualClock

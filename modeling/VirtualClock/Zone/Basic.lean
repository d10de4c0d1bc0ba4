import VirtualClock.Duration
import VirtualClock.Zone.Region

/-!
# Zones

A zone turns wall times into instants.  Universal time and fixed offsets do so
without looking at the wall time; a region looks it up in its history; a
floating zone has no offset at all and leaves its wall times as they are.

Offsets are microseconds east of universal time.
-/

namespace VirtualClock

/-- A zone.  A fixed offset of zero without a label is universal time itself;
`Zone.ofOffset` keeps to that. -/
inductive Zone where
  | utc
  | fixed (offset : Int) (label : Option String)
  | region (place : Region)
  | floating
  deriving DecidableEq, Repr

/-- Hours and minutes of an offset with its sign, and seconds and microseconds where it has any. -/
def offsetText (offset : Int) : String :=
  let size := offset.natAbs
  let seconds := size / 1000000
  let fraction := size % 1000000
  let digits := fun number => String.ofList (Text.fixedDigits 2 number)
  (if offset < 0 then "-" else "+") ++ digits (seconds / 3600) ++ ":" ++
    digits (seconds / 60 % 60) ++
    (if seconds % 60 = 0 ∧ fraction = 0 then "" else ":" ++ digits (seconds % 60)) ++
    if fraction = 0 then "" else "." ++ String.ofList (Text.fixedDigits 6 fraction)

namespace Zone

def ofOffset (offset : Int) (label : Option String) : Zone :=
  if offset = 0 ∧ label.isNone then .utc else .fixed offset label

/-- Two mentions of the zone are one and the same: universal time and the
regions exist once, while every fixed or floating zone stands for itself. -/
def isShared : Zone → Bool
  | .utc | .region _ => true
  | .fixed _ _ | .floating => false

/-- The form a program would build the zone with. -/
def constructorText : Zone → String
  | .utc => "datetime.timezone.utc"
  | .fixed offset label =>
    let labelText :=
      match label with
      | none => ""
      | some label => ", " ++ Text.quoted label
    "datetime.timezone(" ++ (Duration.mk offset).constructorText ++ labelText ++ ")"
  | .region place => "zoneinfo.ZoneInfo(key=" ++ Text.quoted place.name ++ ")"
  | .floating => "NoOffset()"

/-- The name of the zone, or its offset when it has none. -/
def text : Zone → String
  | .utc => "UTC"
  | .fixed _ (some label) => label
  | .fixed offset none => "UTC" ++ offsetText offset
  | .region place => place.name
  | .floating => "NoOffset()"

/-- The written form of a zone that may be absent. -/
def optionalText : Option Zone → String
  | none => "None"
  | some zone => zone.constructorText

end Zone

end VirtualClock

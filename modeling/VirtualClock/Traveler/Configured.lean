import VirtualClock.Settings.Schema
import VirtualClock.Traveler.Basic

/-!
# Configured travelers

The traveler that honours settings: it shows the time in the zone they name.
-/

namespace VirtualClock

variable [Atlas]

namespace Settings

/-- The zone that the settings name, when they name one. -/
def zone (settings : Settings) : Except Fault (Option Zone) :=
  match settings.timeZone with
  | none => .ok none
  | some name => (Atlas.find name).map fun place => some (.region place)

end Settings

/-- A traveler on a clock and a stack that shows the time in the zone of the settings. -/
def Traveler.ofSettings (settings : Settings) (clock : ClockKey) (stack : StackKey) :
    Except Fault Traveler :=
  settings.zone.map fun zone => ⟨clock, stack, zone⟩

end VirtualClock

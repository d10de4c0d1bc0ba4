import VirtualClock.Log.System

/-!
# The journal in the log

What was done to overrides is logged for those who look for the source of a
strange time: every event becomes a record of the least severe level, with the
real time at which it was logged.
-/

namespace VirtualClock

/-- The real time at which something is logged: seconds since the first midnight
of 1970, and the milliseconds of the second. -/
structure LogTime where
  created : Binary64
  millis : Nat

def journalName : String := "timewarp._traveler"

def journalLevel : String := "DEBUG"

def TravelEvent.record (event : TravelEvent) (time : LogTime) : Record where
  name := journalName
  levelNumber := LogSystem.levelNumber journalLevel
  levelName := journalLevel
  template := event.message
  arguments := []
  created := time.created
  millis := .whole time.millis
  fault := none
  stack := none
  depth := none
  virtualTime := none

namespace LogSystem

variable {Memory : Type}

/-- Logs the events of a row of journal entries. -/
def emitJournal (time : LogTime) (logs : LogSystem) : List JournalEntry → Run Memory LogSystem
  | [] => pure logs
  | entry :: rest => do
    let (_, logs) ← emit (entry.event.record time) logs
    emitJournal time logs rest

end LogSystem

end VirtualClock

import VirtualClock.CommandLine.Options
import VirtualClock.Moment.Reader
import VirtualClock.Text.LetterCase

/-!
# Requests

What the options ask for once they are checked: where to travel, in which zone
and how to print and log.  The checks come in a fixed order, and the first that
fails is the one that is reported.

The words for the log are compared without their case and kept in the case of
the settings.
-/

namespace VirtualClock.CommandLine

variable [Atlas]

inductive Journey where
  | stay
  /-- To a target, which was written in a certain way. -/
  | to (written : String) (target : Moment)
  /-- By a number of seconds. -/
  | by (offset : Binary64)

structure Request where
  journey : Journey
  zone : Option String
  level : Option String
  format : Option String
  asJson : Bool
  envFile : String

namespace Options

/-- A word among a row of choices, after its case was changed. -/
def chosen (choices : List String) (change : String → String)
    (problem : String → UsageProblem) : Option String → Except UsageProblem (Option String)
  | none => .ok none
  | some written =>
    if choices.contains (change written) then .ok (some (change written))
    else .error (problem written)

/-- The journey that the target and the offset ask for; only one of them can be given. -/
def journey (options : Options) : Except UsageProblem Journey := do
  match options.target, ← options.offsetSeconds with
  | none, none => pure .stay
  | none, some offset => pure (.by offset)
  | some _, some _ => .error .targetAndOffset
  | some written, none =>
    match Moment.ofIsoText? written with
    | some target => pure (.to written target)
    | none => .error (.unreadableTarget written)

/-- Checks that the zone can be found.  Only an unknown name counts as misuse. -/
def checkZone (options : Options) : Except Stop Unit :=
  match options.zone with
  | none => .ok ()
  | some name =>
    match Atlas.find name with
    | .ok _ => .ok ()
    | .error (.unknownZone name) =>
      .error (.misuse (.unknownZone ((Fault.unknownZone name).message?.getD "")))
    | .error fault => .error (.fault fault)

def request (options : Options) : Except Stop Request := do
  if options.showsVersion then .error .showsVersion
  let level ← Stop.misused (chosen levelNames Text.upper .unknownLevel options.logLevel)
  let format ← Stop.misused (chosen formatNames Text.lower .unknownFormat options.logFormat)
  let journey ← Stop.misused options.journey
  options.checkZone
  pure ⟨journey, options.zone, level, format, options.asJson, options.envFile⟩

end Options

namespace Request

def ofArguments (pages : Pages) (arguments : List String) : Except Stop Request := do
  let options ← Options.ofArguments pages arguments
  options.request

/-- The settings with what the request puts in their place. -/
def adjust (request : Request) (settings : Settings) : Settings :=
  { timeZone := request.zone <|> settings.timeZone
    logging :=
      { settings.logging with
        level := request.level.getD settings.logging.level
        format := request.format.getD settings.logging.format } }

end Request

namespace Journey

/-- A fault on a journey: what cannot be represented is put down to the option that
asked for the journey. -/
def stop (journey : Journey) (fault : Fault) : Stop :=
  if fault.isOverflow then
    match journey with
    | .stay => .fault fault
    | .to written _ => .misuse (.targetOutOfRange written)
    | .by offset => .misuse (.offsetOutOfRange offset)
  else .fault fault

end Journey

end VirtualClock.CommandLine

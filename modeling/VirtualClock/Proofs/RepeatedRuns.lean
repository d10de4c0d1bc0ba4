import VirtualClock.Proofs.CommandOutcomes
import VirtualClock.Proofs.WholeSecondViews

/-!
# Runs that are asked for what was printed

The timestamp that a run prints can be given to another run as its target.  With the
same zone that run ends well too and prints the same views, to the whole second.  The
real clock has no part in it.
-/

namespace VirtualClock.CommandLine

variable {surroundings : Surroundings} {arguments : List String}

/-! ## Asking again -/

namespace Options

variable {options asked : Options} {written : String}

/-- The options ask for a target in the zone of other options, and nothing else is wrong with
them. -/
structure AskFor (asked : Options) (written : String) (options : Options) : Prop where
  target : asked.target = some written
  offset : asked.offset = none
  zone : asked.zone = options.zone
  envFile : asked.envFile = options.envFile
  version : asked.showsVersion = false
  level : ∃ level, chosen levelNames Text.upper .unknownLevel asked.logLevel = .ok level
  format : ∃ format, chosen formatNames Text.lower .unknownFormat asked.logFormat = .ok format

/-- A readable target in a zone that was found before is accepted. -/
theorem AskFor.accepted [Atlas] (asks : asked.AskFor written options) {target : Moment}
    (read : Moment.ofIsoText? written = some target) (checked : options.checkZone = .ok ()) :
    ∃ request, asked.request = .ok request ∧ request.journey = .to written target ∧
      request.zone = options.zone ∧ request.asJson = asked.asJson ∧
      request.envFile = options.envFile := by
  obtain ⟨level, levelled⟩ := asks.level
  obtain ⟨format, formatted⟩ := asks.format
  have unmoved : asked.offsetSeconds = .ok none := by
    unfold offsetSeconds
    rw [asks.offset]
  have journey : asked.journey = .ok (.to written target) := by
    unfold Options.journey
    rw [asks.target, unmoved]
    dsimp only [bind, Except.bind]
    rw [read]
    rfl
  have checkedToo : asked.checkZone = .ok () := by
    unfold checkZone at checked ⊢
    rw [asks.zone]
    exact checked
  have makes : asked.Makes
      ⟨.to written target, asked.zone, level, format, asked.asJson, asked.envFile⟩ :=
    ⟨asks.version, levelled, formatted, journey, checkedToo, rfl, rfl, rfl⟩
  exact ⟨_, request_eq_ok_iff.mpr makes, rfl, asks.zone, rfl, asks.envFile⟩

/-! ### Arguments -/

/-- The options for a target in the zone of other options, printed as those print. -/
def back (options : Options) (written : String) : Options :=
  { standard with
    target := some written, zone := options.zone, envFile := options.envFile,
    asJson := options.asJson }

def zoneArguments : Option String → List String
  | none => []
  | some name => [OptionName.zone.text, name]

def jsonArguments (asJson : Bool) : List String := if asJson then [OptionName.json.text] else []

/-- The arguments that ask for them. -/
def backArguments (options : Options) (written : String) : List String :=
  OptionName.target.text :: written :: OptionName.envFile.text :: options.envFile ::
    (zoneArguments options.zone ++ jsonArguments options.asJson)

theorem back_asksFor (options : Options) (written : String) :
    (options.back written).AskFor written options :=
  ⟨rfl, rfl, rfl, rfl, rfl, ⟨none, rfl⟩, ⟨none, rfl⟩⟩

theorem takeOptions_value (options : Options) {name : OptionName} (takes : name.takesValue = true)
    (value : String) (rest : List String) :
    takeOptions options (name.text :: value :: rest) =
      takeOptions (options.put name value) rest := by
  rw [takeOptions]
  cases name with
  | target | offset | zone | logLevel | logFormat | envFile => rfl
  | version | json | installCompletion | showCompletion | help => cases takes

theorem takeOptions_flag (options : Options) {name : OptionName} (takes : name.takesValue = false)
    (rest : List String) :
    takeOptions options (name.text :: rest) = takeOptions (options.put name "") rest := by
  rw [takeOptions]
  cases name with
  | target | offset | zone | logLevel | logFormat | envFile => cases takes
  | version | json | installCompletion | showCompletion | help => rfl

theorem takeOptions_zoneArguments (unzoned : options.zone = none) (zone : Option String)
    (rest : List String) :
    takeOptions options (zoneArguments zone ++ rest) = takeOptions { options with zone } rest := by
  cases zone with
  | none =>
      show takeOptions options rest = takeOptions { options with zone := none } rest
      rw [← unzoned]
  | some name => exact takeOptions_value options rfl name rest

theorem takeOptions_jsonArguments (plain : options.asJson = false) (asJson : Bool) :
    takeOptions options (jsonArguments asJson) = .ok ({ options with asJson }, []) := by
  cases asJson with
  | false =>
      show takeOptions options [] = .ok ({ options with asJson := false }, [])
      rw [← plain, takeOptions]
  | true =>
      show takeOptions options (OptionName.json.text :: []) = _
      rw [takeOptions_flag options rfl, takeOptions]
      rfl

theorem ofArguments_backArguments (pages : Pages) (options : Options) (written : String) :
    ofArguments pages (options.backArguments written) = .ok (options.back written) := by
  have taken : takeOptions standard (options.backArguments written) =
      .ok (options.back written, []) := by
    unfold backArguments
    rw [takeOptions_value standard rfl, takeOptions_value _ rfl, takeOptions_zoneArguments rfl,
      takeOptions_jsonArguments rfl]
    rfl
  unfold ofArguments
  rw [taken]
  rfl

end Options

/-! ## What a run showed -/

section

variable [Atlas]

/-- A run that prints has options, settings and a zone, and prints what that zone shows of the
instant of its journey. -/
structure Prints (surroundings : Surroundings) (arguments : List String) (options : Options)
    (zone : Option Zone) (instant shown : Moment) : Prop where
  given : Options.ofArguments surroundings.pages arguments = .ok options
  checked : options.checkZone = .ok ()
  settled : ∃ file settings, surroundings.findVariables options.envFile = .ok file ∧
    surroundings.loadSettings file = .ok settings ∧
    openLog surroundings settings.logging = .ok () ∧
    ({ settings with timeZone := options.zone <|> settings.timeZone } : Settings).zone = .ok zone
  utc : instant.zone = some .utc
  shows : instant.inOptionalZone surroundings.system zone = .ok shown

def Options.printed (options : Options) (views : Views) : String :=
  if options.asJson then views.jsonText else views.text

theorem exists_prints {output : String} (ended : (run surroundings arguments).outcome = .ok output) :
    ∃ options zone instant shown, Prints surroundings arguments options zone instant shown ∧
      output = options.printed (Views.ofShown shown) := by
  rw [run_outcome] at ended
  obtain ⟨request, asked, ended⟩ := Outcome.bind_eq_ok_iff.mp ended
  obtain ⟨file, found, ended⟩ := Outcome.bind_eq_ok_iff.mp ended
  obtain ⟨settings, settled, ended⟩ := Outcome.bind_eq_ok_iff.mp ended
  obtain ⟨_, opened, travelled⟩ := Outcome.bind_eq_ok_iff.mp ended
  obtain ⟨options, given, accepted⟩ := Outcome.bind_eq_ok_iff.mp asked
  have makes := Options.request_eq_ok_iff.mp accepted
  obtain ⟨loaded, load, rfl⟩ := settingsFor_eq_ok_iff.mp settled
  obtain ⟨zone, views, zoned, viewed, rfl⟩ := travelOutcome_eq_ok_iff.mp travelled
  rw [viewsOn_outcome request.journey (travelerIn zone) rfl] at viewed
  obtain ⟨instant, led, viewed⟩ := Outcome.bind_eq_ok_iff.mp viewed
  obtain ⟨shown, shows, rfl⟩ := Outcome.map_eq_ok_iff.mp viewed
  have settles : ({ loaded with timeZone := options.zone <|> loaded.timeZone } : Settings).zone =
      .ok zone := by
    rw [← makes.zone]
    exact zoned
  have opens : openLog surroundings loaded.logging = .ok () :=
    Outcome.mapError_eq_ok_iff.mp opened
  have sourced : surroundings.findVariables options.envFile = .ok file := by
    rw [← makes.envFile]
    exact Outcome.mapError_eq_ok_iff.mp found
  refine ⟨options, zone, instant, shown, ⟨given, makes.checked, ⟨file, loaded, sourced, load, opens,
    settles⟩, request.journey.zone_of_instant led, shows⟩, ?_⟩
  unfold Request.printed Options.printed
  rw [makes.asJson]

/-! ## What the run shows again -/

/-- Settings name no zone or an orderly region, so what they show is in whole seconds. -/
theorem showsWhole_of_settings (orderly : Atlas.IsOrderly) {system : ZoneRule}
    (within : system.IsWithinDay) {settings : Settings} {zone : Option Zone} {instant shown : Moment}
    (zoned : settings.zone = .ok zone) (utc : instant.zone = some .utc)
    (shows : instant.inOptionalZone system zone = .ok shown) :
    ∃ seconds, Moment.ShowsWhole system zone instant shown seconds := by
  obtain ⟨_, rfl⟩ | ⟨name, place, _, found, rfl⟩ := Settings.zone_eq_ok_iff.mp zoned
  · exact Moment.showsWhole_of_local within utc shows
  · exact Moment.showsWhole_of_region (.region (Atlas.isOrderly_of_find orderly found)) utc shows

/-- A journey to a target shows what the zone shows of the anchor there. -/
theorem viewsOn_of_anchorAt {journey : Journey} {written : String} {target anchor shown : Moment}
    {zone : Option Zone} (journeys : journey = .to written target)
    (arrived : ((travelerIn zone).anchorAt (.moment target) (openingWorld surroundings)).1 =
      .ok anchor)
    (shows : anchor.inOptionalZone surroundings.system zone = .ok shown) :
    (viewsOn journey (travelerIn zone) (openingWorld surroundings)).1 =
      .ok (Views.ofShown shown) := by
  rw [journeys, viewsOn_outcome _ (travelerIn zone) rfl]
  show ((travelerIn zone).anchorAt (.moment target) _).1 >>= _ = _
  rw [arrived]
  show (anchor.inOptionalZone surroundings.system zone).map Views.ofShown = _
  rw [shows]
  rfl

theorem Prints.again {options : Options} {zone : Option Zone} {instant shown : Moment}
    (orderly : Atlas.IsOrderly) (within : surroundings.system.IsWithinDay)
    (prints : Prints surroundings arguments options zone instant shown) (reading : Moment)
    (logTime : LogTime) {again : List String} {asked : Options}
    (givenAgain : Options.ofArguments surroundings.pages again = .ok asked)
    (asks : asked.AskFor (Views.ofShown shown).timestamp options) :
    (run { surroundings with reading, logTime } again).outcome =
      .ok (asked.printed (Views.ofShown shown).withoutFraction) := by
  obtain ⟨file, settings, found, loaded, opens, zoned⟩ := prints.settled
  obtain ⟨seconds, whole⟩ := showsWhole_of_settings orderly within zoned prints.utc prints.shows
  -- the printed timestamp leads to the whole second of the instant, in every world
  obtain ⟨target, anchor, read, arrived, utc, truncated⟩ :=
    (travelerIn zone).anchorAt_printed whole
      (openingWorld { surroundings with reading, logTime })
  obtain ⟨wholeShown, showsAgain, wholeWall, wholeOffset⟩ := whole.truncated anchor utc truncated
  obtain ⟨request, accepted, journey, sameZone, sameForm, sameFile⟩ :=
    asks.accepted read prints.checked
  -- the settings come from the same sources, and so does the zone
  have prepares : Prepares { surroundings with reading, logTime } again request
      (request.adjust settings) := by
    refine ⟨?_, file, settings, ?_, loaded, rfl⟩
    · unfold Request.ofArguments
      rw [givenAgain]
      exact accepted
    · rw [sameFile]
      exact found
  have opensAgain : openLog { surroundings with reading, logTime }
      (request.adjust settings).logging = .ok () := opens
  have zonedAgain : (request.adjust settings).zone = .ok zone := by
    rw [← zoned, ← sameZone]
    rfl
  have viewed := viewsOn_of_anchorAt journey arrived showsAgain
  have travelled := travelOutcome_eq_ok_iff.mpr
    ⟨zone, Views.ofShown wholeShown, zonedAgain, viewed, rfl⟩
  have printed : request.printed (Views.ofShown wholeShown) =
      asked.printed (Views.ofShown shown).withoutFraction := by
    rw [Views.withoutFraction_ofShown whole.offset wholeOffset wholeWall]
    unfold Request.printed Options.printed
    rw [sameForm]
  rw [run_outcome_of_prepares prepares, opensAgain]
  show travelOutcome _ request (request.adjust settings) = _
  rw [travelled, printed]

end

/-! ### The second half past two in Berlin -/

/-- Surroundings whose settings name Berlin, a quarter of a second after half past two came for
the second time on a day in October. -/
def berlinSurroundings : Surroundings :=
  { plainSurroundings with
    reading := .atUtc ⟨Moment.secondHalfPastTwo.ticks + 250000, by decide, by decide⟩
    loadSettings := fun _ => .ok ⟨some "Europe/Berlin", .standard⟩ }

/-- The views of that quarter of a second. -/
def berlinViews : Views :=
  ⟨"2024-10-27T02:30:00.250000+01:00", "2024-10-27", "2024-10-27T02:30:00.250000+01:00"⟩

/-- Asked at any other time, the run still tells the later half past two from the earlier one. -/
example :
    (run { berlinSurroundings with reading := defaultReading }
        ["--at", "2024-10-27T02:30:00.250000+01:00"]).outcome.toOption =
      some berlinViews.withoutFraction.text := by
  decide +kernel

end VirtualClock.CommandLine

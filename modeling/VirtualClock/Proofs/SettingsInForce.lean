import VirtualClock.Proofs.LoadedSettings

/-!
# The settings in force in a run

The options for the level, the format and the zone are written over the settings once these
are loaded, and nothing reads the settings through their schema again.  Nothing needs to: the
checks of the options leave words that the schema has as well, and a zone that was found.

So a run that gets as far as configuring its log does that with settings that could have been
loaded as they are.  Its level has a number and its traveler a zone, the one that the options
name or else the one that the settings were loaded with.
-/

namespace VirtualClock

/-! ## The level of the root -/

namespace LogSystem

/-- The names by which a level can be set; two of the levels have a second one. -/
def levelTable : List (String × Int) :=
  [("CRITICAL", 50), ("FATAL", 50), ("ERROR", 40), ("WARNING", 30), ("WARN", 30), ("INFO", 20),
    ("DEBUG", 10), ("NOTSET", 0)]

def levelNamed (name : String) : Except Fault Int :=
  match levelTable.lookup name with
  | some number => .ok number
  | none => .error (.unknownLevel name)

/-- Configures the log and looks its level up by name, which comes last: a name that no level
has leaves the root with the new handlers and its old level. -/
def configureByName (settings : LoggingSettings) (service version : Json) (logs : LogSystem) :
    Except Fault Unit × LogSystem :=
  match logs.configure settings service version with
  | (.error fault, after) => (.error fault, after)
  | (.ok (), after) =>
    match levelNamed settings.level with
    | .ok _ => (.ok (), after)
    | .error fault => (.error fault, { after with level := logs.level })

theorem levelNamed_of_mem {name : String} (member : name ∈ levelNames) :
    levelNamed name = .ok (levelNumber name) := by
  have listed : ∀ name ∈ levelNames, levelTable.lookup name = some (levelNumber name) := by
    decide
  unfold levelNamed
  rw [listed name member]

theorem configureByName_of_mem {settings : LoggingSettings} (member : settings.level ∈ levelNames)
    (service version : Json) (logs : LogSystem) :
    logs.configureByName settings service version = logs.configure settings service version := by
  unfold configureByName
  rw [levelNamed_of_mem member]
  rcases logs.configure settings service version with ⟨fault | ⟨⟩, after⟩
  · rfl
  · rfl

end LogSystem

/-- Settings that satisfy the schema name no zone or one that is found. -/
theorem Settings.IsValid.exists_zone [Atlas] {settings : Settings} (valid : settings.IsValid) :
    ∃ zone, settings.zone = .ok zone := by
  cases named : settings.timeZone with
  | none => exact ⟨none, CommandLine.Settings.zone_eq_ok_iff.mpr (.inl ⟨named, rfl⟩)⟩
  | some name =>
      obtain ⟨place, found⟩ := Atlas.isKnown_iff.mp (valid.zone name named)
      exact ⟨_, CommandLine.Settings.zone_eq_ok_iff.mpr (.inr ⟨name, place, named, found, rfl⟩)⟩

namespace CommandLine

variable {surroundings : Surroundings} {arguments : List String}

/-! ## Options over settings -/

namespace Options

variable {options : Options} {request : Request}

/-- The settings with the words and the zone of the options in the place of their own. -/
def overwrite (options : Options) (settings : Settings) : Settings :=
  { timeZone := options.zone <|> settings.timeZone
    logging :=
      { settings.logging with
        level := (options.logLevel.map Text.upper).getD settings.logging.level
        format := (options.logFormat.map Text.lower).getD settings.logging.format } }

theorem Makes.adjust_eq [Atlas] (makes : options.Makes request) (settings : Settings) :
    request.adjust settings = options.overwrite settings := by
  unfold Request.adjust overwrite
  rw [makes.zone, (chosen_eq_ok_iff.mp makes.level).1, (chosen_eq_ok_iff.mp makes.format).1]

theorem isKnown_of_checkZone [Atlas] {name : String} (checked : options.checkZone = .ok ())
    (named : options.zone = some name) : Atlas.IsKnown name := by
  have same : ({ options with zone := some name } : Options) = options := by
    rw [← named]
  rw [← same, checkZone_named] at checked
  cases found : Atlas.find name with
  | ok place => exact Atlas.isKnown_iff.mpr ⟨place, found⟩
  | error fault =>
      rw [found] at checked
      cases fault <;> cases checked

/-- A word that was chosen in the place of one of the choices. -/
theorem mem_of_chosen {choices : List String} {change : String → String}
    {problem : String → UsageProblem} {written word : Option String} {current : String}
    (chose : chosen choices change problem written = .ok word) (member : current ∈ choices) :
    (written.map change).getD current ∈ choices := by
  obtain ⟨rfl, known⟩ := chosen_eq_ok_iff.mp chose
  cases written with
  | none => exact member
  | some written => exact known _ rfl

/-- What accepted options write over settings keeps to the schema. -/
theorem Makes.isValid_overwrite [Atlas] (makes : options.Makes request) {settings : Settings}
    (valid : settings.IsValid) : (options.overwrite settings).IsValid := by
  obtain ⟨⟨level, format, size, count⟩, known⟩ := valid
  refine ⟨⟨mem_of_chosen makes.level level, mem_of_chosen makes.format format, size, count⟩, ?_⟩
  intro name inForce
  cases named : options.zone with
  | none =>
      apply known name
      unfold overwrite at inForce
      rw [named] at inForce
      exact inForce
  | some other =>
      unfold overwrite at inForce
      rw [named] at inForce
      cases inForce
      exact isKnown_of_checkZone makes.checked named

end Options

/-! ## How settings come into force -/

section

variable [Atlas]

/-- The run configures its log with these settings: they are those that were loaded, with the
options of the arguments written over them. -/
structure InForce (surroundings : Surroundings) (arguments : List String) (options : Options)
    (loaded settings : Settings) : Prop where
  given : Options.ofArguments surroundings.pages arguments = .ok options
  overwritten : settings = options.overwrite loaded
  configures : ∃ request file, options.request = .ok request ∧
    surroundings.findVariables options.envFile = .ok file ∧
    surroundings.loadSettings file = .ok loaded ∧
    run surroundings arguments = configureAndTravel surroundings request settings
      ((LogSystem.initial surroundings.directories).writeError (complaints file))

theorem exists_inForce {settings : Settings}
    (reached : settingsOf surroundings arguments = .ok settings) :
    ∃ options loaded, InForce surroundings arguments options loaded settings := by
  obtain ⟨request, asked, reached⟩ := Outcome.bind_eq_ok_iff.mp reached
  obtain ⟨file, found, settled⟩ := Outcome.bind_eq_ok_iff.mp reached
  obtain ⟨options, given, accepted⟩ := Outcome.bind_eq_ok_iff.mp asked
  obtain ⟨loaded, load, adjusted⟩ := settingsFor_eq_ok_iff.mp settled
  have makes := Options.request_eq_ok_iff.mp accepted
  have sourced : surroundings.findVariables options.envFile = .ok file := by
    rw [← makes.envFile]
    exact Outcome.mapError_eq_ok_iff.mp found
  have overwritten : settings = options.overwrite loaded := by
    rw [← makes.adjust_eq, adjusted]
  refine ⟨options, loaded, given, overwritten, request, file, accepted, sourced, load, ?_⟩
  unfold run
  simp only [asked, found, settled]

/-- A run that does not come to configuring its log is stopped by what kept it from its
settings, and has at most complained about the file of variables. -/
theorem run_of_settingsOf_error {stop : Stop}
    (stopped : settingsOf surroundings arguments = .error stop) :
    ∃ complaint, run surroundings arguments =
      ⟨.error stop, (LogSystem.initial surroundings.directories).writeError complaint⟩ := by
  have silent : (LogSystem.initial surroundings.directories).writeError "" =
      LogSystem.initial surroundings.directories := rfl
  unfold run
  rcases Outcome.bind_eq_error_iff.mp stopped with unasked | ⟨request, asked, stopped⟩
  · simp only [unasked]
    exact ⟨"", by rw [silent]⟩
  rcases Outcome.bind_eq_error_iff.mp stopped with unread | ⟨file, found, unsettled⟩
  · simp only [asked, unread]
    exact ⟨"", by rw [silent]⟩
  · simp only [asked, found, unsettled]
    exact ⟨complaints file, rfl⟩

/-! ## The settings in force -/

/-- Where settings are loaded from: all sources, or only what a caller gives. -/
inductive SettingsSources where
  | all (given : Fields) (environment : List (String × String))
  | givenAlone (given : Fields)

namespace SettingsSources

def load : SettingsSources → Option String → Except Fault Settings
  | .all given environment, file => Settings.load given environment file
  | .givenAlone given, _ => Settings.loadGiven none given

theorem isValid_of_load {sources : SettingsSources} {file : Option String} {settings : Settings}
    (loaded : sources.load file = .ok settings) : settings.IsValid := by
  cases sources with
  | all given environment => exact Settings.isValid_of_load loaded
  | givenAlone given => exact Settings.isValid_of_ofFields (by simp) loaded

end SettingsSources

/-- A run that configures its log does so with settings that satisfy the schema and would be
loaded again as they are, whatever the options wrote over the ones that were loaded.  Looking up
their level by name changes nothing, and their traveler is made, with the zone that the options
name or else that of the settings that were loaded.  Any other run is stopped before, with a log
that nobody configured. -/
theorem settings_in_force_keep_schema {sources : SettingsSources}
    (sourced : surroundings.loadSettings = sources.load) :
    (∀ settings, settingsOf surroundings arguments = .ok settings →
      settings.IsValid ∧ Settings.loadGiven none settings.fields = .ok settings ∧
      LogSystem.levelNamed settings.logging.level =
        .ok (LogSystem.levelNumber settings.logging.level) ∧
      (∀ service version logs, LogSystem.configureByName settings.logging service version logs =
        LogSystem.configure settings.logging service version logs) ∧
      ∃ options loaded traveler, InForce surroundings arguments options loaded settings ∧
        Traveler.ofSettings settings clockKey stackKey = .ok traveler ∧
        (∀ name, options.zone = some name → (Value.text name).toZone = .ok traveler.zone) ∧
        (options.zone = none → loaded.zone = .ok traveler.zone)) ∧
    ∀ stop, settingsOf surroundings arguments = .error stop →
      ∃ complaint, run surroundings arguments =
        ⟨.error stop, (LogSystem.initial surroundings.directories).writeError complaint⟩ := by
  refine ⟨?_, fun stop stopped => run_of_settingsOf_error stopped⟩
  intro settings reached
  obtain ⟨options, loaded, inForce⟩ := exists_inForce reached
  obtain ⟨request, file, accepted, _, load, _⟩ := inForce.configures
  have makes := Options.request_eq_ok_iff.mp accepted
  have loadedValid : loaded.IsValid := by
    rw [sourced] at load
    exact SettingsSources.isValid_of_load load
  have valid : settings.IsValid := by
    rw [inForce.overwritten]
    exact makes.isValid_overwrite loadedValid
  obtain ⟨zone, zoned⟩ := valid.exists_zone
  have level := valid.logging.1
  refine ⟨valid, Settings.loadGiven_fields_iff.mpr valid, LogSystem.levelNamed_of_mem level,
    LogSystem.configureByName_of_mem level, options, loaded, ⟨clockKey, stackKey, zone⟩, inForce,
    ?_, ?_, ?_⟩
  · unfold Traveler.ofSettings
    rw [zoned]
    rfl
  · intro name named
    rw [inForce.overwritten] at zoned
    unfold Options.overwrite at zoned
    rw [named] at zoned
    exact zoned
  · intro unnamed
    rw [inForce.overwritten] at zoned
    unfold Options.overwrite at zoned
    rw [unnamed] at zoned
    exact zoned

end

/-! ### A level without its dot -/

/-- An environment that names Tokyo and the lowest level. -/
def tokyoSources : SettingsSources :=
  .all [] [("TIMEWARP_TIME_ZONE", "Asia/Tokyo"), ("timewarp_logging__level", "DEBUG")]

def tokyoSurroundings : Surroundings :=
  { plainSurroundings with
    findVariables := fun _ => .ok (some "TIMEWARP_LOGGING__BACKUP_COUNT=0\n")
    loadSettings := tokyoSources.load }

/-- The first letter of the level is the dotless one, which is longer and no letter of ASCII. -/
def dotlessArguments : List String :=
  ["--log-level", "ınfo", "--log-format", "Text", "--tz", "Europe/Berlin"]

def dotlessSettings : Settings := ⟨some "Europe/Berlin", ⟨"INFO", "text", none, 10, 0⟩⟩

theorem dotless_level_is_kept_in_capitals :
    settingsOf tokyoSurroundings dotlessArguments = .ok dotlessSettings ∧
    dotlessSettings.IsValid ∧
    LogSystem.levelNamed dotlessSettings.logging.level = .ok 20 ∧
    ∃ traveler, Traveler.ofSettings dotlessSettings clockKey stackKey = .ok traveler ∧
      (Value.text "Europe/Berlin").toZone = .ok traveler.zone := by
  have reached : settingsOf tokyoSurroundings dotlessArguments = .ok dotlessSettings := by
    rfl
  have sourced : tokyoSurroundings.loadSettings = tokyoSources.load := rfl
  obtain ⟨keeps, _⟩ := settings_in_force_keep_schema sourced
  obtain ⟨valid, _, level, _, options, loaded, traveler, inForce, made, named, _⟩ :=
    keeps dotlessSettings reached
  have zone : options.zone = some "Europe/Berlin" := by
    have given := inForce.given
    cases given
    rfl
  exact ⟨reached, valid, level, traveler, made, named _ zone⟩

end CommandLine

end VirtualClock

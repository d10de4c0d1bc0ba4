import VirtualClock.Proofs.Arguments
import VirtualClock.Proofs.Atlases
import VirtualClock.Proofs.JourneyFaults
import VirtualClock.Proofs.LogSetup

/-!
# How a run of the command line ends

A run is meant to end in one of four ways: it prints the three views, it shows the
version, it refuses its settings or it finds a misuse of its options.  Each has
the exit code that is announced for it.

Some faults escape all of that.  They are listed with what causes them, from the
search for a zone down to the journey, and nothing else escapes.  Whoever asks for
completion gets that instead, which is no way in which a run is meant to end either.
-/

namespace VirtualClock.CommandLine

variable {surroundings : Surroundings} {arguments : List String}

/-! ## The stages of a run -/

/-- The views as a request wants them printed. -/
def Request.printed (request : Request) (views : Views) : String :=
  if request.asJson then views.jsonText else views.text

/-- Opens the file of the log, when the settings name one. -/
def openLog (surroundings : Surroundings) (settings : LoggingSettings) : Except Fault Unit :=
  match settings.file with
  | none => .ok ()
  | some path =>
    ((LogSystem.initial surroundings.directories).openFile path).map fun _ => ()

def travelOutcome [Atlas] (surroundings : Surroundings) (request : Request) (settings : Settings) :
    Except Stop String :=
  match (travelFor request.journey settings (openingWorld surroundings)).1 with
  | .ok views => .ok (request.printed views)
  | .error fault => .error (request.journey.stop fault)

/-- Configuring the log fails as opening its file does. -/
theorem configure_of_file {settings : LoggingSettings} {path : String}
    (named : settings.file = some path) (service version : Json) (logs : LogSystem) :
    (logs.configure settings service version).1 =
      (({ logs with handlers := [] } : LogSystem).openFile path).map fun _ => () := by
  unfold LogSystem.configure
  rw [named]
  dsimp only
  cases ({ logs with handlers := [] } : LogSystem).openFile path with
  | error fault => rfl
  | ok opened => rfl

theorem configure_outcome (surroundings : Surroundings) (settings : LoggingSettings)
    (service version : Json) (stream : String) :
    (((LogSystem.initial surroundings.directories).writeError stream).configure
        settings service version).1 = openLog surroundings settings := by
  unfold openLog
  cases named : settings.file with
  | none =>
      unfold LogSystem.configure
      rw [named]
  | some path =>
      rw [configure_of_file named]
      -- what the log has shown by then has no part in opening its file
      apply LogSystem.openFile_of_disk
      rfl

theorem travelAndLog_outcome [Atlas] (surroundings : Surroundings) (request : Request)
    (settings : Settings) (logs : LogSystem) :
    (travelAndLog surroundings request settings logs).outcome =
      travelOutcome surroundings request settings := by
  unfold travelAndLog travelOutcome
  rcases travelFor request.journey settings (openingWorld surroundings) with
    ⟨fault | views, world⟩
  · rfl
  · rfl

theorem configureAndTravel_outcome [Atlas] (surroundings : Surroundings) (request : Request)
    (settings : Settings) (stream : String) :
    (configureAndTravel surroundings request settings
        ((LogSystem.initial surroundings.directories).writeError stream)).outcome =
      (openLog surroundings settings.logging).mapError .fault >>= fun _ =>
        travelOutcome surroundings request settings := by
  have configured := configure_outcome surroundings settings.logging (.text programName)
    (.text programVersion) stream
  rw [← configured]
  unfold configureAndTravel
  rcases ((LogSystem.initial surroundings.directories).writeError stream).configure
    settings.logging (.text programName) (.text programVersion) with ⟨fault | ⟨⟩, logs⟩
  · rfl
  · exact travelAndLog_outcome surroundings request settings logs

/-- The outcome of a run, stage by stage. -/
theorem run_outcome [Atlas] (surroundings : Surroundings) (arguments : List String) :
    (run surroundings arguments).outcome =
      (Request.ofArguments surroundings.pages arguments >>= fun request =>
        variablesFor surroundings request >>= fun file =>
          settingsFor surroundings request file >>= fun settings =>
            (openLog surroundings settings.logging).mapError .fault >>= fun _ =>
              travelOutcome surroundings request settings) := by
  unfold run
  cases Request.ofArguments surroundings.pages arguments with
  | error stop => rfl
  | ok request =>
      dsimp only [bind, Except.bind]
      cases variablesFor surroundings request with
      | error stop => rfl
      | ok file =>
          dsimp only
          cases settingsFor surroundings request file with
          | error stop => rfl
          | ok settings =>
              exact configureAndTravel_outcome surroundings request settings (complaints file)

/-! ## The zone of the settings -/

section

variable [Atlas]

theorem Settings.zone_eq_error_iff {settings : Settings} {fault : Fault} :
    settings.zone = .error fault ↔
      ∃ name, settings.timeZone = some name ∧ Atlas.find name = .error fault := by
  unfold Settings.zone
  cases settings.timeZone with
  | none => simp
  | some name => simp [Outcome.map_eq_error_iff]

/-- The zone of settings is the region that they name, and none when they name none. -/
theorem Settings.zone_eq_ok_iff {settings : Settings} {zone : Option Zone} :
    settings.zone = .ok zone ↔
      settings.timeZone = none ∧ zone = none ∨
      ∃ name place, settings.timeZone = some name ∧ Atlas.find name = .ok place ∧
        zone = some (.region place) := by
  unfold Settings.zone
  cases settings.timeZone with
  | none =>
      rw [Except.ok.injEq, eq_comm]
      simp
  | some name => simp [Outcome.map_eq_ok_iff, @eq_comm _ zone]

/-- Settings name regions, which always have an offset. -/
theorem Settings.zone_ne_floating {settings : Settings} {zone : Option Zone}
    (zoned : settings.zone = .ok zone) : zone ≠ some .floating := by
  obtain ⟨_, rfl⟩ | ⟨name, place, _, _, rfl⟩ := Settings.zone_eq_ok_iff.mp zoned
  · simp
  · simp

/-! ## The journey of a run -/

/-- The traveler of a run. -/
def travelerIn (zone : Option Zone) : Traveler := ⟨clockKey, stackKey, zone⟩

theorem travelFor_outcome (journey : Journey) (settings : Settings) (world : World Unit) :
    (travelFor journey settings world).1 =
      settings.zone >>= fun zone => (viewsOn journey (travelerIn zone) world).1 := by
  unfold travelFor Traveler.ofSettings
  rw [Run.ofExcept_bind]
  cases settings.zone <;> rfl

/-- A journey that is not stopped prints the views of its zone. -/
theorem travelOutcome_eq_ok_iff {request : Request} {settings : Settings} {output : String} :
    travelOutcome surroundings request settings = .ok output ↔
      ∃ zone views, settings.zone = .ok zone ∧
        (viewsOn request.journey (travelerIn zone) (openingWorld surroundings)).1 = .ok views ∧
        output = request.printed views := by
  have arrived : travelOutcome surroundings request settings = .ok output ↔
      ∃ views, (travelFor request.journey settings (openingWorld surroundings)).1 = .ok views ∧
        output = request.printed views := by
    unfold travelOutcome
    cases (travelFor request.journey settings (openingWorld surroundings)).1 with
    | error fault => simp
    | ok views =>
        constructor
        · intro same
          exact ⟨views, rfl, (Except.ok.inj same).symm⟩
        · rintro ⟨found, same, rfl⟩
          cases same
          rfl
  rw [arrived, travelFor_outcome]
  simp only [Outcome.bind_eq_ok_iff]
  constructor
  · rintro ⟨views, ⟨zone, zoned, viewed⟩, same⟩
    exact ⟨zone, views, zoned, viewed, same⟩
  · rintro ⟨zone, views, zoned, viewed, same⟩
    exact ⟨views, ⟨zone, zoned, viewed⟩, same⟩

/-- A journey is stopped by a fault of the search for its zone, or on its way. -/
theorem travelOutcome_eq_error {request : Request} {settings : Settings} {stop : Stop} :
    travelOutcome surroundings request settings = .error stop ↔
      (∃ fault, settings.zone = .error fault ∧ stop = request.journey.stop fault) ∨
        ∃ zone, settings.zone = .ok zone ∧ ∃ fault,
          (viewsOn request.journey (travelerIn zone) (openingWorld surroundings)).1 =
            .error fault ∧ stop = request.journey.stop fault := by
  have failed : travelOutcome surroundings request settings = .error stop ↔
      ∃ fault, (travelFor request.journey settings (openingWorld surroundings)).1 =
        .error fault ∧ stop = request.journey.stop fault := by
    unfold travelOutcome
    cases (travelFor request.journey settings (openingWorld surroundings)).1 with
    | error fault => simp [eq_comm]
    | ok views => simp
  rw [failed, travelFor_outcome]
  simp only [Outcome.bind_eq_error_iff]
  constructor
  · rintro ⟨fault, unfound | ⟨zone, zoned, unseen⟩, stopped⟩
    · exact .inl ⟨fault, unfound, stopped⟩
    · exact .inr ⟨zone, zoned, fault, unseen, stopped⟩
  · rintro (⟨fault, unfound, stopped⟩ | ⟨zone, zoned, fault, unseen, stopped⟩)
    · exact ⟨fault, .inl unfound, stopped⟩
    · exact ⟨fault, .inr ⟨zone, zoned, unseen⟩, stopped⟩

end

theorem Journey.stop_cases (journey : Journey) (fault : Fault) :
    journey.stop fault = .fault fault ∨ ∃ problem, journey.stop fault = .misuse problem := by
  unfold stop
  split
  · cases journey with
    | stay => exact .inl rfl
    | «to» written target => exact .inr ⟨_, rfl⟩
    | «by» offset => exact .inr ⟨_, rfl⟩
  · exact .inl rfl

/-! ## What escapes a run -/

/-- The arguments make a request, and with it the settings that were loaded make these. -/
structure Prepares [Atlas] (surroundings : Surroundings) (arguments : List String) (request : Request)
    (settings : Settings) : Prop where
  asked : Request.ofArguments surroundings.pages arguments = .ok request
  loaded : ∃ file given, surroundings.findVariables request.envFile = .ok file ∧
    surroundings.loadSettings file = .ok given ∧ request.adjust given = settings

/-- The faults that escape a run, each by its cause. -/
inductive Escapes [Atlas] (surroundings : Surroundings) (arguments : List String) : Fault → Prop where
  /-- The name of a zone leads to a directory or is too long for a file, and nothing else is
  wrong with the options. -/
  | zoneOption {options : Options} {request : Request} {name : String} {fault : Fault}
      (given : Options.ofArguments surroundings.pages arguments = .ok options)
      (otherwise : ({ options with zone := none } : Options).request = .ok request)
      (named : options.zone = some name) (lost : Atlas.find name = .error fault)
      (blocked : fault = .zoneIsDirectory ∨ fault = .zoneNameTooLong) :
      Escapes surroundings arguments fault
  /-- The file of variables cannot be looked for. -/
  | variableFile {request : Request} {fault : Fault}
      (asked : Request.ofArguments surroundings.pages arguments = .ok request)
      (unreadable : surroundings.findVariables request.envFile = .error fault) :
      Escapes surroundings arguments fault
  /-- The settings cannot be loaded, and not because their fields were refused. -/
  | settings {request : Request} {file : Option String} {fault : Fault}
      (asked : Request.ofArguments surroundings.pages arguments = .ok request)
      (found : surroundings.findVariables request.envFile = .ok file)
      (unloaded : surroundings.loadSettings file = .error fault)
      (unrefused : ∀ fields, fault ≠ .refusedSettings fields) :
      Escapes surroundings arguments fault
  /-- The file of the log cannot be opened. -/
  | logFile {request : Request} {settings : Settings} {path : String} {fault : Fault}
      (prepares : Prepares surroundings arguments request settings)
      (named : settings.logging.file = some path)
      (closed : (LogSystem.initial surroundings.directories).openFile path = .error fault) :
      Escapes surroundings arguments fault
  /-- The zone of the settings cannot be found. -/
  | settingsZone {request : Request} {settings : Settings} {name : String} {fault : Fault}
      (prepares : Prepares surroundings arguments request settings)
      (opens : openLog surroundings settings.logging = .ok ())
      (named : settings.timeZone = some name) (lost : Atlas.find name = .error fault) :
      Escapes surroundings arguments fault
  /-- The journey strays past the options. -/
  | journey {request : Request} {settings : Settings} {zone : Option Zone} {fault : Fault}
      (prepares : Prepares surroundings arguments request settings)
      (opens : openLog surroundings settings.logging = .ok ())
      (zoned : settings.zone = .ok zone)
      (strays : request.journey.Strays surroundings.system surroundings.reading zone fault) :
      Escapes surroundings arguments fault

theorem openLog_eq_error_iff {settings : LoggingSettings} {fault : Fault} :
    openLog surroundings settings = .error fault ↔
      ∃ path, settings.file = some path ∧
        (LogSystem.initial surroundings.directories).openFile path = .error fault := by
  unfold openLog
  cases settings.file with
  | none => simp
  | some path => simp [Outcome.map_eq_error_iff]

/-- The only faults among the arguments come from the search for a zone. -/
theorem escapes_of_arguments [Atlas] {fault : Fault}
    (stopped : Request.ofArguments surroundings.pages arguments = .error (.fault fault)) :
    Escapes surroundings arguments fault := by
  rcases Outcome.bind_eq_error_iff.mp stopped with declined | ⟨options, given, stopped⟩
  · cases Options.declines_of_ofArguments declined
  rw [Options.request_eq] at stopped
  rcases Outcome.bind_eq_error_iff.mp stopped with early | ⟨request, otherwise, stopped⟩
  · rcases Options.stop_of_request rfl early with shown | ⟨problem, misused⟩
    · cases shown
    · cases misused
  rcases Outcome.bind_eq_error_iff.mp stopped with unfound | ⟨_, _, stopped⟩
  · unfold Options.checkZone at unfound
    cases named : options.zone with
    | none =>
        rw [named] at unfound
        cases unfound
    | some name =>
        rw [named] at unfound
        dsimp only at unfound
        cases lost : Atlas.find name with
        | ok place =>
            rw [lost] at unfound
            cases unfound
        | error reason =>
            rw [lost] at unfound
            rcases Atlas.find_eq_error lost with rfl | rfl | rfl
            · cases unfound
              exact .zoneOption given otherwise named lost (.inl rfl)
            · cases unfound
              exact .zoneOption given otherwise named lost (.inr rfl)
            · cases unfound
  · cases stopped

theorem arguments_of_blocked [Atlas] {options : Options} {request : Request} {name : String}
    {fault : Fault} (given : Options.ofArguments surroundings.pages arguments = .ok options)
    (otherwise : ({ options with zone := none } : Options).request = .ok request)
    (named : options.zone = some name) (lost : Atlas.find name = .error fault)
    (blocked : fault = .zoneIsDirectory ∨ fault = .zoneNameTooLong) :
    Request.ofArguments surroundings.pages arguments = .error (.fault fault) := by
  have unfound : options.checkZone = .error (.fault fault) := by
    unfold Options.checkZone
    rw [named]
    dsimp only
    rw [lost]
    rcases blocked with rfl | rfl
    · rfl
    · rfl
  unfold Request.ofArguments
  rw [given]
  show options.request = _
  rw [Options.request_eq, otherwise, unfound]
  rfl

theorem settingsFor_eq_ok_iff {request : Request} {file : Option String} {settings : Settings} :
    settingsFor surroundings request file = .ok settings ↔
      ∃ given, surroundings.loadSettings file = .ok given ∧ request.adjust given = settings := by
  unfold settingsFor
  split
  · simp_all
  · simp_all
  · simp_all

theorem settingsFor_eq_error {request : Request} {file : Option String} {stop : Stop}
    (stopped : settingsFor surroundings request file = .error stop) :
    (∃ fields, stop = .refusedSettings fields) ∨
      ∃ fault, stop = .fault fault ∧ surroundings.loadSettings file = .error fault ∧
        ∀ fields, fault ≠ .refusedSettings fields := by
  unfold settingsFor at stopped
  split at stopped
  · cases stopped
  · rename_i fields refused
    cases stopped
    exact .inl ⟨fields, rfl⟩
  · rename_i fault unrefused unloaded
    cases stopped
    exact .inr ⟨fault, rfl, unloaded, fun fields same => unrefused fields same⟩

theorem settingsFor_of_unloaded {request : Request} {file : Option String} {fault : Fault}
    (unloaded : surroundings.loadSettings file = .error fault)
    (unrefused : ∀ fields, fault ≠ .refusedSettings fields) :
    settingsFor surroundings request file = .error (.fault fault) := by
  unfold settingsFor
  rw [unloaded]
  cases fault with
  | refusedSettings fields => exact absurd rfl (unrefused fields)
  | _ => rfl

section

variable [Atlas]

theorem strays_from_opening_iff (journey : Journey) {zone : Option Zone} {fault : Fault}
    (aware : surroundings.reading.isAware) (grounded : zone ≠ some .floating) :
    (∃ reason, (viewsOn journey (travelerIn zone) (openingWorld surroundings)).1 =
        .error reason ∧ journey.stop reason = .fault fault) ↔
      journey.Strays surroundings.system surroundings.reading zone fault := by
  have reading : (openingWorld surroundings).reading (travelerIn zone).clock =
      surroundings.reading := rfl
  rw [← reading] at aware ⊢
  exact viewsOn_strays_iff journey aware rfl grounded

/-- With its settings at hand a run opens the log and goes on its journey. -/
theorem run_outcome_of_prepares {request : Request} {settings : Settings}
    (prepares : Prepares surroundings arguments request settings) :
    (run surroundings arguments).outcome =
      ((openLog surroundings settings.logging).mapError .fault >>= fun _ =>
        travelOutcome surroundings request settings) := by
  obtain ⟨file, given, found, loaded, adjusted⟩ := prepares.loaded
  have fileFound : variablesFor surroundings request = .ok file :=
    Outcome.mapError_eq_ok_iff.mpr found
  have settled : settingsFor surroundings request file = .ok settings :=
    settingsFor_eq_ok_iff.mpr ⟨given, loaded, adjusted⟩
  rw [run_outcome, prepares.asked]
  show variablesFor surroundings request >>= _ = _
  rw [fileFound]
  show settingsFor surroundings request file >>= _ = _
  rw [settled]
  rfl

/-- Each stage of a run either stops it with a fault, for one of the listed causes, or hands on to
the next. -/
theorem escapes_of_outcome (aware : surroundings.reading.isAware) {fault : Fault}
    (ended : (run surroundings arguments).outcome = .error (.fault fault)) :
    Escapes surroundings arguments fault := by
  rw [run_outcome] at ended
  rcases Outcome.bind_eq_error_iff.mp ended with stopped | ⟨request, asked, ended⟩
  · exact escapes_of_arguments stopped
  rcases Outcome.bind_eq_error_iff.mp ended with unread | ⟨file, read, ended⟩
  · obtain ⟨reason, unreadable, same⟩ := Outcome.mapError_eq_error_iff.mp unread
    cases same
    exact .variableFile asked unreadable
  have found := Outcome.mapError_eq_ok_iff.mp read
  rcases Outcome.bind_eq_error_iff.mp ended with unsettled | ⟨settings, settled, ended⟩
  · rcases settingsFor_eq_error unsettled with
      ⟨fields, refused⟩ | ⟨reason, same, unloaded, unrefused⟩
    · cases refused
    · cases same
      exact .settings asked found unloaded unrefused
  obtain ⟨given, loaded, adjusted⟩ := settingsFor_eq_ok_iff.mp settled
  have prepares : Prepares surroundings arguments request settings :=
    ⟨asked, file, given, found, loaded, adjusted⟩
  rcases Outcome.bind_eq_error_iff.mp ended with unopened | ⟨_, opened, ended⟩
  · obtain ⟨reason, closed, same⟩ := Outcome.mapError_eq_error_iff.mp unopened
    cases same
    obtain ⟨path, named, closed⟩ := openLog_eq_error_iff.mp closed
    exact .logFile prepares named closed
  have opens := Outcome.mapError_eq_ok_iff.mp opened
  rcases travelOutcome_eq_error.mp ended with
    ⟨reason, unfound, stopped⟩ | ⟨zone, zoned, reason, unseen, stopped⟩
  · obtain ⟨name, named, lost⟩ := Settings.zone_eq_error_iff.mp unfound
    rcases request.journey.stop_cases reason with kept | ⟨problem, blamed⟩
    · rw [kept] at stopped
      cases stopped
      exact .settingsZone prepares opens named lost
    · rw [blamed] at stopped
      cases stopped
  · have strays := (strays_from_opening_iff request.journey aware
      (Settings.zone_ne_floating zoned)).mp ⟨reason, unseen, stopped.symm⟩
    exact .journey prepares opens zoned strays

/-- A cause at one stage stops the run there, since the stages before it do not. -/
theorem outcome_of_escapes (aware : surroundings.reading.isAware) {fault : Fault}
    (escapes : Escapes surroundings arguments fault) :
    (run surroundings arguments).outcome = .error (.fault fault) := by
  cases escapes with
  | zoneOption given otherwise named lost blocked =>
      rw [run_outcome, arguments_of_blocked given otherwise named lost blocked]
      rfl
  | @variableFile request _ asked unreadable =>
      have unread : variablesFor surroundings request = .error (.fault fault) :=
        Outcome.mapError_eq_error_iff.mpr ⟨fault, unreadable, rfl⟩
      rw [run_outcome, asked]
      show variablesFor surroundings request >>= _ = _
      rw [unread]
      rfl
  | @settings request file _ asked found unloaded unrefused =>
      have fileFound : variablesFor surroundings request = .ok file :=
        Outcome.mapError_eq_ok_iff.mpr found
      rw [run_outcome, asked]
      show variablesFor surroundings request >>= _ = _
      rw [fileFound]
      show settingsFor surroundings request file >>= _ = _
      rw [settingsFor_of_unloaded unloaded unrefused]
      rfl
  | logFile prepares named closed =>
      rw [run_outcome_of_prepares prepares,
        openLog_eq_error_iff.mpr ⟨_, named, closed⟩]
      rfl
  | @settingsZone request settings _ _ prepares opens named lost =>
      have unfound := Settings.zone_eq_error_iff.mpr ⟨_, named, lost⟩
      have kept : request.journey.stop fault = .fault fault := by
        unfold Journey.stop
        rcases Atlas.find_eq_error lost with rfl | rfl | rfl
        · rfl
        · rfl
        · rfl
      rw [run_outcome_of_prepares prepares, opens]
      exact travelOutcome_eq_error.mpr (.inl ⟨fault, unfound, kept.symm⟩)
  | @journey request settings zone _ prepares opens zoned strays =>
      obtain ⟨reason, unseen, stopped⟩ := (strays_from_opening_iff request.journey aware
        (Settings.zone_ne_floating zoned)).mpr strays
      rw [run_outcome_of_prepares prepares, opens]
      exact travelOutcome_eq_error.mpr (.inr ⟨zone, zoned, reason, unseen, stopped.symm⟩)

/-- A run ends with a fault exactly when that fault escapes. -/
theorem run_outcome_eq_fault_iff (aware : surroundings.reading.isAware) {fault : Fault} :
    (run surroundings arguments).outcome = .error (.fault fault) ↔
      Escapes surroundings arguments fault :=
  ⟨escapes_of_outcome aware, outcome_of_escapes aware⟩

end

/-! ## The ways in which a run is meant to end -/

/-- The ways in which a run is meant to end. -/
inductive Ending where
  | views
  | version
  | configuration
  | usage
  deriving DecidableEq, Repr

/-- The exit codes that are announced. -/
def Ending.exitCode : Ending → Nat
  | .views | .version => 0
  | .configuration => 1
  | .usage => 2

/-- The run that is reported ended in a way that is meant. -/
def Report.EndsIn (report : Report) : Ending → Prop
  | .views => ∃ shown : Moment, report.outcome = .ok (Views.ofShown shown).text ∨
      report.outcome = .ok (Views.ofShown shown).jsonText
  | .version => report.outcome = .error .showsVersion ∧ report.output = versionLine
  | .configuration => ∃ fields, report.outcome = .error (.refusedSettings fields)
  | .usage => ∃ problem, report.outcome = .error (.misuse problem)

namespace Report

variable {report : Report}

theorem exitCode_of_endsIn {ending : Ending} (ends : report.EndsIn ending) :
    report.exitCode = ending.exitCode := by
  unfold exitCode
  cases ending with
  | views =>
      obtain ⟨shown, printed | printed⟩ := ends
      · rw [printed]
        rfl
      · rw [printed]
        rfl
  | version =>
      rw [ends.1]
      rfl
  | configuration =>
      obtain ⟨fields, refused⟩ := ends
      rw [refused]
      rfl
  | usage =>
      obtain ⟨problem, misused⟩ := ends
      rw [misused]
      rfl

/-- A run ends in one way only. -/
theorem EndsIn.unique {first second : Ending} (ends : report.EndsIn first)
    (endsToo : report.EndsIn second) : first = second := by
  have kind : ∀ {ending : Ending}, report.EndsIn ending →
      ending = match report.outcome with
        | .ok _ => .views
        | .error .showsVersion => .version
        | .error (.refusedSettings _) => .configuration
        | .error _ => .usage := by
    intro ending ends
    cases ending with
    | views =>
        obtain ⟨shown, printed | printed⟩ := ends
        · rw [printed]
        · rw [printed]
    | version => rw [ends.1]
    | configuration =>
        obtain ⟨fields, refused⟩ := ends
        rw [refused]
    | usage =>
        obtain ⟨problem, misused⟩ := ends
        rw [misused]
  rw [kind ends, kind endsToo]

theorem not_endsIn_of_fault {fault : Fault} (failed : report.outcome = .error (.fault fault))
    (ending : Ending) : ¬report.EndsIn ending := by
  cases ending <;> simp [EndsIn, failed]

theorem not_endsIn_of_completes {completion : Completion}
    (completed : report.outcome = .error (.completes completion)) (ending : Ending) :
    ¬report.EndsIn ending := by
  cases ending <;> simp [EndsIn, completed]

end Report

/-- Views come from one moment that a zone shows. -/
theorem exists_shown_of_viewsOn [Atlas] {journey : Journey} {traveler : Traveler} {world : World Unit}
    {views : Views} (untouched : world.entries traveler.stack = [])
    (viewed : (viewsOn journey traveler world).1 = .ok views) :
    ∃ shown, views = Views.ofShown shown := by
  rw [viewsOn_outcome journey traveler untouched] at viewed
  obtain ⟨instant, _, viewed⟩ := Outcome.bind_eq_ok_iff.mp viewed
  obtain ⟨shown, _, same⟩ := Outcome.map_eq_ok_iff.mp viewed
  exact ⟨shown, same.symm⟩

theorem Report.endsIn_version {report : Report}
    (shown : report.outcome = .error .showsVersion) : report.EndsIn .version := by
  refine ⟨shown, ?_⟩
  unfold Report.output
  rw [shown]

section

variable [Atlas]

/-- A run is stopped as its arguments are read, by a request for the version, by misuse, by its
settings or by a fault. -/
theorem stop_of_outcome {stop : Stop}
    (stopped : (run surroundings arguments).outcome = .error stop) :
    Options.ofArguments surroundings.pages arguments = .error stop ∨ stop = .showsVersion ∨
      (∃ problem, stop = .misuse problem) ∨ (∃ fields, stop = .refusedSettings fields) ∨
      ∃ fault, stop = .fault fault := by
  rw [run_outcome] at stopped
  rcases Outcome.bind_eq_error_iff.mp stopped with unasked | ⟨request, _, stopped⟩
  · rcases Request.stop_of_ofArguments unasked with declined | version | misuse | unhandled
    · exact .inl declined
    · exact .inr (.inl version)
    · exact .inr (.inr (.inl misuse))
    · exact .inr (.inr (.inr (.inr unhandled)))
  rcases Outcome.bind_eq_error_iff.mp stopped with unread | ⟨file, _, stopped⟩
  · obtain ⟨fault, _, same⟩ := Outcome.mapError_eq_error_iff.mp unread
    exact .inr (.inr (.inr (.inr ⟨fault, same⟩)))
  rcases Outcome.bind_eq_error_iff.mp stopped with unsettled | ⟨settings, _, stopped⟩
  · rcases settingsFor_eq_error unsettled with refused | ⟨fault, same, _⟩
    · exact .inr (.inr (.inr (.inl refused)))
    · exact .inr (.inr (.inr (.inr ⟨fault, same⟩)))
  rcases Outcome.bind_eq_error_iff.mp stopped with unopened | ⟨_, _, travelled⟩
  · obtain ⟨fault, _, same⟩ := Outcome.mapError_eq_error_iff.mp unopened
    exact .inr (.inr (.inr (.inr ⟨fault, same⟩)))
  have blamed : ∃ fault, stop = request.journey.stop fault := by
    rcases travelOutcome_eq_error.mp travelled with ⟨fault, _, same⟩ | ⟨_, _, fault, _, same⟩
    · exact ⟨fault, same⟩
    · exact ⟨fault, same⟩
  obtain ⟨fault, rfl⟩ := blamed
  rcases request.journey.stop_cases fault with kept | misuse
  · exact .inr (.inr (.inr (.inr ⟨fault, kept⟩)))
  · exact .inr (.inr (.inl misuse))

/-- A run that is not asked for help ends as it is meant to, or with a fault, or its arguments ask
for completion. -/
theorem endsIn_or_stops (surroundings : Surroundings)
    (unasked : OptionName.help.text ∉ arguments) :
    (∃ ending, (run surroundings arguments).EndsIn ending) ∨
      (∃ fault, (run surroundings arguments).outcome = .error (.fault fault)) ∨
      ∃ completion, Options.ofArguments surroundings.pages arguments =
        .error (.completes completion) := by
  cases ended : (run surroundings arguments).outcome with
  | ok output =>
      have stages := (run_outcome surroundings arguments).symm.trans ended
      obtain ⟨request, _, stages⟩ := Outcome.bind_eq_ok_iff.mp stages
      obtain ⟨file, _, stages⟩ := Outcome.bind_eq_ok_iff.mp stages
      obtain ⟨settings, _, stages⟩ := Outcome.bind_eq_ok_iff.mp stages
      obtain ⟨_, _, travelled⟩ := Outcome.bind_eq_ok_iff.mp stages
      obtain ⟨zone, views, _, viewed, rfl⟩ := travelOutcome_eq_ok_iff.mp travelled
      obtain ⟨shown, rfl⟩ := exists_shown_of_viewsOn rfl viewed
      refine .inl ⟨.views, shown, ?_⟩
      rw [ended]
      unfold Request.printed
      by_cases asJson : request.asJson
      · exact .inr (by rw [if_pos asJson])
      · exact .inl (by rw [if_neg asJson])
  | error stop =>
      rcases stop_of_outcome ended with
        declined | rfl | ⟨problem, rfl⟩ | ⟨fields, rfl⟩ | ⟨fault, rfl⟩
      · cases Options.declines_of_ofArguments declined with
        | help asked => exact absurd asked unasked
        | completion asked => exact .inr (.inr ⟨_, declined⟩)
        | misuse problem => exact .inl ⟨.usage, problem, ended⟩
      · exact .inl ⟨.version, Report.endsIn_version ended⟩
      · exact .inl ⟨.usage, problem, ended⟩
      · exact .inl ⟨.configuration, fields, ended⟩
      · exact .inr (.inl ⟨fault, rfl⟩)

/-- What keeps a run from ending as it is meant to end. -/
inductive Strays (surroundings : Surroundings) (arguments : List String) : Prop where
  | completion {completion : Completion}
      (asked : Options.ofArguments surroundings.pages arguments = .error (.completes completion)) :
      Strays surroundings arguments
  | fault {fault : Fault} (escapes : Escapes surroundings arguments fault) :
      Strays surroundings arguments

theorem outcome_of_completes {completion : Completion}
    (asked : Options.ofArguments surroundings.pages arguments = .error (.completes completion)) :
    (run surroundings arguments).outcome = .error (.completes completion) := by
  have stopped : Request.ofArguments surroundings.pages arguments =
      .error (.completes completion) := by
    unfold Request.ofArguments
    rw [asked]
    rfl
  rw [run_outcome, stopped]
  rfl

theorem not_endsIn_of_strays (aware : surroundings.reading.isAware)
    (strays : Strays surroundings arguments) (ending : Ending) :
    ¬(run surroundings arguments).EndsIn ending := by
  cases strays with
  | completion asked => exact Report.not_endsIn_of_completes (outcome_of_completes asked) ending
  | fault escapes =>
      exact Report.not_endsIn_of_fault ((run_outcome_eq_fault_iff aware).mpr escapes) ending

end

/-! ### An offset that is no number -/

/-- Surroundings in which nothing is set. -/
def plainSurroundings : Surroundings where
  system := .utc
  reading := defaultReading
  findVariables := fun _ => .ok none
  loadSettings := fun _ => .ok ⟨none, .standard⟩
  directories := []
  logTime := ⟨.zero false, 0⟩

/-- Arguments that ask for an offset by no number of seconds. -/
def noNumberArguments : List String := ["--tz", "UTC", "--json", "--offset", "nan"]

theorem noNumberArguments_unasked : OptionName.help.text ∉ noNumberArguments := by
  decide

end VirtualClock.CommandLine

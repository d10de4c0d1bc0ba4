import VirtualClock.CommandLine.Request
import VirtualClock.Log.Journal
import VirtualClock.Settings.EnvFile
import VirtualClock.Traveler.Configured
import VirtualClock.Traveler.Views

/-!
# Running the command line

A run reads its options, checks them, looks for the file of variables, loads the
settings, configures the log, travels and shows the three views of the time, as
lines or as a JSON object.  It works in a context of its own, on a traveler that
nobody else knows.

What a run needs from outside is given to it: the local zone, the reading of
the real clock, the ways to find a file and to load settings, and the answers to
those who ask for help or for completion.
-/

namespace VirtualClock

namespace Views

def fields (views : Views) : List (String × String) :=
  [("timestamp", views.timestamp), ("date", views.date), ("datetime", views.dateTime)]

/-- The width of the names in front of the views. -/
def nameWidth : Nat := 10

/-- One line for every view, with its name in front. -/
def text (views : Views) : String :=
  String.join (views.fields.map fun field =>
    let name := field.1 ++ ":"
    name ++ String.ofList (List.replicate (nameWidth - name.length) ' ') ++ " " ++
      field.2 ++ "\n")

/-- The views as a JSON object on one line. -/
def jsonText (views : Views) : String :=
  Json.render (.object (views.fields.map fun field => (field.1, .text field.2))) ++ "\n"

end Views

namespace CommandLine

variable [Atlas]

def programName : String := "timewarp"

def programVersion : String := "0.1.0"

def versionLine : String := programName ++ " v" ++ programVersion ++ "\n"

/-- The options of the program and what they are for. -/
def helpText : String :=
  "Usage: " ++ programName ++ " [OPTIONS]\n\nOptions:\n" ++
    String.join (OptionName.all.map fun name =>
      "  " ++ name.text ++ "  " ++ name.purpose ++ "\n")

/-- The answers of a program that is run in no shell: it has a plain page of help, and nothing to
complete. -/
def Pages.plain : Pages := ⟨helpText, fun _ => ⟨"", 1⟩⟩

structure Surroundings where
  system : ZoneRule
  /-- The reading of the real clock. -/
  reading : Moment
  /-- The text of the file of variables under a path, when there is one. -/
  findVariables : String → Except Fault (Option String)
  /-- Loads the settings, with the text of a file of variables. -/
  loadSettings : Option String → Except Fault Settings
  /-- The directories in which files can be made. -/
  directories : List String
  logTime : LogTime
  pages : Pages := .plain

/-- How a run ended and what it logged.  A run that was not stopped has an output. -/
structure Report where
  outcome : Except Stop String
  logs : LogSystem

namespace Report

def output (report : Report) : String :=
  match report.outcome with
  | .ok output => output
  | .error (.showsHelp page) => page
  | .error (.completes completion) => completion.output
  | .error .showsVersion => versionLine
  | .error _ => ""

/-- The exit code of the program: a fault that nobody handled counts as one. -/
def exitCode (report : Report) : Nat :=
  match report.outcome with
  | .ok _ => 0
  | .error stop => stop.exitCode?.getD 1

end Report

/-! ## The parts of a run -/

/-- The text of the file of variables that a request names. -/
def variablesFor (surroundings : Surroundings) (request : Request) :
    Except Stop (Option String) :=
  (surroundings.findVariables request.envFile).mapError .fault

/-- What is said about the lines of a file of variables that do not fit. -/
def complaints : Option String → String
  | some file =>
    String.join ((EnvFile.malformedLines file).map fun line => EnvFile.complaint line ++ "\n")
  | none => ""

/-- The settings of a request.  Refused fields are told from other faults. -/
def settingsFor (surroundings : Surroundings) (request : Request) (file : Option String) :
    Except Stop Settings :=
  match surroundings.loadSettings file with
  | .ok settings => .ok (request.adjust settings)
  | .error (.refusedSettings fields) => .error (.refusedSettings fields)
  | .error fault => .error (.fault fault)

/-- The settings that a run with some arguments would have. -/
def settingsOf (surroundings : Surroundings) (arguments : List String) : Except Stop Settings := do
  let request ← Request.ofArguments surroundings.pages arguments
  let file ← variablesFor surroundings request
  settingsFor surroundings request file

/-- The clock and the stack of the traveler of a run; the standard traveler has others. -/
def clockKey : ClockKey := 1

def stackKey : StackKey := 1

/-- The world before a journey: nothing is open or bound. -/
def openingWorld (surroundings : Surroundings) : World Unit where
  system := surroundings.system
  clocks := [(clockKey, surroundings.reading)]
  context := Context.empty 0
  journal := []
  memory := ()

def viewsOn (journey : Journey) (traveler : Traveler) : Run Unit Views :=
  let readViews := traveler.readViews .nothing
  match journey with
  | .stay => readViews
  | .to _ target => do
    let anchor ← traveler.anchorAt (.moment target)
    traveler.visit anchor readViews
  | .by offset => do
    let anchor ← traveler.anchorAfter (.float offset)
    traveler.visit anchor readViews

/-- Makes the traveler of the settings and sends it on the journey. -/
def travelFor (journey : Journey) (settings : Settings) : Run Unit Views := do
  let traveler ← Run.ofExcept (Traveler.ofSettings settings clockKey stackKey)
  viewsOn journey traveler

/-- Logs what happened in a world; a failing log is left as it was. -/
def logJournal (surroundings : Surroundings) (logs : LogSystem) (world : World Unit) :
    LogSystem :=
  match (logs.emitJournal surroundings.logTime world.journal world).1 with
  | .ok logs => logs
  | .error _ => logs

def travelAndLog (surroundings : Surroundings) (request : Request) (settings : Settings)
    (logs : LogSystem) : Report :=
  let (views, world) := travelFor request.journey settings (openingWorld surroundings)
  let logs := logJournal surroundings logs world
  match views with
  | .ok views => ⟨.ok (if request.asJson then views.jsonText else views.text), logs⟩
  | .error fault => ⟨.error (request.journey.stop fault), logs⟩

/-- Configures the log and goes on the journey of a request. -/
def configureAndTravel (surroundings : Surroundings) (request : Request) (settings : Settings)
    (logs : LogSystem) : Report :=
  match logs.configure settings.logging (.text programName) (.text programVersion) with
  | (.error fault, logs) => ⟨.error (.fault fault), logs⟩
  | (.ok (), logs) => travelAndLog surroundings request settings logs

/-- A run of the command line with its arguments.  Complaints about the file of
variables come before the log is configured and so go to the error stream as they are. -/
def run (surroundings : Surroundings) (arguments : List String) : Report :=
  let logs := LogSystem.initial surroundings.directories
  match Request.ofArguments surroundings.pages arguments with
  | .error stop => ⟨.error stop, logs⟩
  | .ok request =>
    match variablesFor surroundings request with
    | .error stop => ⟨.error stop, logs⟩
    | .ok file =>
      let logs := logs.writeError (complaints file)
      match settingsFor surroundings request file with
      | .error stop => ⟨.error stop, logs⟩
      | .ok settings => configureAndTravel surroundings request settings logs

end CommandLine

end VirtualClock

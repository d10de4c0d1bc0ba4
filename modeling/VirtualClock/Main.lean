import Std.Time.DateTime.Timestamp
import VirtualClock.CommandLine.Run
import VirtualClock.Settings.Sources

/-!
# The program

Shows the three views of the current time, travelled or not, as the arguments
ask.  What a run needs from the machine is gathered here: the time, the local
zone, the environment, the homes of the users and the file of variables.
Everything else is decided by the command line.

The local zone is the yearly rule that the variable `TZ` writes, or the rule of
the region that it names, and universal time when it does neither.
-/

namespace VirtualClock.Program

open CommandLine (Options Report Stop Surroundings)

/-- The text of a file, when it can be read. -/
def readText? (path : String) : IO (Option String) := do
  try
    let content ← IO.FS.readFile path
    pure (some content)
  catch _ => pure none

/-- The variables in the form in which the system lists them, each ended by a zero. -/
def variablesOf (listing : String) : List (String × String) :=
  (listing.splitOn "\x00").filterMap fun row =>
    let characters := row.toList
    let name := characters.takeWhile (· != '=')
    match characters.drop name.length with
    | [] => none
    | _ :: value => some (String.ofList name, String.ofList value)

def readEnvironment : IO (List (String × String)) := do
  try
    let listing ← IO.FS.readBinFile "/proc/self/environ"
    pure (variablesOf ((String.fromUTF8? listing).getD ""))
  catch _ => pure []

/-- The rule of the local zone. -/
def localRule (environment : List (String × String)) : ZoneRule :=
  match environment.lookup "TZ" with
  | none => .utc
  | some written =>
    match ZoneRule.ofText? written with
    | some rule => rule
    | none =>
      match Atlas.find written with
      | .ok place => place.rule
      | .error _ => .utc

/-- Microseconds since the first midnight of 1970. -/
def readMicros : IO Int := do
  let now ← Std.Time.Timestamp.now
  pure (now.toNanosecondsSinceUnixEpoch.val / 1000)

def machineReading (micros : Int) : Moment :=
  .atUtc ((WallTime.ofTicks? (micros + WallTime.epochSeconds * 1000000)).getD .first)

def logTime (micros : Int) : LogTime :=
  ⟨.ofDecimal (micros < 0) micros.natAbs (-6), (micros % 1000000 / 1000).toNat⟩

/-- The homes of the users in a list of accounts, one a line with colons between its fields. -/
def homesOf (accounts : String) : List (String × String) :=
  (accounts.splitOn "\n").filterMap fun row =>
    let fields := row.splitOn ":"
    match fields[0]?, fields[5]? with
    | some user, some home => some (user, home)
    | _, _ => none

/-- The homes of the users; that of the user of the program is in the variable `HOME`. -/
def readHomes (environment : List (String × String)) : IO (List (String × String)) := do
  let accounts ← readText? "/etc/passwd"
  let own := (environment.lookup "HOME").map fun home => ("", home)
  pure (own.toList ++ homesOf (accounts.getD ""))

/-- The text of the file of variables under a path, when there is one. -/
def readVariables (homes : List (String × String)) (path : String) :
    IO (Except Fault (Option String)) := do
  let disk : Disk := ⟨[], [], homes⟩
  match disk.expandHome (PathName.ofText path) with
  | .error fault => pure (.error fault)
  | .ok path =>
    let file ← readText? path.text
    pure (.ok file)

/-- The directories for a log file: those on its way, when the file can be opened. -/
def logDirectories (file : Option String) : IO (List String) := do
  match file with
  | none => pure []
  | some name =>
    let path := (PathName.ofText name).collapsed
    try
      let _ ← IO.FS.Handle.mk path.text .append
      pure path.directories
    catch _ => pure []

/-- The log file that a run is going to write. -/
def logFile (surroundings : Surroundings) (arguments : List String) : Option String :=
  match CommandLine.settingsOf surroundings arguments with
  | .ok settings => settings.logging.file
  | .error _ => none

/-- The path of the file of variables that the arguments name. -/
def envFile (arguments : List String) : String :=
  match Options.ofArguments .plain arguments with
  | .ok options => options.envFile
  | .error _ => Options.standard.envFile

/-- What a run finds around it on this machine. -/
def survey (arguments : List String) : IO Surroundings := do
  let environment ← readEnvironment
  let homes ← readHomes environment
  let path := envFile arguments
  let found ← readVariables homes path
  let micros ← readMicros
  let surroundings : Surroundings :=
    { system := localRule environment
      reading := machineReading micros
      findVariables := fun asked => if asked == path then found else .ok none
      loadSettings := Settings.load [] environment
      directories := []
      logTime := logTime micros }
  let directories ← logDirectories (logFile surroundings arguments)
  pure { surroundings with directories }

/-- What is said about a run that was stopped. -/
def complaint : Stop → String
  | .showsHelp _ | .showsVersion => ""
  | .completes _ => "Completion is not available for this shell.\n"
  | .misuse problem => "Error: " ++ problem.message ++ "\n"
  | .refusedSettings fields =>
    String.join (fields.map fun field =>
      "Configuration error: " ++ String.intercalate "." field.path ++ ": " ++
        field.problem.message ++ "\n")
  | .fault fault =>
    fault.kind ++
      (match fault.message? with
        | some message => ": " ++ message
        | none => "") ++ "\n"

def writeLogs (logs : LogSystem) : IO Unit := do
  IO.eprint logs.errorStream
  for (path, text) in logs.files do
    let handle ← IO.FS.Handle.mk path .append
    handle.putStr text

/-- Runs the command line with the arguments of the program and gives its exit code. -/
def run (arguments : List String) : IO UInt32 := do
  let surroundings ← survey arguments
  let report := CommandLine.run surroundings arguments
  writeLogs report.logs
  match report.outcome with
  | .ok _ => pure ()
  | .error stop => IO.eprint (complaint stop)
  IO.print report.output
  pure (UInt32.ofNat report.exitCode)

end VirtualClock.Program

def main (arguments : List String) : IO UInt32 := VirtualClock.Program.run arguments

import VirtualClock.Disk
import VirtualClock.Log.Line
import VirtualClock.Settings.Schema

/-!
# The log of a process

The root of all logs with its level and its handlers, the error stream and the
files that the handlers write to.  Configuring it first removes what is there
and then builds the new handlers, one for the error stream and one for a file
when the settings name one; a file that cannot be opened stops it halfway.

Records reach the handlers only from the level of the root on.  Without any
handler, records from warnings on are shown on the error stream all the same.
-/

namespace VirtualClock

inductive Handler where
  /-- Takes every record and writes nothing. -/
  | silent
  | stream (format : LineFormat)
  | file (path : String) (format : LineFormat) (sizeLimit backupCount : Int)

/-- The root of the log, and what has been written. -/
structure LogSystem where
  level : String
  handlers : List Handler
  errorStream : String
  files : List (String × String)
  /-- The directories in which files can be made. -/
  directories : List String

namespace LogSystem

variable {Memory : Type}

def initialLevel : String := "WARNING"

/-- A log that was never configured. -/
def initial (directories : List String) : LogSystem := ⟨initialLevel, [], "", [], directories⟩

/-- The number of a level; the names of the settings stand for ten to fifty. -/
def levelNumber (name : String) : Int :=
  match levelNames.idxOf? name with
  | some index => (index + 1) * 10
  | none => 0

/-! ## Configuring -/

def bytesPerMegabyte : Int := 1024 * 1024

/-- A path in the one form under which its file is known. -/
def plainPath (path : String) : String := (PathName.ofText path).collapsed.text

def disk (logs : LogSystem) : Disk := ⟨logs.directories, logs.files, []⟩

/-- Opens a file for writing at its end and makes it when it is not there. -/
def openFile (path : String) (logs : LogSystem) : Except Fault LogSystem := do
  match ← logs.disk.follow (PathName.ofText path).collapsed with
  | .directory => .error .fileIsDirectory
  | .nowhere => .error .fileMissing
  | .blocked => .error .fileInTheWay
  | .place path =>
    if (logs.files.lookup path.text).isSome then pure logs
    else pure { logs with files := logs.files ++ [(path.text, "")] }

def formatOf (settings : LoggingSettings) (service version : Json) : LineFormat :=
  if settings.format == "json" then .json service version else .text

/-- Replaces the handlers and the level of the root by what the settings ask for. -/
def configure (settings : LoggingSettings) (service version : Json) (logs : LogSystem) :
    Except Fault Unit × LogSystem :=
  let format := formatOf settings service version
  let cleared := { logs with handlers := [] }
  match settings.file with
  | none => (.ok (), { cleared with level := settings.level, handlers := [.stream format] })
  | some path =>
    match cleared.openFile path with
    | .error fault => (.error fault, cleared)
    | .ok opened =>
      let file := Handler.file path format (settings.maxFileSizeMb * bytesPerMegabyte)
        settings.backupCount
      (.ok (), { opened with level := settings.level, handlers := [.stream format, file] })

def addHandler (handler : Handler) (logs : LogSystem) : LogSystem :=
  { logs with handlers := logs.handlers ++ [handler] }

/-! ## Writing -/

def writeError (text : String) (logs : LogSystem) : LogSystem :=
  { logs with errorStream := logs.errorStream ++ text }

def writeFile (path text : String) (logs : LogSystem) : LogSystem :=
  let path := plainPath path
  { logs with files := logs.files.map fun file =>
      if file.1 == path then (file.1, file.2 ++ text) else file }

/-- The whole text of a file, when there is such a file. -/
def fileText (path : String) (logs : LogSystem) : Option String :=
  logs.files.lookup (plainPath path)

def isEnabled (levelNumber : Int) (logs : LogSystem) : Bool :=
  decide (LogSystem.levelNumber logs.level ≤ levelNumber)

/-- Hands a record to one handler, which stamps it with the ambient traveler
before it writes it. -/
def handle (record : Record) (logs : LogSystem) (handler : Handler) :
    Run Memory (Record × LogSystem) := do
  match handler with
  | .silent => pure (record, logs)
  | .stream format =>
    let stamped ← record.stamp (← Ambient.traveler)
    let line ← stamped.line format
    pure (stamped, logs.writeError (line ++ "\n"))
  | .file path format _ _ =>
    let stamped ← record.stamp (← Ambient.traveler)
    let line ← stamped.line format
    pure (stamped, logs.writeFile path (line ++ "\n"))

def handleAll (record : Record) (logs : LogSystem) :
    List Handler → Run Memory (Record × LogSystem)
  | [] => pure (record, logs)
  | handler :: rest => do
    let (record, logs) ← handle record logs handler
    handleAll record logs rest

/-- The level from which on records are shown when there is no handler. -/
def lastResortLevel : String := initialLevel

/-- Logs a record; the record comes back as the handlers have stamped it. -/
def emit (record : Record) (logs : LogSystem) : Run Memory (Record × LogSystem) := do
  if !logs.isEnabled record.levelNumber then pure (record, logs)
  else if logs.handlers.isEmpty then
    if levelNumber lastResortLevel ≤ record.levelNumber then
      let message ← Run.ofExcept record.message
      pure (record, logs.writeError (record.withDetails message ++ "\n"))
    else pure (record, logs)
  else handleAll record logs logs.handlers

end LogSystem

end VirtualClock

import Mathlib.Data.List.Induction
import VirtualClock.Log.System
import VirtualClock.Proofs.Runs

/-!
# Setting up the log

Setting up the log takes all handlers from its root before it builds the new ones.  It
succeeds with exactly the handlers, the format and the level that the settings ask for,
or it fails because the file of the log cannot be opened.  A failure leaves the level as
it was, but no handler: those that stood there before are not put back.

Whether a set-up succeeds is for the directories alone to decide.  After several set-ups
the handlers are those of the last one, or none if that one failed, and the level is that
of the last one which succeeded.
-/

namespace VirtualClock

/-! ## Opening a file -/

namespace Disk

variable {disk : Disk} {path place reached : PathName} {parts : List String}

/-- A place is reached only by all parts of the way, and only directories lie on it. -/
theorem followFrom_place (followed : disk.followFrom reached parts = .ok (.place place)) :
    place = { reached with parts := reached.parts ++ parts } ∧
    ∀ other : Disk, other.directories = disk.directories →
      other.followFrom reached parts = .ok (.place place) := by
  -- along the parts: each step that goes on asks for a directory, and the last one for none
  induction parts generalizing reached with
  | nil => cases followed
  | cons part rest inductionHypothesis =>
      unfold followFrom at followed
      by_cases long : PathName.longestPart < part.utf8ByteSize
      · simp only [if_pos long] at followed
        cases followed
      simp only [if_neg long] at followed
      by_cases entered :
          disk.directories.contains { reached with parts := reached.parts ++ [part] }.text
      · simp only [if_pos entered] at followed
        obtain ⟨whole, elsewhere⟩ := inductionHypothesis followed
        refine ⟨by simpa using whole, ?_⟩
        intro other same
        unfold followFrom
        simp only [if_neg long, same, if_pos entered]
        exact elsewhere other same
      simp only [if_neg entered] at followed
      by_cases last : rest.isEmpty
      · simp only [if_pos last] at followed
        cases followed
        have nothingLeft : rest = [] := List.isEmpty_iff.mp last
        refine ⟨by rw [nothingLeft], ?_⟩
        intro other same
        unfold followFrom
        simp only [if_neg long, same, if_neg entered, if_pos last]
      · simp only [if_neg last] at followed
        split at followed
        · cases followed
        · cases followed

theorem follow_place (followed : disk.follow path = .ok (.place place)) :
    place = path ∧
    ∀ other : Disk, other.directories = disk.directories →
      other.follow path = .ok (.place place) := by
  unfold follow at followed
  by_cases zero : path.text.contains '\x00'
  · simp only [if_pos zero] at followed
    cases followed
  by_cases long : PathName.longestName < path.text.utf8ByteSize
  · simp only [if_neg zero, if_pos long] at followed
    cases followed
  simp only [if_neg zero, if_neg long] at followed
  obtain ⟨whole, elsewhere⟩ := followFrom_place followed
  refine ⟨by simpa using whole, ?_⟩
  intro other same
  unfold follow
  simp only [if_neg zero, if_neg long]
  exact elsewhere other same

/-- An empty text names the current directory. -/
theorem follow_unnamed (disk : Disk) :
    disk.follow (PathName.ofText "").collapsed = .ok .directory := by
  have unnamed : (PathName.ofText "").collapsed = ⟨false, []⟩ := by
    unfold PathName.ofText PathName.collapsed String.splitOn String.splitOnAux
    simp only [PathName.mk.injEq]
    decide
  have empty : (⟨false, []⟩ : PathName).text = "" := rfl
  rw [unnamed]
  unfold follow
  rw [empty, if_neg (by simp), if_neg (by decide)]
  rfl

end Disk

namespace LogSystem

variable {logs opened : LogSystem} {path : String}

/-- The files with an empty one more, unless it is there. -/
def withFile (logs : LogSystem) (path : String) : LogSystem :=
  if (logs.fileText path).isSome then logs
  else { logs with files := logs.files ++ [(plainPath path, "")] }

theorem openFile_eq_ok_iff :
    logs.openFile path = .ok opened ↔
      logs.disk.follow (PathName.ofText path).collapsed =
        .ok (.place (PathName.ofText path).collapsed) ∧ opened = logs.withFile path := by
  unfold openFile withFile fileText plainPath
  constructor
  · intro done
    obtain ⟨destination, followed, done⟩ := Outcome.bind_eq_ok_iff.mp done
    cases destination with
    | place place =>
        obtain ⟨rfl, _⟩ := Disk.follow_place followed
        refine ⟨followed, ?_⟩
        dsimp only at done
        split at done
        · next known => cases done; rw [if_pos known]
        · next unknown => cases done; rw [if_neg unknown]
    | _ => cases done
  · rintro ⟨followed, rfl⟩
    rw [followed]
    split
    · next known => exact if_pos known
    · next unknown => exact if_neg unknown

/-- The log without its handlers. -/
def cleared (logs : LogSystem) : LogSystem := { logs with handlers := [] }

/-- Nothing but the disk decides how opening a file ends. -/
theorem openFile_of_disk {left right : LogSystem} (same : left.disk = right.disk) (path : String) :
    (left.openFile path).map (fun _ => ()) = (right.openFile path).map fun _ => () := by
  unfold openFile
  rw [same]
  cases right.disk.follow (PathName.ofText path).collapsed with
  | error fault => rfl
  | ok destination =>
      cases destination with
      | place place =>
          change Except.map _ (if _ then _ else _) = Except.map _ (if _ then _ else _)
          split <;> split <;> rfl
      | _ => rfl

/-- A file can be opened wherever its directories are, whatever was logged. -/
theorem isOk_openFile (logs : LogSystem) (path : String) :
    (logs.openFile path).isOk = ((initial logs.directories).openFile path).isOk := by
  have opens : ∀ left right : LogSystem, right.directories = left.directories →
      (left.openFile path).isOk → (right.openFile path).isOk := by
    intro left right same isOk
    cases done : left.openFile path with
    | error fault =>
        rw [done] at isOk
        cases isOk
    | ok opened =>
        obtain ⟨followed, _⟩ := openFile_eq_ok_iff.mp done
        obtain ⟨_, elsewhere⟩ := Disk.follow_place followed
        rw [openFile_eq_ok_iff.mpr ⟨elsewhere right.disk same, rfl⟩]
        rfl
  exact Bool.eq_iff_iff.mpr ⟨opens logs _ rfl, opens _ logs rfl⟩

theorem lookup_withFile (logs : LogSystem) (path : String) {name text : String}
    (known : logs.files.lookup name = some text) :
    (logs.withFile path).files.lookup name = some text := by
  unfold withFile
  split
  · exact known
  · simp only [List.lookup_append, known, Option.some_or]

/-- The text of a file is kept, and a file that was not there is empty. -/
theorem fileText_withFile :
    (logs.withFile path).fileText path = some ((logs.fileText path).getD "") := by
  unfold withFile
  cases text : logs.fileText path with
  | some text =>
      simp only [Option.isSome_some, if_true, text, Option.getD_some]
  | none =>
      unfold fileText at text ⊢
      simp [text, List.lookup_append]

end LogSystem

/-! ## What a handler writes -/

namespace Handler

def write (text : String) (logs : LogSystem) : Handler → LogSystem
  | .silent => logs
  | .stream _ => logs.writeError text
  | .file path _ _ _ => logs.writeFile path text

/-- The handler stamps each record with the ambient traveler and writes it in this format. -/
def StampsAndWrites (handler : Handler) (format : LineFormat) : Prop :=
  ∀ {Memory : Type} (record : Record) (logs : LogSystem),
    (LogSystem.handle record logs handler : Run Memory (Record × LogSystem)) = do
      let stamped ← record.stamp (← Ambient.traveler)
      let line ← stamped.line format
      pure (stamped, handler.write (line ++ "\n") logs)

end Handler

/-! ## Set-ups -/

structure LogSetup where
  settings : LoggingSettings
  service : Json
  version : Json

namespace LogSetup

open LogSystem

variable {setup : LogSetup} {before : LogSystem}

def format (setup : LogSetup) : LineFormat :=
  formatOf setup.settings setup.service setup.version

/-- One handler for the error stream, and one for the file if there is to be one. -/
def handlers (setup : LogSetup) : List Handler :=
  .stream setup.format :: (setup.settings.file.map fun path =>
    .file path setup.format (setup.settings.maxFileSizeMb * bytesPerMegabyte)
      setup.settings.backupCount).toList

def make (setup : LogSetup) (logs : LogSystem) : Except Fault Unit × LogSystem :=
  logs.configure setup.settings setup.service setup.version

/-- The log with what the settings ask for in the place of all that was there. -/
structure IsInForce (setup : LogSetup) (before after : LogSystem) : Prop where
  level : after.level = setup.settings.level
  handlers : after.handlers = setup.handlers
  stamped : ∀ handler ∈ after.handlers, handler.StampsAndWrites setup.format
  errorStream : after.errorStream = before.errorStream
  directories : after.directories = before.directories
  kept : ∀ name text, before.files.lookup name = some text →
    after.files.lookup name = some text
  opened : ∀ path, setup.settings.file = some path →
    after.fileText path = some ((before.fileText path).getD "")

theorem stampsAndWrites_of_mem {handler : Handler} (member : handler ∈ setup.handlers) :
    handler.StampsAndWrites setup.format := by
  rcases List.mem_cons.mp member with rfl | member
  · intro Memory record logs
    rfl
  · obtain ⟨path, _, rfl⟩ := Option.map_eq_some_iff.mp (Option.mem_toList.mp member)
    intro Memory record logs
    rfl

theorem make_of_no_file (before : LogSystem) (unnamed : setup.settings.file = none) :
    ∃ after, setup.make before = (.ok (), after) ∧ setup.IsInForce before after := by
  refine ⟨{ before with level := setup.settings.level, handlers := setup.handlers }, ?_, ?_⟩
  · unfold make configure handlers
    rw [unnamed]
    rfl
  · exact {
      level := rfl
      handlers := rfl
      stamped := fun handler => stampsAndWrites_of_mem
      errorStream := rfl
      directories := rfl
      kept := fun name text known => known
      opened := by simp [unnamed] }

theorem make_of_opened {path : String} {opened : LogSystem}
    (named : setup.settings.file = some path) (opens : before.openFile path = .ok opened) :
    ∃ after, setup.make before = (.ok (), after) ∧ setup.IsInForce before after := by
  obtain ⟨followed, _⟩ := openFile_eq_ok_iff.mp opens
  -- the handlers are gone by the time the file is opened, which is nothing to the file
  have opensCleared : before.cleared.openFile path = .ok (before.cleared.withFile path) :=
    openFile_eq_ok_iff.mpr ⟨followed, rfl⟩
  have others : (before.cleared.withFile path).errorStream = before.errorStream ∧
      (before.cleared.withFile path).directories = before.directories := by
    unfold withFile
    split <;> exact ⟨rfl, rfl⟩
  refine ⟨{ before.cleared.withFile path with
    level := setup.settings.level, handlers := setup.handlers }, ?_, ?_⟩
  · unfold make configure handlers
    rw [named]
    unfold cleared at opensCleared
    simp only [opensCleared]
    rfl
  · exact {
      level := rfl
      handlers := rfl
      stamped := fun handler => stampsAndWrites_of_mem
      errorStream := others.1
      directories := others.2
      kept := fun name text known => lookup_withFile before.cleared path known
      opened := by
        intro other same
        cases named.symm.trans same
        exact fileText_withFile }

theorem make_of_closed {path : String} {fault : Fault}
    (named : setup.settings.file = some path) (closed : before.openFile path = .error fault) :
    setup.make before = (.error fault, { before with handlers := [] }) := by
  have sameDisk : before.cleared.disk = before.disk := rfl
  have sameEnd := openFile_of_disk sameDisk path
  have stays : before.cleared.openFile path = .error fault := by
    rw [closed] at sameEnd
    exact Outcome.map_eq_error_iff.mp sameEnd
  unfold make configure
  rw [named]
  unfold cleared at stays
  simp only [stays]

/-! ## Several set-ups -/

/-- The set-up succeeds where these are the directories. -/
def opens (setup : LogSetup) (directories : List String) : Bool :=
  (setup.make (LogSystem.initial directories)).1.isOk

/-- What a set-up does: it comes into force, or the file of the log cannot be opened. -/
theorem make_cases (setup : LogSetup) (before : LogSystem) :
    (∃ after, setup.make before = (.ok (), after) ∧ setup.IsInForce before after) ∨
    ∃ path fault, setup.settings.file = some path ∧ before.openFile path = .error fault ∧
      setup.make before = (.error fault, { before with handlers := [] }) := by
  cases named : setup.settings.file with
  | none => exact .inl (make_of_no_file before named)
  | some path =>
      cases done : before.openFile path with
      | ok opened => exact .inl (make_of_opened named done)
      | error fault => exact .inr ⟨path, fault, rfl, done, make_of_closed named done⟩

theorem isOk_make_of_named {path : String} (named : setup.settings.file = some path) :
    (setup.make before).1.isOk = (before.openFile path).isOk := by
  cases done : before.openFile path with
  | ok opened =>
      obtain ⟨after, made, _⟩ := make_of_opened named done
      rw [made]
      rfl
  | error fault =>
      rw [make_of_closed named done]
      rfl

theorem isOk_make (setup : LogSetup) (logs : LogSystem) :
    (setup.make logs).1.isOk = setup.opens logs.directories := by
  unfold opens
  cases named : setup.settings.file with
  | none =>
      obtain ⟨after, made, _⟩ := make_of_no_file logs named
      obtain ⟨first, madeFirst, _⟩ := make_of_no_file (initial logs.directories) named
      rw [made, madeFirst]
  | some path =>
      rw [isOk_make_of_named named, isOk_make_of_named named]
      exact isOk_openFile logs path

theorem make_leaves (setup : LogSetup) (logs : LogSystem) :
    (setup.make logs).2.handlers =
      (if setup.opens logs.directories then setup.handlers else []) ∧
    (setup.make logs).2.level =
      (if setup.opens logs.directories then setup.settings.level else logs.level) ∧
    (setup.make logs).2.directories = logs.directories := by
  rw [← isOk_make]
  rcases setup.make_cases logs with ⟨after, made, inForce⟩ | ⟨path, fault, _, _, made⟩
  · rw [made]
    exact ⟨inForce.handlers, inForce.level, inForce.directories⟩
  · rw [made]
    exact ⟨rfl, rfl, rfl⟩

/-- Makes some set-ups one after the other; one that fails does not stop the others. -/
def makeAll (setups : List LogSetup) (logs : LogSystem) : LogSystem :=
  setups.foldl (fun logs setup => (setup.make logs).2) logs

theorem makeAll_append (setups : List LogSetup) (last : LogSetup) (logs : LogSystem) :
    makeAll (setups ++ [last]) logs = (last.make (makeAll setups logs)).2 :=
  List.foldl_append

theorem level_makeAll (setups : List LogSetup) (start : LogSystem) :
    (makeAll setups start).directories = start.directories ∧
    (makeAll setups start).level =
      (((setups.filter (·.opens start.directories)).getLast?).map (·.settings.level)).getD
        start.level := by
  -- from the last set-up backwards, since only the later ones overwrite a level
  induction setups using List.reverseRecOn with
  | nil => exact ⟨rfl, rfl⟩
  | append_singleton earlier last inductionHypothesis =>
      obtain ⟨sameDirectories, sameLevel⟩ := inductionHypothesis
      obtain ⟨_, level, directories⟩ := last.make_leaves (makeAll earlier start)
      rw [makeAll_append, level, directories, sameDirectories]
      refine ⟨rfl, ?_⟩
      by_cases opens : last.opens start.directories
      · simp [opens]
      · simp [opens, sameLevel]

def errorsOnly : LogSetup := ⟨⟨"ERROR", "json", none, 10, 3⟩, .text "svc", .text ""⟩

def errorsOnlyLog : LogSystem := ⟨"ERROR", errorsOnly.handlers, "", [], []⟩

/-- Shows everything, also in a file; but an empty text names the current directory. -/
def unnamedFile : LogSetup := ⟨⟨"DEBUG", "json", some "", 10, 3⟩, .text "svc", .text ""⟩

end LogSetup

end VirtualClock

import VirtualClock.Proofs.ZoneNames
import VirtualClock.Settings.Sources

/-!
# What loading makes of settings

Settings satisfy the schema when the words for the log are among the choices, its numbers are
not below their bounds and the zone is one of the atlas, if they name any.  Whatever the
sources hold, loading them fails or gives such settings.  The other way round, settings that
satisfy the schema are loaded again from the fields that state them.
-/

namespace VirtualClock

/-! ## Fields -/

namespace FieldReading

variable {Result : Type} {fields : Fields} {name : String} {default result : Result}
  {read : Json → Except FieldProblem Result}

/-- What holds of the default and of all that is read from a value holds of the field. -/
theorem holds_of_field {holds : Result → Prop}
    (found : field fields name default read = .ok result) (standing : holds default)
    (reads : ∀ value result, read value = .ok result → holds result) : holds result := by
  unfold field at found
  split at found
  · cases found
    exact standing
  · next value _ =>
      split at found
      · next reading =>
          cases found
          exact reads value result reading
      · cases found

theorem field_of_lookup {value : Json} (stated : Json.lookup fields name = some value)
    (reading : read value = .ok result) : field fields name default read = .ok result := by
  unfold field
  rw [stated]
  dsimp only
  rw [reading]

theorem oneOf_eq_ok_iff {choices : List String} {value : Json} {word : String} :
    oneOf choices value = .ok word ↔ value = .text word ∧ word ∈ choices := by
  constructor
  · intro chose
    cases value with
    | text content =>
        unfold oneOf at chose
        dsimp only at chose
        split at chose
        · next contained =>
            cases chose
            exact ⟨rfl, List.contains_iff_mem.mp contained⟩
        · cases chose
    | _ => cases chose
  · rintro ⟨rfl, known⟩
    exact if_pos (List.contains_iff_mem.mpr known)

theorem wholeFrom_eq_ok_iff {least number : Int} {value : Json} :
    wholeFrom least value = .ok number ↔ whole value = .ok number ∧ least ≤ number := by
  unfold wholeFrom
  rw [Outcome.bind_eq_ok_iff]
  constructor
  · rintro ⟨read, reading, bounded⟩
    split at bounded
    · cases bounded
    · next notBelow =>
        cases bounded
        exact ⟨reading, Int.not_lt.mp notBelow⟩
  · rintro ⟨reading, bounded⟩
    exact ⟨number, reading, if_neg (Int.not_lt.mpr bounded)⟩

theorem optionalText_jsonOfText (content : Option String) :
    optionalText (Settings.jsonOfText content) = .ok content := by
  cases content <;> rfl

end FieldReading

/-! ## The settings of the log -/

namespace LoggingSettings

open FieldReading

theorem standard_isValid : standard.IsValid := by
  decide

theorem ofFields_eq_ok {fields : Fields} {settings : LoggingSettings}
    (loaded : ofFields fields = .ok settings) :
    field fields "level" standard.level (oneOf levelNames) = .ok settings.level ∧
    field fields "format" standard.format (oneOf formatNames) = .ok settings.format ∧
    field fields "file" standard.file optionalText = .ok settings.file ∧
    field fields "max_file_size_mb" standard.maxFileSizeMb (wholeFrom 1) =
      .ok settings.maxFileSizeMb ∧
    field fields "backup_count" standard.backupCount (wholeFrom 0) = .ok settings.backupCount := by
  unfold ofFields at loaded
  dsimp only at loaded
  split at loaded
  · next level format file size count =>
      cases loaded
      exact ⟨level, format, file, size, count⟩
  · cases loaded

theorem isValid_of_ofFields {fields : Fields} {settings : LoggingSettings}
    (loaded : ofFields fields = .ok settings) : settings.IsValid := by
  obtain ⟨level, format, _, size, count⟩ := ofFields_eq_ok loaded
  obtain ⟨standardLevel, standardFormat, standardSize, standardCount⟩ := standard_isValid
  have chooses : ∀ {choices : List String} (value : Json) (word : String),
      oneOf choices value = .ok word → word ∈ choices :=
    fun value word chose => (oneOf_eq_ok_iff.mp chose).2
  have bounds : ∀ {least : Int} (value : Json) (number : Int),
      wholeFrom least value = .ok number → least ≤ number :=
    fun value number read => (wholeFrom_eq_ok_iff.mp read).2
  exact ⟨holds_of_field level standardLevel chooses, holds_of_field format standardFormat chooses,
    holds_of_field size standardSize bounds, holds_of_field count standardCount bounds⟩

/-- The fields that state the settings. -/
def fields (settings : LoggingSettings) : Fields :=
  [("level", .text settings.level), ("format", .text settings.format),
    ("file", Settings.jsonOfText settings.file),
    ("max_file_size_mb", .whole settings.maxFileSizeMb),
    ("backup_count", .whole settings.backupCount)]

theorem ofFields_fields {settings : LoggingSettings} (valid : settings.IsValid) :
    ofFields settings.fields = .ok settings := by
  obtain ⟨level, format, size, count⟩ := valid
  have levelled : field settings.fields "level" standard.level (oneOf levelNames) =
      .ok settings.level :=
    field_of_lookup rfl (oneOf_eq_ok_iff.mpr ⟨rfl, level⟩)
  have formatted : field settings.fields "format" standard.format (oneOf formatNames) =
      .ok settings.format :=
    field_of_lookup rfl (oneOf_eq_ok_iff.mpr ⟨rfl, format⟩)
  have filed : field settings.fields "file" standard.file optionalText = .ok settings.file :=
    field_of_lookup rfl (optionalText_jsonOfText settings.file)
  have sized : field settings.fields "max_file_size_mb" standard.maxFileSizeMb (wholeFrom 1) =
      .ok settings.maxFileSizeMb :=
    field_of_lookup rfl (wholeFrom_eq_ok_iff.mpr ⟨rfl, size⟩)
  have counted : field settings.fields "backup_count" standard.backupCount (wholeFrom 0) =
      .ok settings.backupCount :=
    field_of_lookup rfl (wholeFrom_eq_ok_iff.mpr ⟨rfl, count⟩)
  unfold ofFields
  rw [levelled, formatted, filed, sized, counted]

end LoggingSettings

/-! ## The settings -/

namespace Settings

open FieldReading

theorem isValid_of_loggingOf {fields : Fields} {settings : LoggingSettings}
    (loaded : loggingOf fields = .ok settings) : settings.IsValid := by
  unfold loggingOf at loaded
  split at loaded
  · cases loaded
    exact LoggingSettings.standard_isValid
  · next value _ =>
      split at loaded
      · next made =>
          cases loaded
          cases value with
          | object inner => exact LoggingSettings.isValid_of_ofFields made
          | _ => cases made
      · cases loaded

/-- The fields that state the settings. -/
def fields (settings : Settings) : Fields :=
  [("time_zone", jsonOfText settings.timeZone), ("logging", .object settings.logging.fields)]

theorem givenFields_fields (settings : Settings) :
    givenFields settings.fields = settings.fields := by
  have zone : Text.lower "time_zone" = "time_zone" := by
    decide
  have logging : Text.lower "logging" = "logging" := by
    decide
  simp [givenFields, fields, fieldNames, zone, logging]

variable [Atlas]

/-- The settings satisfy the schema. -/
structure IsValid (settings : Settings) : Prop where
  logging : settings.logging.IsValid
  zone : ∀ name, settings.timeZone = some name → Atlas.IsKnown name

theorem isKnown_of_zoneName {value : Json} {timeZone : Option String} {name : String}
    (read : zoneName value = .ok (.ok timeZone)) (named : timeZone = some name) :
    Atlas.IsKnown name := by
  cases value with
  | text content =>
      rw [zoneName_text] at read
      cases found : Atlas.find content with
      | ok place =>
          rw [found] at read
          cases read
          cases named
          exact Atlas.isKnown_iff.mpr ⟨place, found⟩
      | error fault =>
          rw [found] at read
          cases fault <;> cases read
  | null =>
      cases read
      cases named
  | _ => cases read

theorem zoneName_jsonOfText {timeZone : Option String}
    (known : ∀ name, timeZone = some name → Atlas.IsKnown name) :
    zoneName (jsonOfText timeZone) = .ok (.ok timeZone) := by
  cases timeZone with
  | none => rfl
  | some name =>
      obtain ⟨place, found⟩ := Atlas.isKnown_iff.mp (known name rfl)
      show zoneName (.text name) = _
      rw [zoneName_text, found]
      rfl

/-- The zone among the fields of an object. -/
def zoneOf (defaultZone : Option String) (fields : Fields) :
    Except Fault (Except FieldProblem (Option String)) :=
  match Json.lookup fields "time_zone" with
  | none => .ok (.ok defaultZone)
  | some value => zoneName value

section OfFields

variable {defaultZone timeZone : Option String} {fields : Fields} {settings : Settings}

/-- Once the zone is read, only the log settings can be refused. -/
theorem ofFields_of_zoneOf (zoned : zoneOf defaultZone fields = .ok (.ok timeZone)) :
    ofFields defaultZone fields =
      ((loggingOf fields).mapError .refusedSettings).map fun logging => ⟨timeZone, logging⟩ := by
  unfold zoneOf at zoned
  unfold ofFields
  cases looked : Json.lookup fields "time_zone" with
  | none =>
      rw [looked] at zoned
      cases zoned
      cases loggingOf fields <;> rfl
  | some value =>
      rw [looked] at zoned
      dsimp only at zoned ⊢
      rw [zoned]
      cases loggingOf fields <;> rfl

theorem exists_zoneOf (loaded : ofFields defaultZone fields = .ok settings) :
    ∃ timeZone, zoneOf defaultZone fields = .ok (.ok timeZone) := by
  unfold ofFields at loaded
  unfold zoneOf
  cases looked : Json.lookup fields "time_zone" with
  | none => exact ⟨defaultZone, rfl⟩
  | some value =>
      rw [looked] at loaded
      obtain ⟨zone, zoned, loaded⟩ := Outcome.bind_eq_ok_iff.mp loaded
      cases zone with
      | ok timeZone => exact ⟨timeZone, zoned⟩
      | error problem => cases loaded

theorem isKnown_of_zoneOf {name : String}
    (standing : ∀ name, defaultZone = some name → Atlas.IsKnown name)
    (zoned : zoneOf defaultZone fields = .ok (.ok timeZone)) (named : timeZone = some name) :
    Atlas.IsKnown name := by
  unfold zoneOf at zoned
  split at zoned
  · cases zoned
    exact standing name named
  · exact isKnown_of_zoneName zoned named

/-- Settings that are read off fields satisfy the schema if their default zone does. -/
theorem isValid_of_ofFields (standing : ∀ name, defaultZone = some name → Atlas.IsKnown name)
    (loaded : ofFields defaultZone fields = .ok settings) : settings.IsValid := by
  obtain ⟨timeZone, zoned⟩ := exists_zoneOf loaded
  rw [ofFields_of_zoneOf zoned] at loaded
  obtain ⟨logging, logged, rfl⟩ := Outcome.map_eq_ok_iff.mp loaded
  have valid : logging.IsValid := isValid_of_loggingOf (Outcome.mapError_eq_ok_iff.mp logged)
  exact ⟨valid, fun name named => isKnown_of_zoneOf standing zoned named⟩

end OfFields

theorem isValid_of_load {given : Fields} {environment : List (String × String)}
    {file : Option String} {settings : Settings}
    (loaded : load given environment file = .ok settings) : settings.IsValid := by
  obtain ⟨surrounding, _, loaded⟩ := Outcome.bind_eq_ok_iff.mp loaded
  cases file with
  | none => exact isValid_of_ofFields (by simp) loaded
  | some text =>
      obtain ⟨written, _, loaded⟩ := Outcome.bind_eq_ok_iff.mp loaded
      exact isValid_of_ofFields (by simp) loaded

/-- Exactly the settings that satisfy the schema are loaded again from their fields. -/
theorem loadGiven_fields_iff {settings : Settings} :
    loadGiven none settings.fields = .ok settings ↔ settings.IsValid := by
  constructor
  · exact fun loaded => isValid_of_ofFields (by simp) loaded
  · rintro ⟨logging, known⟩
    have logged : loggingOf settings.fields = .ok settings.logging := by
      unfold loggingOf
      rw [show Json.lookup settings.fields "logging" = some (.object settings.logging.fields) from rfl]
      dsimp only [LoggingSettings.ofJson]
      rw [LoggingSettings.ofFields_fields logging]
    have zoned : zoneOf none settings.fields = .ok (.ok settings.timeZone) :=
      zoneName_jsonOfText known
    unfold loadGiven
    rw [givenFields_fields, ofFields_of_zoneOf zoned, logged]
    rfl

end Settings

end VirtualClock

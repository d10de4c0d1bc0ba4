import VirtualClock.Proofs.JsonLines
import VirtualClock.Proofs.TravelStamps

/-!
# Logs of JSON lines

A log has a line for each record, with a line end behind it.  Whatever the texts of
the records are, no line has a line end of its own: the log is cut into its lines
again, and from each line the object of its record is read.
-/

namespace VirtualClock

variable {Memory : Type}

/-- A record has a JSON line when its time and its message can be shown, and then alone. -/
theorem Record.exists_jsonLine_iff {record : Record} {stamp : TravelStamp} {world : World Memory}
    (service version : Json) (stamped : record.travelStamp world = (.ok stamp, world)) :
    (∃ line, (record.jsonLine service version world).1 = .ok line) ↔
      (∃ time, RecordTime.isoText record.created = .ok time) ∧
        ∃ message, record.message = .ok message := by
  rw [jsonLine_apply service version stamped]
  constructor
  · rintro ⟨line, written⟩
    obtain ⟨fields, built, _⟩ := Outcome.map_eq_ok_iff.mp written
    obtain ⟨time, message, timed, worded, _⟩ := exists_of_jsonFields built
    exact ⟨⟨time, timed⟩, message, worded⟩
  · rintro ⟨⟨time, timed⟩, message, worded⟩
    unfold jsonFields
    rw [timed, worded]
    exact ⟨_, rfl⟩

/-- A row of a log: a record that can be shown, the service and its version, the world in which
the line is written, and the overrides of which it tells there.  They are those at the emission of
a stamped record, and those of the ambient traveler for any other one. -/
structure LogRow (Memory : Type) where
  record : Record
  service : String
  version : String
  world : World Memory
  time : String
  message : String
  overrides : List Override
  timed : RecordTime.isoText record.created = .ok time
  worded : record.message = .ok message
  tells : record.travelStamp world = (.ok (.ofEntries overrides), world)
  /-- The depth has no more digits than a number may have, which no stack comes near. -/
  countable : Text.decimalWidth overrides.length ≤ Json.longestWhole

namespace LogRow

/-- The names of the fields behind the time. -/
def contentNames : List String :=
  ["level", "logger", "message", "service", "version", "virtual_time", "travel_depth",
    "exception", "stack_info"]

/-- What the object of a row holds: every text as it is in the record, the version unless it is
empty, the travel while an override is open, the exception and the stack when there are such, and
nothing else. -/
structure Holds (row : LogRow Memory) (fields : List (String × Json)) : Prop where
  distinct : (fields.map Prod.fst).Nodup
  named : ∀ field ∈ fields, field.1 ∈ "timestamp" :: contentNames
  timestamp : Json.lookup fields "timestamp" = some (.text row.time)
  level : Json.lookup fields "level" = some (.text row.record.levelName)
  logger : Json.lookup fields "logger" = some (.text row.record.name)
  message : Json.lookup fields "message" = some (.text row.message)
  service : Json.lookup fields "service" = some (.text row.service)
  version : Json.lookup fields "version" =
    if row.version = "" then none else some (.text row.version)
  virtualTime : Json.lookup fields "virtual_time" =
    row.overrides.getLast?.map fun top => .text top.anchor.isoText
  travelDepth : Json.lookup fields "travel_depth" =
    if row.overrides.length = 0 then none else some (.whole row.overrides.length)
  exception : Json.lookup fields "exception" =
    match row.record.fault with
    | some (.present fault) => some (.text (RecordedFault.present fault).text)
    | _ => none
  stackInfo : Json.lookup fields "stack_info" =
    match row.record.stack with
    | some stack => if stack = "" then none else some (.text stack)
    | none => none

def table (row : LogRow Memory) : List (String × Option Json) :=
  row.record.lineTable (.text row.service) (.text row.version) (.ofEntries row.overrides) row.time
    row.message

def fields (row : LogRow Memory) : List (String × Json) := Json.present row.table

/-- Writes the line of a row. -/
def line (row : LogRow Memory) : Run Memory String :=
  row.record.line (.json (.text row.service) (.text row.version))

theorem jsonFields_eq (row : LogRow Memory) :
    row.record.jsonFields (.text row.service) (.text row.version) (.ofEntries row.overrides) =
      .ok row.fields := by
  unfold Record.jsonFields
  rw [row.timed, row.worded]
  rfl

theorem line_apply (row : LogRow Memory) :
    row.line row.world = (.ok (Json.render (.object row.fields)), row.world) := by
  show row.record.jsonLine _ _ row.world = _
  rw [Record.jsonLine_apply _ _ row.tells, row.jsonFields_eq]
  rfl

theorem virtualTime_ofEntries (overrides : List Override) :
    (if (TravelStamp.ofEntries overrides).depth.isTruthy then
        some (TravelStamp.ofEntries overrides).virtualTime else none) =
      overrides.getLast?.map fun top => Json.text top.anchor.isoText := by
  rw [TravelStamp.isTruthy_depth_ofEntries]
  unfold TravelStamp.ofEntries
  cases top : overrides.getLast? with
  | none =>
      rw [List.getLast?_eq_none_iff.mp top]
      rfl
  | some override =>
      have occupied : overrides.length ≠ 0 := by
        rintro empty
        rw [List.length_eq_zero_iff.mp empty] at top
        cases top
      simp [occupied]

theorem holds_fields (row : LogRow Memory) : row.Holds row.fields := by
  have distinct : (row.table.map Prod.fst).Nodup := row.record.names_lineTable_nodup _ _ _ _ _
  have looked := Json.lookup_present distinct
  have names := Json.names_present row.table
  have empty : ∀ text : String, text.isEmpty = decide (text = "") := by
    intro text
    rw [Bool.eq_iff_iff, String.isEmpty_iff, decide_eq_true_iff]
  exact {
    distinct := names.nodup distinct
    named := fun field member => names.subset (List.mem_map_of_mem member)
    timestamp := looked _
    level := looked _
    logger := looked _
    message := looked _
    service := looked _
    version := by
      refine (looked _).trans ?_
      show (if !row.version.isEmpty then some (Json.text row.version) else none) = _
      rw [empty]
      by_cases nothing : row.version = "" <;> simp [nothing]
    virtualTime := (looked _).trans (virtualTime_ofEntries row.overrides)
    travelDepth := (Record.lookup_travel row.jsonFields_eq).2
    exception := looked _
    stackInfo := by
      refine (looked _).trans ?_
      show row.record.stackText = _
      unfold Record.stackText
      cases row.record.stack with
      | none => rfl
      | some stack =>
          dsimp only
          rw [empty]
          by_cases nothing : stack = "" <;> simp [nothing] }

/-- The values are texts, and the depth is a number that can be written. -/
theorem fitsLine_of_mem_table (row : LogRow Memory) :
    ∀ field ∈ row.table, ∀ value ∈ field.2, Json.FitsLine value := by
  have text : ∀ content, ∀ value ∈ some (Json.text content), Json.FitsLine value := by
    rintro content _ ⟨⟩
    exact Json.fitsLine_text content
  have optional : ∀ (shown : Bool) (value : Json), Json.FitsLine value →
      ∀ member ∈ if shown then some value else none, Json.FitsLine member := by
    intro shown value fits member written
    cases shown with
    | false => cases written
    | true =>
        cases written
        exact fits
  simp only [table, Record.lineTable, List.forall_mem_cons]
  refine ⟨text _, text _, text _, text _, text _, ?version, ?virtualTime, ?travelDepth,
    ?exception, ?stackInfo, nofun⟩
  case version => exact optional _ _ (Json.fitsLine_text row.version)
  case virtualTime =>
    rw [virtualTime_ofEntries]
    intro value written
    obtain ⟨top, _, rfl⟩ := Option.map_eq_some_iff.mp written
    exact Json.fitsLine_text top.anchor.isoText
  case travelDepth =>
    rw [TravelStamp.ofEntries_depth]
    exact optional _ _ (Json.fitsLine_whole row.countable)
  case exception =>
    unfold Record.exceptionText
    split
    · exact text _
    · exact nofun
  case stackInfo =>
    unfold Record.stackText
    split
    · split
      · exact nofun
      · exact text _
    · exact nofun

theorem fitsLine (row : LogRow Memory) : Json.FitsLine (.object row.fields) := by
  refine Json.fitsLine_object (fun field member => ?_) row.holds_fields.distinct
  exact row.fitsLine_of_mem_table _ (Json.mem_present.mp member) _ rfl

/-! ### Rows with and without a stamp -/

section Rows

variable (record : Record) (service version : String) (world : World Memory) (time message : String)
  (timed : RecordTime.isoText record.created = .ok time) (worded : record.message = .ok message)

/-- The row of a record that a traveler stamped in another world. -/
def ofStamped (traveler : Traveler) (emission : World Memory)
    (countable : Text.decimalWidth (emission.entries traveler.stack).length ≤ Json.longestWhole) :
    LogRow Memory where
  record := record.withStamp (.ofEntries (emission.entries traveler.stack))
  service := service
  version := version
  world := world
  time := time
  message := message
  overrides := emission.entries traveler.stack
  timed := timed
  worded := worded
  tells := record.travelStamp_withStamp (emission.entries traveler.stack) world
  countable := countable

def ofUnstamped (unstamped : record.depth = none)
    (countable : Text.decimalWidth
      (world.entries (world.context.ambient.getD .standard).stack).length ≤ Json.longestWhole) :
    LogRow Memory where
  record := record
  service := service
  version := version
  world := world
  time := time
  message := message
  overrides := world.entries (world.context.ambient.getD .standard).stack
  timed := timed
  worded := worded
  tells := Record.travelStamp_of_unstamped unstamped world
  countable := countable

end Rows

end LogRow

/-! ## Logs -/

/-- Every row has a line, and writing it changes nothing.  The lines with a line end behind each
are cut at the line ends into the same lines again, in their order, and nothing behind the last
one; and each of them is read as an object that holds its row. -/
theorem json_log_is_read_back (rows : List (LogRow Memory)) :
    ∃ lines : List String,
      (String.join (lines.map (· ++ "\n"))).toList.splitOn '\n' = lines.map String.toList ++ [[]] ∧
      List.Forall₂ (fun row line => row.line row.world = (.ok line, row.world) ∧
        ∃ fields, Json.parse line = some (.object fields) ∧ row.Holds fields) rows lines := by
  refine ⟨rows.map fun row => Json.render (.object row.fields), ?_, ?_⟩
  · have whole : ∀ line ∈ rows.map fun row => Json.renderChars (.object row.fields),
        '\n' ∉ line := by
      intro line written
      obtain ⟨row, _, rfl⟩ := List.mem_map.mp written
      exact row.fitsLine.unbroken
    have cut := splitOn_lines whole
    simpa [String.toList_join, List.flatMap_map, Json.render, Function.comp_def] using cut
  · rw [List.forall₂_map_right_iff, List.forall₂_same]
    intro row _
    exact ⟨row.line_apply, row.fields, row.fitsLine.parse_render, row.holds_fields⟩

/-! ### A greeting and an error -/

/-- A greeting, logged in the first second of 1970. -/
def greeting : LogRow Unit :=
  .ofUnstamped ⟨"app", 20, "INFO", "hello", [], .finite false 0 0, .whole 0, none, none, none, none⟩
    "svc" "" (World.start .utc [] ()) "1970-01-01T00:00:00+00:00" "hello" (by decide +kernel) rfl
    rfl (by decide)

/-- The time of a record is a field too. -/
theorem greeting_line_shows_its_time :
    ∃ line fields, greeting.line greeting.world = (.ok line, greeting.world) ∧
      Json.parse line = some (.object fields) ∧
      ¬∀ field ∈ fields, field.1 ∈ LogRow.contentNames := by
  refine ⟨_, _, greeting.line_apply, greeting.fitsLine.parse_render, fun named => ?_⟩
  have time : ("timestamp", Json.text "1970-01-01T00:00:00+00:00") ∈ greeting.fields :=
    Json.mem_present.mpr List.mem_cons_self
  exact absurd (named _ time) (by decide)

/-- An error whose texts have line ends, quotes and a character beyond the basic plane, logged
during a travel and written after it. -/
def brokenError : LogRow Unit :=
  .ofStamped ⟨"app", 40, "ERROR", "line\nbreak \"quoted\" 😀", [], .finite false 0 0, .whole 0,
      some (.present (.raised "ValueError" "first\nsecond")), some "Stack:\n  here", none, none⟩
    "svc" "2.0" (World.start .utc [] ()) "1970-01-01T00:00:00+00:00" "line\nbreak \"quoted\" 😀"
    (by decide +kernel) rfl hourEast Record.travellingWorld (by decide)

theorem broken_error_is_read_back :
    ∃ first second, greeting.line greeting.world = (.ok first, greeting.world) ∧
      brokenError.line brokenError.world = (.ok second, brokenError.world) ∧
      (first ++ "\n" ++ (second ++ "\n")).toList.splitOn '\n' =
        [first.toList, second.toList, []] ∧
      ∃ fields, Json.parse second = some (.object fields) ∧
        Json.lookup fields "message" = some (.text "line\nbreak \"quoted\" 😀") ∧
        Json.lookup fields "travel_depth" = some (.whole 1) ∧
        Json.lookup fields "exception" = some (.text "ValueError: first\nsecond") := by
  have worded : (RecordedFault.present (.raised "ValueError" "first\nsecond")).text =
      "ValueError: first\nsecond" := by
    decide +kernel
  obtain ⟨lines, cut, read⟩ := json_log_is_read_back [greeting, brokenError]
  rcases read with _ | ⟨⟨greeted, _⟩, _ | ⟨⟨failed, fields, parsed, holds⟩, _ | _⟩⟩
  refine ⟨_, _, greeted, failed, ?_, fields, parsed, holds.message, holds.travelDepth, ?_⟩
  · simpa [String.join] using cut
  · exact holds.exception.trans (congrArg (fun text => some (Json.text text)) worded)

end VirtualClock

import VirtualClock.Log.Line
import VirtualClock.Proofs.Runs

/-!
# The fields of a JSON line

An object can be told by a table of all the fields that it may have, each with
its value or with none.  A JSON line has ten such fields: five are always there,
the version unless it is empty, two while an override is open, and the exception
and the stack when the record has them.
-/

namespace VirtualClock

namespace Json

/-- The fields of a table that have a value, in their order. -/
def present (table : List (String × Option Json)) : List (String × Json) :=
  table.filterMap fun field => field.2.map fun value => (field.1, value)

variable {table : List (String × Option Json)}

theorem present_cons (name : String) (value : Option Json) (rest : List (String × Option Json)) :
    present ((name, value) :: rest) =
      (value.map fun value => (name, value)).toList ++ present rest := by
  cases value <;> rfl

theorem present_append (table others : List (String × Option Json)) :
    present (table ++ others) = present table ++ present others :=
  List.filterMap_append

theorem mem_present {name : String} {value : Json} :
    (name, value) ∈ present table ↔ (name, some value) ∈ table := by
  induction table with
  | nil => simp [present]
  | cons field rest inductionHypothesis =>
      obtain ⟨first, found⟩ := field
      cases found with
      | none => simp [present_cons, inductionHypothesis]
      | some found => simp [present_cons, inductionHypothesis]

theorem names_present (table : List (String × Option Json)) :
    ((present table).map Prod.fst).Sublist (table.map Prod.fst) := by
  induction table with
  | nil => exact List.Sublist.refl _
  | cons field rest inductionHypothesis =>
      obtain ⟨name, value⟩ := field
      cases value with
      | none => exact inductionHypothesis.cons name
      | some value => exact inductionHypothesis.cons_cons name

/-- Where no name stands twice, a name is looked up in the table itself. -/
theorem lookup_present (distinct : (table.map Prod.fst).Nodup) (name : String) :
    lookup (present table) name = (table.lookup name).join := by
  induction table with
  | nil => rfl
  | cons field rest inductionHypothesis =>
      obtain ⟨first, value⟩ := field
      obtain ⟨new, distinct⟩ := List.nodup_cons.mp distinct
      have later := inductionHypothesis distinct
      unfold lookup at later ⊢
      rw [present_cons, List.lookup_cons]
      cases value with
      | some value =>
          rw [Option.map_some, Option.toList_some, List.singleton_append, List.lookup_cons, later]
          cases name == first <;> rfl
      | none =>
          rw [Option.map_none, Option.toList_none, List.nil_append, later]
          by_cases same : name = first
          · have missing : rest.lookup name = none := by
              rw [List.lookup_eq_none_iff]
              intro field member
              rw [bne_iff_ne, same]
              exact fun equal => new (List.mem_map.mpr ⟨field, member, equal.symm⟩)
            rw [same, beq_self_eq_true, ← same, missing]
            rfl
          · rw [beq_eq_false_iff_ne.mpr same]

end Json

namespace Record

/-- What a JSON line shows of an exception. -/
def exceptionText (record : Record) : Option Json :=
  match record.fault with
  | some (.present fault) => some (.text (RecordedFault.present fault).text)
  | _ => none

/-- What a JSON line shows of a stack; an empty one is left out. -/
def stackText (record : Record) : Option Json :=
  match record.stack with
  | some stack => if stack.isEmpty then none else some (.text stack)
  | none => none

/-- The table of a JSON line. -/
def lineTable (record : Record) (service version : Json) (stamp : TravelStamp)
    (time message : String) : List (String × Option Json) :=
  [("timestamp", some (.text time)),
    ("level", some (.text record.levelName)),
    ("logger", some (.text record.name)),
    ("message", some (.text message)),
    ("service", some service),
    ("version", if version.isTruthy then some version else none),
    ("virtual_time", if stamp.depth.isTruthy then some stamp.virtualTime else none),
    ("travel_depth", if stamp.depth.isTruthy then some stamp.depth else none),
    ("exception", record.exceptionText),
    ("stack_info", record.stackText)]

section Table

variable (record : Record) (service version : Json) (stamp : TravelStamp) (time message : String)

theorem present_lineTable :
    Json.present (record.lineTable service version stamp time message) =
      ("timestamp", .text time) :: record.lineFields service version stamp message := by
  have versions : Json.present [("version", if version.isTruthy then some version else none)] =
      if version.isTruthy then [("version", version)] else [] := by
    cases version.isTruthy <;> rfl
  have travels : Json.present
        [("virtual_time", if stamp.depth.isTruthy then some stamp.virtualTime else none),
          ("travel_depth", if stamp.depth.isTruthy then some stamp.depth else none)] =
      if stamp.depth.isTruthy then
        [("virtual_time", stamp.virtualTime), ("travel_depth", stamp.depth)]
      else [] := by
    cases stamp.depth.isTruthy <;> rfl
  have exceptions : Json.present [("exception", record.exceptionText)] =
      match record.fault with
      | some (.present fault) => [("exception", .text (RecordedFault.present fault).text)]
      | _ => [] := by
    unfold exceptionText
    rcases record.fault with _ | _ | fault <;> rfl
  have stackInfos : Json.present [("stack_info", record.stackText)] =
      match record.stack with
      | some stack => if stack.isEmpty then [] else [("stack_info", .text stack)]
      | none => [] := by
    unfold stackText
    rcases record.stack with _ | stack
    · rfl
    · dsimp only
      cases stack.isEmpty <;> rfl
  have groups : record.lineFields service version stamp message =
      [("level", .text record.levelName), ("logger", .text record.name),
        ("message", .text message), ("service", service)] ++
        Json.present [("version", if version.isTruthy then some version else none)] ++
        Json.present
          [("virtual_time", if stamp.depth.isTruthy then some stamp.virtualTime else none),
            ("travel_depth", if stamp.depth.isTruthy then some stamp.depth else none)] ++
        Json.present [("exception", record.exceptionText)] ++
        Json.present [("stack_info", record.stackText)] := by
    rw [versions, travels, exceptions, stackInfos]
    rfl
  rw [groups]
  simp only [List.append_assoc, ← Json.present_append]
  rfl

theorem names_lineTable :
    (record.lineTable service version stamp time message).map Prod.fst =
      ["timestamp", "level", "logger", "message", "service", "version", "virtual_time",
        "travel_depth", "exception", "stack_info"] :=
  rfl

theorem names_lineTable_nodup :
    ((record.lineTable service version stamp time message).map Prod.fst).Nodup := by
  rw [names_lineTable]
  decide

end Table

/-! ## Lines -/

/-- The fields of a JSON line, when the time and the message of the record can be shown. -/
def jsonFields (record : Record) (service version : Json) (stamp : TravelStamp) :
    Except Fault (List (String × Json)) := do
  let time ← RecordTime.isoText record.created
  let message ← record.message
  pure (Json.present (record.lineTable service version stamp time message))

theorem exists_of_jsonFields {record : Record} {service version : Json} {stamp : TravelStamp}
    {fields : List (String × Json)} (built : record.jsonFields service version stamp = .ok fields) :
    ∃ time message, RecordTime.isoText record.created = .ok time ∧ record.message = .ok message ∧
      fields = Json.present (record.lineTable service version stamp time message) := by
  obtain ⟨time, timed, built⟩ := Outcome.bind_eq_ok_iff.mp built
  obtain ⟨message, worded, built⟩ := Outcome.bind_eq_ok_iff.mp built
  exact ⟨time, message, timed, worded, (Except.ok.inj built).symm⟩

variable {Memory : Type} {record : Record} {stamp : TravelStamp} {world : World Memory}

theorem jsonLine_apply (service version : Json)
    (stamped : record.travelStamp world = (.ok stamp, world)) :
    record.jsonLine service version world =
      ((record.jsonFields service version stamp).map fun fields => Json.render (.object fields),
        world) := by
  unfold jsonLine jsonFields
  rw [Run.ofExcept_bind]
  cases RecordTime.isoText record.created with
  | error fault => rfl
  | ok time =>
      simp only [Run.ofExcept_bind]
      cases record.message with
      | error fault => rfl
      | ok message =>
          simp only [Run.bind_of_ok stamped, ← present_lineTable]
          rfl

theorem textLine_apply (stamped : record.travelStamp world = (.ok stamp, world)) :
    record.textLine world =
      ((record.plainLine world.system).map fun line =>
        if stamp.depth.isTruthy then extendFirstLine (travelSuffix stamp) line else line,
        world) := by
  unfold textLine
  rw [Run.world_bind, Run.ofExcept_bind]
  cases record.plainLine world.system with
  | error fault => rfl
  | ok line =>
      simp only [Run.bind_of_ok stamped]
      rfl

end Record

end VirtualClock

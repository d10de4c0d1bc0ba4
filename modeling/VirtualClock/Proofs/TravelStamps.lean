import VirtualClock.Proofs.DigitOrder
import VirtualClock.Proofs.LineFields
import VirtualClock.Proofs.PrintedViews
import VirtualClock.Proofs.Readings

/-!
# Stamps of log records

A record is stamped with the state of a traveler when it is emitted, and its
lines are written later, when the traveler may be anywhere.  A stamped record
does not look at the world again: whether it shows a travel, and which one, is
settled by the stack on which the stamp was taken.

In a text line the travel stands at the end of the first line and can be taken
away from there.
-/

namespace VirtualClock

variable {Memory : Type}

/-! ## Stamps -/

theorem Json.isTruthy_whole (depth : Nat) :
    (Json.whole depth).isTruthy = !decide (depth = 0) := by
  cases depth with
  | zero => rfl
  | succ higher => exact bne_iff_ne.mpr (Int.natCast_ne_zero.mpr (Nat.succ_ne_zero higher))

namespace TravelStamp

/-- What a stamp shows of a stack. -/
def ofEntries (entries : List Override) : TravelStamp :=
  match entries.getLast? with
  | .none => .none
  | some top => ⟨.whole entries.length, .text top.anchor.isoText⟩

theorem ofTraveler_apply (traveler : Traveler) (world : World Memory) :
    ofTraveler traveler world = (.ok (ofEntries (world.entries traveler.stack)), world) := by
  have asked : traveler.currentOverride world =
      (.ok (world.entries traveler.stack).getLast?, world) := rfl
  unfold ofTraveler ofEntries
  cases top : (world.entries traveler.stack).getLast? with
  | none =>
      rw [top] at asked
      rw [Run.bind_of_ok asked]
      rfl
  | some override =>
      rw [top] at asked
      rw [Run.bind_of_ok asked]
      exact Run.bind_of_ok (Stack.depth_apply traveler.stack world)

theorem ofEntries_depth (entries : List Override) :
    (ofEntries entries).depth = .whole entries.length := by
  unfold ofEntries
  cases top : entries.getLast? with
  | none =>
      rw [List.getLast?_eq_none_iff.mp top]
      rfl
  | some override => rfl

theorem isTruthy_depth_ofEntries (entries : List Override) :
    (ofEntries entries).depth.isTruthy = !decide (entries.length = 0) := by
  rw [ofEntries_depth, Json.isTruthy_whole]

theorem virtualTime_ofEntries_eq_null_iff {entries : List Override} :
    (ofEntries entries).virtualTime = .null ↔ entries.length = 0 := by
  unfold ofEntries
  cases top : entries.getLast? with
  | none => exact iff_of_true rfl (List.length_eq_zero_iff.mpr (List.getLast?_eq_none_iff.mp top))
  | some override =>
      refine iff_of_false nofun fun empty => ?_
      rw [List.length_eq_zero_iff.mp empty] at top
      cases top

end TravelStamp

/-- With an override open, the stamp has the instant of the traveler. -/
theorem Traveler.ofEntries_of_instant {traveler : Traveler} {world : World Memory}
    (occupied : world.entries traveler.stack ≠ []) :
    ∃ anchor, (traveler.instant world).1 = .ok anchor ∧
      TravelStamp.ofEntries (world.entries traveler.stack) =
        ⟨.whole (world.entries traveler.stack).length, .text anchor.isoText⟩ := by
  have asked := Stack.peek_apply traveler.stack world
  unfold TravelStamp.ofEntries
  cases top : (world.entries traveler.stack).getLast? with
  | none => exact absurd (List.getLast?_eq_none_iff.mp top) occupied
  | some override =>
      rw [top] at asked
      refine ⟨override.anchor, ?_, rfl⟩
      unfold instant
      rw [Run.bind_of_ok asked]
      rfl

namespace Record

def withStamp (record : Record) (stamp : TravelStamp) : Record :=
  { record with depth := some stamp.depth, virtualTime := some stamp.virtualTime }

theorem stamp_apply (record : Record) (traveler : Traveler) (world : World Memory) :
    record.stamp traveler world =
      (.ok (record.withStamp (.ofEntries (world.entries traveler.stack))), world) := by
  unfold stamp
  rw [Run.bind_of_ok (TravelStamp.ofTraveler_apply traveler world)]
  rfl

/-- A stamped record keeps its stamp in every world, one of depth zero too. -/
theorem travelStamp_withStamp (record : Record) (entries : List Override) (world : World Memory) :
    (record.withStamp (.ofEntries entries)).travelStamp world =
      (.ok (.ofEntries entries), world) := by
  have stamped : (TravelStamp.ofEntries entries).depth.isNull = false := by
    rw [TravelStamp.ofEntries_depth]
    rfl
  unfold travelStamp withStamp
  simp only [stamped]
  rfl

/-- A record without a stamp shows the travel of the ambient traveler. -/
theorem travelStamp_of_unstamped {record : Record} (unstamped : record.depth = none)
    (world : World Memory) :
    record.travelStamp world =
      (.ok (.ofEntries (world.entries (world.context.ambient.getD .standard).stack)), world) := by
  unfold travelStamp
  rw [unstamped]
  exact TravelStamp.ofTraveler_apply (world.context.ambient.getD .standard) world

/-! ## Lines of a stamped record -/

/-- The fields that show a travel are both there, or neither is. -/
theorem lookup_travel {record : Record} {service version : Json} {entries : List Override}
    {fields : List (String × Json)}
    (built : record.jsonFields service version (.ofEntries entries) = .ok fields) :
    Json.lookup fields "virtual_time" =
        (if entries.length = 0 then none else some (TravelStamp.ofEntries entries).virtualTime) ∧
      Json.lookup fields "travel_depth" =
        (if entries.length = 0 then none else some (.whole entries.length)) := by
  obtain ⟨time, message, _, _, rfl⟩ := exists_of_jsonFields built
  have looked := Json.lookup_present
    (record.names_lineTable_nodup service version (.ofEntries entries) time message)
  have truth := TravelStamp.isTruthy_depth_ofEntries entries
  rw [looked, looked]
  constructor
  · show (if (TravelStamp.ofEntries entries).depth.isTruthy then
      some (TravelStamp.ofEntries entries).virtualTime else none) = _
    rw [truth]
    by_cases real : entries.length = 0 <;> simp [real]
  · show (if (TravelStamp.ofEntries entries).depth.isTruthy then
      some (TravelStamp.ofEntries entries).depth else none) = _
    rw [truth, TravelStamp.ofEntries_depth]
    by_cases real : entries.length = 0 <;> simp [real]

/-- A text line differs from that of a record without any travel in its first line alone. -/
theorem textLine_withStamp (record : Record) (entries : List Override) (world : World Memory) :
    ((record.withStamp (.ofEntries entries)).textLine world).1 =
      ((record.withStamp .none).textLine world).1.map fun plain =>
        if entries.length = 0 then plain
        else extendFirstLine (travelSuffix (.ofEntries entries)) plain := by
  have untravelled := textLine_apply (record.travelStamp_withStamp [] world)
  have travelled := textLine_apply (record.travelStamp_withStamp entries world)
  have plainly : ∀ stamp, (record.withStamp stamp).plainLine world.system =
      record.plainLine world.system := fun _ => rfl
  change (record.withStamp .none).textLine world = _ at untravelled
  rw [plainly, TravelStamp.isTruthy_depth_ofEntries] at untravelled travelled
  rw [untravelled, travelled]
  cases record.plainLine world.system with
  | error fault => rfl
  | ok plain => by_cases real : entries.length = 0 <;> simp [real, Except.map]

/-! ## The end of the first line -/

/-- What a text has below its first line, the end of that line included. -/
def belowFirstLine (text : String) : List Char := text.toList.dropWhile (· != '\n')

/-- Takes a text away from the end of the first line, when it stands there. -/
def cutFirstLine (ending text : String) : Option String :=
  let head := text.toList.takeWhile (· != '\n')
  if ending.toList <:+ head then
    some (String.ofList
      (head.take (head.length - ending.toList.length) ++ belowFirstLine text))
  else none

/-- A first line and what begins with its end. -/
structure SplitsFirstLine (head rest characters : List Char) : Prop where
  whole : characters = head ++ rest
  unbroken : ∀ character ∈ head, (character != '\n') = true
  broken : ∀ character ∈ rest.head?, character = '\n'

theorem splitsFirstLine (characters : List Char) :
    SplitsFirstLine (characters.takeWhile (· != '\n')) (characters.dropWhile (· != '\n'))
      characters where
  whole := List.takeWhile_append_dropWhile.symm
  unbroken := List.all_eq_true.mp List.all_takeWhile
  broken := by
    induction characters with
    | nil => simp
    | cons first others inductionHypothesis =>
        rw [List.dropWhile_cons]
        by_cases ends : first = '\n'
        · simp [ends]
        · simpa [ends] using inductionHypothesis

namespace SplitsFirstLine

variable {head rest characters : List Char}

theorem takeWhile_eq (splits : SplitsFirstLine head rest characters) :
    characters.takeWhile (· != '\n') = head := by
  rw [splits.whole, List.takeWhile_append_of_pos splits.unbroken]
  cases rest with
  | nil => simp
  | cons first others =>
      rw [splits.broken first rfl]
      simp

theorem dropWhile_eq (splits : SplitsFirstLine head rest characters) :
    characters.dropWhile (· != '\n') = rest := by
  rw [splits.whole, List.dropWhile_append_of_pos splits.unbroken]
  cases rest with
  | nil => rfl
  | cons first others =>
      rw [splits.broken first rfl]
      simp

end SplitsFirstLine

variable {addition : String}

/-- A longer first line is still one line. -/
theorem splitsFirstLine_extended (oneLine : '\n' ∉ addition.toList) (text : String) :
    SplitsFirstLine (text.toList.takeWhile (· != '\n') ++ addition.toList) (belowFirstLine text)
      (extendFirstLine addition text).toList where
  whole := by
    have behind : ∀ head rest, text.toList = head ++ rest → text.toList.drop head.length = rest := by
      intro head rest whole
      rw [whole, List.drop_left]
    simp only [extendFirstLine, String.toList_ofList, behind _ _ (splitsFirstLine text.toList).whole]
    rfl
  unbroken := by
    intro character member
    rcases List.mem_append.mp member with before | added
    · exact (splitsFirstLine text.toList).unbroken character before
    · rw [bne_iff_ne]
      rintro rfl
      exact oneLine added
  broken := (splitsFirstLine text.toList).broken

theorem belowFirstLine_extendFirstLine (oneLine : '\n' ∉ addition.toList) (text : String) :
    belowFirstLine (extendFirstLine addition text) = belowFirstLine text :=
  (splitsFirstLine_extended oneLine text).dropWhile_eq

theorem cutFirstLine_extendFirstLine (oneLine : '\n' ∉ addition.toList) (text : String) :
    cutFirstLine addition (extendFirstLine addition text) = some text := by
  unfold cutFirstLine
  simp only [(splitsFirstLine_extended oneLine text).takeWhile_eq,
    belowFirstLine_extendFirstLine oneLine]
  rw [if_pos (List.suffix_append _ _), List.length_append, Nat.add_sub_cancel, List.take_left]
  exact congrArg some ((congrArg String.ofList (splitsFirstLine text.toList).whole.symm).trans
    (String.ofList_toList))

/-! ## Records that are stamped when they are emitted -/

/-- Stamps a record by the given traveler, or by the ambient one when none is given. -/
def filtered (record : Record) (given : Option Traveler) : Run Memory Record := do
  let traveler ←
    match given with
    | some traveler => pure traveler
    | none => Ambient.traveler
  record.stamp traveler

theorem filtered_apply (record : Record) (given : Option Traveler) (world : World Memory) :
    record.filtered given world =
      record.stamp (given.getD (world.context.ambient.getD .standard)) world := by
  cases given with
  | some traveler => rfl
  | none => rfl

/-- The suffix of a stamp with an anchor, which stands on one line. -/
theorem travelSuffix_of_anchor (anchor : Moment) (depth : Nat) :
    travelSuffix ⟨.whole depth, .text anchor.isoText⟩ =
        " [virtual " ++ anchor.isoText ++ ", depth " ++ toString depth ++ "]" ∧
      '\n' ∉ (travelSuffix ⟨.whole depth, .text anchor.isoText⟩).toList := by
  have written : travelSuffix ⟨.whole depth, .text anchor.isoText⟩ =
      " [virtual " ++ anchor.isoText ++ ", depth " ++ toString depth ++ "]" := rfl
  refine ⟨written, ?_⟩
  rw [written]
  simp only [String.toList_append, Text.toString_toList, List.mem_append, not_or]
  exact ⟨⟨⟨⟨by decide, anchor.standsOnLine.1⟩, by decide⟩, lineEnd_not_mem_fixedDigits _ _⟩,
    by decide⟩

/-- Whatever has become of its traveler and of the ambient one by the time that it is written, a
record shows the travel of its emission: the depth and the instant of then while an override was
open, and nothing of a travel when none was.  In a text line the travel ends the first line, and
with it taken away from there the line is that of a record without any travel. -/
theorem line_shows_travel_of_emission (record : Record) (given : Option Traveler)
    (emission : World Memory) :
    let traveler := given.getD (emission.context.ambient.getD .standard)
    let depth := (emission.entries traveler.stack).length
    ∃ shown : TravelStamp,
      record.filtered given emission = (.ok (record.withStamp shown), emission) ∧
      shown.depth = .whole depth ∧
      (shown.virtualTime = .null ↔ depth = 0) ∧
      (0 < depth → ∃ anchor, (traveler.instant emission).1 = .ok anchor ∧
        shown.virtualTime = .text anchor.isoText ∧
        travelSuffix shown =
          " [virtual " ++ anchor.isoText ++ ", depth " ++ toString depth ++ "]") ∧
      ∀ later : World Memory,
        (∀ service version : Json,
          ((record.withStamp shown).line (.json service version) later).1 =
            (record.jsonFields service version shown).map
              (fun fields => Json.render (.object fields)) ∧
          ∀ fields, record.jsonFields service version shown = .ok fields →
            Json.lookup fields "virtual_time" =
              (if depth = 0 then none else some shown.virtualTime) ∧
            Json.lookup fields "travel_depth" =
              (if depth = 0 then none else some (.whole depth))) ∧
        ((record.withStamp shown).line .text later).1 =
          ((record.withStamp .none).line .text later).1.map (fun plain =>
            if depth = 0 then plain else extendFirstLine (travelSuffix shown) plain) ∧
        (0 < depth → ∀ plain,
          cutFirstLine (travelSuffix shown) (extendFirstLine (travelSuffix shown) plain) =
            some plain ∧
          belowFirstLine (extendFirstLine (travelSuffix shown) plain) = belowFirstLine plain) := by
  intro traveler depth
  have occupied : 0 < depth → ∃ anchor, (traveler.instant emission).1 = .ok anchor ∧
      TravelStamp.ofEntries (emission.entries traveler.stack) =
        ⟨.whole depth, .text anchor.isoText⟩ :=
    fun deep => Traveler.ofEntries_of_instant (List.ne_nil_of_length_pos deep)
  refine ⟨.ofEntries (emission.entries traveler.stack), ?_, TravelStamp.ofEntries_depth _,
    TravelStamp.virtualTime_ofEntries_eq_null_iff, fun deep => ?_, fun later =>
    ⟨fun service version => ⟨?_, fun fields built => lookup_travel built⟩,
      record.textLine_withStamp _ later, fun deep plain => ?_⟩⟩
  · rw [filtered_apply]
    exact record.stamp_apply traveler emission
  · obtain ⟨anchor, read, shown⟩ := occupied deep
    rw [shown]
    exact ⟨anchor, read, rfl, (travelSuffix_of_anchor anchor depth).1⟩
  · exact congrArg Prod.fst
      (jsonLine_apply service version (record.travelStamp_withStamp _ later))
  · obtain ⟨anchor, _, shown⟩ := occupied deep
    have oneLine := (travelSuffix_of_anchor anchor depth).2
    rw [shown]
    exact ⟨cutFirstLine_extendFirstLine oneLine plain, belowFirstLine_extendFirstLine oneLine plain⟩

/-- A record of the first second of 1970 whose message has two lines. -/
def twoLines : Record :=
  ⟨"app", 20, "INFO", "first\nsecond", [], .finite false 0 0, .whole 0, none, none, none, none⟩

/-- A world in which a traveler has an override open. -/
def travellingWorld : World Unit :=
  { World.start .utc [] () with context := (Context.empty 0).pushed hourEast.stack lastHalfHour }

/-- The record is stamped by a traveler that travels, and written where nobody does. -/
theorem two_lines_show_travel_of_emission :
    ∃ shown, twoLines.filtered (some hourEast) travellingWorld =
        (.ok (twoLines.withStamp shown), travellingWorld) ∧
      ((twoLines.withStamp shown).line .text (World.start .utc [] () : World Unit)).1 =
        .ok ("1970-01-01 00:00:00,000 [INFO] app: first" ++
          " [virtual 9999-12-31T23:30:00+00:00, depth 1]" ++ "\nsecond") := by
  obtain ⟨shown, stamped, _, _, travels, lines⟩ :=
    line_shows_travel_of_emission twoLines (some hourEast) travellingWorld
  obtain ⟨anchor, read, _, suffix⟩ := travels (by decide)
  have pinned : lastHalfHour = anchor := Except.ok.inj read
  have untravelled : ((twoLines.withStamp .none).line .text
      (World.start .utc [] () : World Unit)).1 =
        .ok "1970-01-01 00:00:00,000 [INFO] app: first\nsecond" := by
    decide +kernel
  refine ⟨shown, stamped, ?_⟩
  rw [(lines _).2.1, untravelled, suffix, ← pinned]
  decide +kernel

end Record

end VirtualClock

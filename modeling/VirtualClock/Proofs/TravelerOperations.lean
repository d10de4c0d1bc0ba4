import VirtualClock.Proofs.Anchors
import VirtualClock.Proofs.StackOperations
import VirtualClock.Session.Action

/-!
# What the operations of a traveler do

Each operation of a traveler on its overrides has one equation, and the journal
is the only thing that it changes beside the stack.  The readings of a traveler
leave the world as it is.

A travel first works out its anchor, which only reads the world, and then pins
it; `Traveler.destination` names the first half.
-/

namespace VirtualClock

variable {Memory Result : Type}

namespace World

@[simp]
theorem entries_record (world : World Memory) (stack other : StackKey) (event : TravelEvent) :
    (world.record stack event).entries other = world.entries other :=
  rfl

@[simp]
theorem entries_withContext (world : World Memory) (context : Context) (stack : StackKey) :
    (world.withContext context).entries stack = context.entries stack :=
  rfl

end World

/-- An override whose index is a place of the stack is looked for there and nowhere else. -/
theorem Override.isInstalled_of_nonneg {override : Override} (entries : List Override)
    (nonneg : 0 ≤ override.depth) :
    override.isInstalled entries =
      .ok ((entries[override.depth.toNat]?).any fun entry =>
        entry.identity == override.identity) := by
  unfold isInstalled
  rw [if_neg (Int.not_lt.mpr nonneg)]
  by_cases beyond : (entries.length : Int) ≤ override.depth
  · have outside : entries.length ≤ override.depth.toNat := by
      omega
    rw [if_pos beyond, List.getElem?_eq_none outside]
    rfl
  · rw [if_neg beyond, if_neg (Int.not_lt.mpr nonneg)]
    rfl

namespace Traveler

/-! ## Installing and removing -/

theorem install_apply (traveler : Traveler) (anchor : Moment) (world : World Memory) :
    traveler.install anchor world =
      match anchor.asAnchor world.system with
      | .ok pinned =>
        (.ok (world.context.minted pinned (world.entries traveler.stack).length),
          (world.withContext (world.context.pushed traveler.stack pinned)).record traveler.stack
            (.installed pinned ((world.entries traveler.stack).length + 1)))
      | .error fault => (.error fault, world) := by
  have pushed := Stack.push_apply traveler.stack anchor world
  unfold install
  cases converted : anchor.asAnchor world.system with
  | error fault =>
      rw [converted] at pushed
      rw [Run.bind_of_error pushed]
  | ok pinned =>
      rw [converted] at pushed
      rw [Run.bind_of_ok pushed]
      rfl

/-- An anchor in universal time is always installed. -/
theorem install_of_utc (traveler : Traveler) {anchor : Moment} (world : World Memory)
    (utc : anchor.zone = some .utc) :
    traveler.install anchor world =
      (.ok (world.context.minted anchor (world.entries traveler.stack).length),
        (world.withContext (world.context.pushed traveler.stack anchor)).record traveler.stack
          (.installed anchor ((world.entries traveler.stack).length + 1))) := by
  rw [install_apply, Moment.asAnchor_of_utc anchor _ utc]

theorem revert_apply (traveler : Traveler) (world : World Memory) :
    traveler.revert world =
      match (world.entries traveler.stack).getLast? with
      | none => (.ok none, world.record traveler.stack .nothingToRevert)
      | some top =>
        (.ok (some top),
          (world.withContext (world.context.cut traveler.stack
            ((world.entries traveler.stack).length - 1))).record traveler.stack
              (.reverted top.anchor ((world.entries traveler.stack).length - 1))) := by
  have popped := Stack.pop_apply traveler.stack world
  unfold revert
  cases top : (world.entries traveler.stack).getLast? with
  | none =>
      rw [top] at popped
      rw [Run.bind_of_ok popped]
      rfl
  | some override =>
      rw [top] at popped
      rw [Run.bind_of_ok popped]
      have deeper := Stack.depth_apply traveler.stack
        (world.withContext (world.context.cut traveler.stack
          ((world.entries traveler.stack).length - 1)))
      rw [World.entries_withContext, Context.entries_cut_self, List.length_take,
        ← World.entries_eq, Nat.min_eq_left (Nat.sub_le _ 1)] at deeper
      exact Run.bind_of_ok deeper

theorem reset_apply (traveler : Traveler) (world : World Memory) :
    traveler.reset world =
      if world.entries traveler.stack = [] then (.ok 0, world)
      else
        (.ok (world.entries traveler.stack).length,
          (world.withContext (world.context.cut traveler.stack 0)).record traveler.stack
            (.cleared (world.entries traveler.stack).length)) := by
  have truncated := Stack.truncate_apply traveler.stack 0 world
  unfold reset
  by_cases empty : world.entries traveler.stack = []
  · rw [if_pos (by simp [empty])] at truncated
    rw [if_pos empty, Run.bind_of_ok truncated]
    rfl
  · have longer : ¬(world.entries traveler.stack).length ≤ (0 : Int).toNat := by
      simpa using empty
    have some : (world.entries traveler.stack).length ≠ 0 := by
      simpa using empty
    rw [if_neg longer] at truncated
    rw [if_neg empty, Run.bind_of_ok truncated]
    simp only [Int.toNat_zero, Nat.sub_zero, if_neg some]
    rfl

/-- A release cuts the stack below the override when it is installed. -/
theorem release_apply (traveler : Traveler) (override : Override) (world : World Memory) :
    traveler.release override world =
      match override.isInstalled (world.entries traveler.stack) with
      | .error fault => (.error fault, world)
      | .ok false => (.ok (), world)
      | .ok true =>
        if (world.entries traveler.stack).length ≤ override.depth.toNat then
          (.ok (), world.record traveler.stack (.closed override.anchor 0))
        else
          (.ok (), (world.withContext (world.context.cut traveler.stack override.depth.toNat)).record
            traveler.stack (.closed override.anchor
              ((world.entries traveler.stack).length - override.depth.toNat))) := by
  have asked := Stack.contains_apply traveler.stack override world
  have truncated := Stack.truncate_apply traveler.stack override.depth world
  unfold release
  cases installed : override.isInstalled (world.entries traveler.stack) with
  | error fault =>
      rw [installed] at asked
      rw [Run.bind_of_error asked]
  | ok found =>
      rw [installed] at asked
      rw [Run.bind_of_ok asked]
      cases found with
      | false => rfl
      | true =>
          by_cases small : (world.entries traveler.stack).length ≤ override.depth.toNat
          · rw [if_pos small] at truncated
            simp only [if_pos small]
            exact Run.bind_of_ok truncated
          · rw [if_neg small] at truncated
            simp only [if_neg small]
            exact Run.bind_of_ok truncated

/-- A release of an override with a place on the stack meets no fault. -/
theorem exists_release (traveler : Traveler) {override : Override} (world : World Memory)
    (nonneg : 0 ≤ override.depth) :
    ∃ after, traveler.release override world = (.ok (), after) := by
  rw [release_apply, Override.isInstalled_of_nonneg _ nonneg]
  cases (world.entries traveler.stack)[override.depth.toNat]?.any fun entry =>
      entry.identity == override.identity with
  | false => exact ⟨_, rfl⟩
  | true =>
      by_cases small : (world.entries traveler.stack).length ≤ override.depth.toNat
      · exact ⟨_, if_pos small⟩
      · exact ⟨_, if_neg small⟩

/-! ## Reading -/

theorem realNow_onlyReads (traveler : Traveler) :
    Run.OnlyReads (traveler.realNow : Run Memory Moment) := by
  refine Run.onlyReads_world.bind fun world => ?_
  by_cases aware : (world.reading traveler.clock).isAware
  · simp only [if_pos aware]
    exact Run.onlyReads_ofExcept _
  · simp only [if_neg aware]
    exact Run.onlyReads_ofExcept _

theorem zone_of_realNow {traveler : Traveler} {world : World Memory} {now : Moment}
    (read : (traveler.realNow world).1 = .ok now) : now.zone = some .utc := by
  unfold realNow at read
  rw [Run.world_bind] at read
  by_cases aware : (world.reading traveler.clock).isAware
  · rw [if_pos aware, Run.ofExcept_apply] at read
    exact Moment.zone_of_inUtc read
  · rw [if_neg aware] at read
    cases read

theorem realNow_of_aware {traveler : Traveler} {world : World Memory}
    (aware : (world.reading traveler.clock).isAware) :
    (traveler.realNow world).1 = (world.reading traveler.clock).inUtc world.system := by
  unfold realNow
  rw [Run.world_bind, if_pos aware]
  rfl

theorem instant_onlyReads (traveler : Traveler) :
    Run.OnlyReads (traveler.instant : Run Memory Moment) := by
  refine Run.OnlyReads.bind (fun world => rfl) fun top => ?_
  cases top with
  | none => exact traveler.realNow_onlyReads
  | some override => exact Run.onlyReads_pure override.anchor

theorem anchorAfter_onlyReads (traveler : Traveler) (offset : Value) :
    Run.OnlyReads (traveler.anchorAfter offset : Run Memory Moment) :=
  (Run.onlyReads_ofExcept _).bind fun _ =>
    traveler.realNow_onlyReads.bind fun _ => Run.onlyReads_ofExcept _

theorem anchorAt_onlyReads (traveler : Traveler) (target : Value) :
    Run.OnlyReads (traveler.anchorAt target : Run Memory Moment) :=
  Run.onlyReads_world.bind fun _ =>
    (Run.onlyReads_ofExcept _).bind fun _ => Run.onlyReads_pure _

/-! ## Destinations -/

/-- The anchor that a departure leads to. -/
def destination (traveler : Traveler) : Session.Departure → Run Memory Moment
  | .by offset => traveler.anchorAfter offset
  | .to target => traveler.anchorAt target
  | .stop => do
    let now ← traveler.realNow
    traveler.anchorAt (.moment now)

theorem destination_onlyReads (traveler : Traveler) (departure : Session.Departure) :
    Run.OnlyReads (traveler.destination departure : Run Memory Moment) := by
  cases departure with
  | «by» offset => exact traveler.anchorAfter_onlyReads offset
  | «to» target => exact traveler.anchorAt_onlyReads target
  | stop => exact traveler.realNow_onlyReads.bind fun now => traveler.anchorAt_onlyReads (.moment now)

/-- Every travel works out its anchor first and then enters it. -/
theorem depart_eq (traveler : Traveler) (departure : Session.Departure)
    (body : TravelBody Memory Result) :
    Session.depart traveler departure body =
      traveler.destination departure >>= fun anchor => traveler.enter anchor body := by
  cases departure with
  | «by» offset => rfl
  | «to» target => rfl
  | stop => simp only [Session.depart, freeze, travelTo, destination, bind_assoc]

/-- A target as a moment with an offset: one without is put into the zone of the traveler,
or read in the local zone. -/
def placedTarget (traveler : Traveler) (system : ZoneRule) (target : Value) :
    Except Fault Moment := do
  let moment ← targetMoment target
  if moment.isAware then pure moment
  else
    match traveler.zone with
    | some zone => pure { moment with zone := some zone }
    | none => moment.inLocalZone system

theorem placedTarget_of_isAware (traveler : Traveler) (system : ZoneRule) {target : Moment}
    (aware : target.isAware) : traveler.placedTarget system (.moment target) = .ok target := by
  show (if target.isAware then (pure target : Except Fault Moment) else _) = .ok target
  rw [if_pos aware]
  rfl

theorem placedTarget_of_zone {traveler : Traveler} (system : ZoneRule) {target : Moment}
    {zone : Zone} (naive : ¬target.isAware) (zoned : traveler.zone = some zone) :
    traveler.placedTarget system (.moment target) = .ok { target with zone := some zone } := by
  show (if target.isAware then (pure target : Except Fault Moment) else _) = _
  rw [if_neg naive, zoned]
  rfl

theorem placedTarget_of_local {traveler : Traveler} (system : ZoneRule) {target : Moment}
    (naive : ¬target.isAware) (isLocal : traveler.zone = none) :
    traveler.placedTarget system (.moment target) = target.inLocalZone system := by
  show (if target.isAware then (pure target : Except Fault Moment) else _) = _
  rw [if_neg naive, isLocal]

theorem targetInstant_eq (traveler : Traveler) (system : ZoneRule) (target : Value) :
    traveler.targetInstant system target =
      traveler.placedTarget system target >>= fun moment => moment.inUtc system := by
  unfold targetInstant placedTarget
  rw [bind_assoc]
  refine bind_congr fun moment => ?_
  by_cases aware : moment.isAware
  · rw [if_pos aware, if_pos aware, pure_bind]
  · rw [if_neg aware, if_neg aware]
    cases traveler.zone <;> rfl

theorem zone_of_targetInstant {traveler : Traveler} {system : ZoneRule} {target : Value}
    {instant : Moment} (found : traveler.targetInstant system target = .ok instant) :
    instant.zone = some .utc := by
  rw [targetInstant_eq] at found
  obtain ⟨moment, _, converted⟩ := Outcome.bind_eq_ok_iff.mp found
  exact Moment.zone_of_inUtc converted

theorem anchorAfter_apply (traveler : Traveler) (offset : Value) (world : World Memory) :
    (traveler.anchorAfter offset world).1 =
      offset.toOffset >>= fun span =>
        (traveler.realNow world).1 >>= fun now => now.shift span := by
  unfold anchorAfter
  rw [Run.ofExcept_bind]
  cases offset.toOffset with
  | error fault => rfl
  | ok span =>
      rcases read : traveler.realNow world with ⟨fault | now, after⟩
      · exact congrArg Prod.fst (Run.bind_of_error read)
      · exact congrArg Prod.fst (Run.bind_of_ok read)

theorem anchorAt_apply (traveler : Traveler) (target : Value) (world : World Memory) :
    (traveler.anchorAt target world).1 =
      (traveler.targetInstant world.system target).map Moment.wholeSecond := by
  unfold anchorAt
  rw [Run.world_bind, Run.ofExcept_bind]
  cases traveler.targetInstant world.system target <;> rfl

/-- A moment in universal time is its own target. -/
theorem targetInstant_of_utc (traveler : Traveler) (system : ZoneRule) {moment : Moment}
    (utc : moment.zone = some .utc) :
    traveler.targetInstant system (.moment moment) = .ok moment := by
  rw [targetInstant_eq, traveler.placedTarget_of_isAware system (Moment.isAware_of_utc utc)]
  exact Moment.inUtc_of_utc moment system utc

/-- To stop is to travel to the whole second of the real time. -/
theorem destination_stop_apply (traveler : Traveler) (world : World Memory) :
    (traveler.destination .stop world).1 =
      (traveler.realNow world).1.map Moment.wholeSecond := by
  show ((traveler.realNow >>= fun now => traveler.anchorAt (.moment now)) world).1 = _
  rcases read : traveler.realNow world with ⟨fault | now, after⟩
  · rw [Run.bind_of_error read]
    rfl
  · have utc : now.zone = some .utc := zone_of_realNow (congrArg Prod.fst read)
    rw [Run.bind_of_ok read, anchorAt_apply, targetInstant_of_utc traveler _ utc]

/-- Every destination is in universal time. -/
theorem zone_of_destination {traveler : Traveler} {departure : Session.Departure}
    {world : World Memory} {anchor : Moment}
    (led : (traveler.destination departure world).1 = .ok anchor) :
    anchor.zone = some .utc := by
  cases departure with
  | «by» offset =>
      rw [destination, anchorAfter_apply] at led
      obtain ⟨span, _, led⟩ := Outcome.bind_eq_ok_iff.mp led
      obtain ⟨now, read, shifted⟩ := Outcome.bind_eq_ok_iff.mp led
      obtain ⟨wall, _, rfl⟩ := Outcome.map_eq_ok_iff.mp shifted
      exact (zone_of_realNow read : now.zone = some .utc)
  | «to» target =>
      rw [destination, anchorAt_apply] at led
      obtain ⟨instant, found, rfl⟩ := Outcome.map_eq_ok_iff.mp led
      exact (zone_of_targetInstant found : instant.zone = some .utc)
  | stop =>
      rw [destination_stop_apply] at led
      obtain ⟨now, read, rfl⟩ := Outcome.map_eq_ok_iff.mp led
      exact (zone_of_realNow read : now.zone = some .utc)

end Traveler

theorem TravelScope.anchor_onlyReads (scope : TravelScope) :
    Run.OnlyReads (scope.anchor : Run Memory Moment) :=
  Run.onlyReads_world.bind fun _ => Run.onlyReads_ofExcept _

/-! ## The clock under a traveler -/

namespace Clock

/-- Setting a clock changes nothing but the readings of the clocks, also when it fails. -/
theorem exists_set (clock : ClockKey) (reading : Value) (world : World Memory) :
    ∃ clocks, (set clock reading world).2 = { world with clocks } := by
  cases reading with
  | moment moment =>
      unfold set
      by_cases floating : moment.zone.isNone
      · simp only [if_pos floating]
        exact ⟨world.clocks, rfl⟩
      · simp only [if_neg floating]
        exact ⟨_, rfl⟩
  | _ => exact ⟨world.clocks, rfl⟩

/-- Moving a clock changes nothing but the readings of the clocks, also when it fails. -/
theorem exists_advance (clock : ClockKey) (amount : Value) (world : World Memory) :
    ∃ clocks, (advance clock amount world).2 = { world with clocks } := by
  unfold advance
  rw [Run.ofExcept_bind]
  cases amount.toSpan with
  | error fault => exact ⟨world.clocks, rfl⟩
  | ok span =>
      simp only [Run.world_bind, Run.ofExcept_bind]
      cases (world.reading clock).shift span with
      | error fault => exact ⟨world.clocks, rfl⟩
      | ok moved => exact ⟨_, rfl⟩

end Clock

end VirtualClock

import VirtualClock.Proofs.Projection
import VirtualClock.Proofs.TravelerOperations

/-!
# Opening a travel region

A travel with a body, and a block entered within an explicit travel, open their
region in the same three steps: the anchor is worked out, it is pinned, and it
is shown in the zone of the traveler.  Only then does the body begin, and only
then is there anything that closes the region again.

A region that fails to open leaves the world as it was, with one exception: an
anchor that the zone of the traveler cannot show is pinned already and stays.
-/

namespace VirtualClock

open Session (Departure depart)

variable {Memory Result Answer : Type}

namespace Traveler

/-- Opens a region: pins the anchor of a departure and shows it. -/
def opening (traveler : Traveler) (departure : Departure) :
    Run Memory (TravelScope × Moment) := do
  let anchor ← traveler.destination departure
  let override ← traveler.install anchor
  let shown ← TravelScope.anchor ⟨traveler, override⟩
  pure (⟨traveler, override⟩, shown)

/-- Enters an explicit travel for the length of a block. -/
def around (traveler : Traveler) (departure : Departure) (block : Moment → Run Memory Result) :
    Run Memory Result := do
  match ← depart traveler departure (.absent : TravelBody Memory Result) with
  | .opened scope => scope.within block
  | .finished result => pure result

/-- A travel with a body runs it in an open region and closes the region after it. -/
theorem depart_run_eq (traveler : Traveler) (departure : Departure)
    (action : Run Memory Result) :
    depart traveler departure (.run action) =
      traveler.opening departure >>= fun opened =>
        Run.ensuring action opened.1.close >>= fun result => pure (.finished result) := by
  simp only [depart_eq, enter, visit, TravelScope.within, opening, bind_assoc, pure_bind]

/-- So does a block within an explicit travel, which is told the shown anchor. -/
theorem around_eq (traveler : Traveler) (departure : Departure)
    (block : Moment → Run Memory Result) :
    traveler.around departure block =
      traveler.opening departure >>= fun opened =>
        Run.ensuring (block opened.2) opened.1.close := by
  simp only [around, depart_eq, enter, TravelScope.within, opening, bind_assoc, pure_bind]

/-! ## What opening a region does -/

/-- The departure leads to an anchor that the zone of the traveler cannot show. -/
def LeadsOutOfSight (traveler : Traveler) (departure : Departure) (world : World Memory) : Prop :=
  ∃ anchor, (traveler.destination departure world).1 = .ok anchor ∧
    ¬Zone.Shows world.system traveler.zone anchor.wall

/-- The world once an anchor is pinned for a traveler. -/
def pinned (traveler : Traveler) (anchor : Moment) (world : World Memory) : World Memory :=
  (world.withContext (world.context.pushed traveler.stack anchor)).record traveler.stack
    (.installed anchor ((world.entries traveler.stack).length + 1))

/-- The scope of the override that pins an anchor next. -/
def nextScope (traveler : Traveler) (anchor : Moment) (world : World Memory) : TravelScope :=
  ⟨traveler, world.context.minted anchor (world.entries traveler.stack).length⟩

theorem entries_pinned (traveler : Traveler) (anchor : Moment) (world : World Memory) :
    (traveler.pinned anchor world).entries traveler.stack =
      world.entries traveler.stack ++ [(traveler.nextScope anchor world).override] :=
  Context.entries_pushed_self world.context traveler.stack anchor

theorem destination_apply {traveler : Traveler} {departure : Departure} {world : World Memory}
    {outcome : Except Fault Moment} (led : (traveler.destination departure world).1 = outcome) :
    traveler.destination departure world = (outcome, world) := by
  rw [(traveler.destination_onlyReads departure).apply world, led]

/-- An explicit travel pins its anchor, or changes nothing when it has none. -/
theorem depart_absent_apply (traveler : Traveler) (departure : Departure)
    (world : World Memory) :
    depart traveler departure (.absent : TravelBody Memory Result) world =
      match (traveler.destination departure world).1 with
      | .error fault => (.error fault, world)
      | .ok anchor =>
        (.ok (.opened (traveler.nextScope anchor world)), traveler.pinned anchor world) := by
  rw [depart_eq]
  cases led : (traveler.destination departure world).1 with
  | error fault => exact Run.bind_of_error (destination_apply led)
  | ok anchor =>
      rw [Run.bind_of_ok (destination_apply led)]
      exact Run.bind_of_ok (traveler.install_of_utc world (zone_of_destination led))

/-- Once the anchor is known, opening pins it and then gives what showing it gives. -/
theorem opening_of_destination {traveler : Traveler} {departure : Departure}
    {world : World Memory} {anchor : Moment}
    (led : (traveler.destination departure world).1 = .ok anchor) :
    traveler.opening departure world =
      ((MomentKind.timestamp.ofInstant world.system anchor traveler.zone).map fun shown =>
          (traveler.nextScope anchor world, shown),
        traveler.pinned anchor world) := by
  unfold opening
  rw [Run.bind_of_ok (destination_apply led),
    Run.bind_of_ok (traveler.install_of_utc world (zone_of_destination led))]
  have shown : TravelScope.anchor (traveler.nextScope anchor world)
      (traveler.pinned anchor world) =
        (MomentKind.timestamp.ofInstant world.system anchor traveler.zone,
          traveler.pinned anchor world) :=
    rfl
  cases view : MomentKind.timestamp.ofInstant world.system anchor traveler.zone with
  | error fault =>
      rw [view] at shown
      exact Run.bind_of_error shown
  | ok moment =>
      rw [view] at shown
      exact Run.bind_of_ok shown

/-- A region that opens has pushed the override of its scope. -/
theorem opening_eq_ok {traveler : Traveler} {departure : Departure} {world entered : World Memory}
    {scope : TravelScope} {shown : Moment}
    (opened : traveler.opening departure world = (.ok (scope, shown), entered)) :
    ∃ anchor, (traveler.destination departure world).1 = .ok anchor ∧
      scope = traveler.nextScope anchor world ∧ entered = traveler.pinned anchor world := by
  cases led : (traveler.destination departure world).1 with
  | error fault =>
      rw [opening, Run.bind_of_error (destination_apply led)] at opened
      cases opened
  | ok anchor =>
      rw [opening_of_destination led] at opened
      obtain ⟨moment, _, same⟩ := Outcome.map_eq_ok_iff.mp (congrArg Prod.fst opened)
      exact ⟨anchor, rfl, (Prod.mk.inj same).1.symm, (congrArg Prod.snd opened).symm⟩

/-- A region that cannot open has changed nothing, unless its anchor cannot be shown:
then the anchor is pinned. -/
theorem opening_eq_error {traveler : Traveler} {departure : Departure}
    {world after : World Memory} {fault : Fault}
    (failed : traveler.opening departure world = (.error fault, after)) :
    (¬traveler.LeadsOutOfSight departure world ∧ after = world) ∨
      ∃ anchor, (traveler.destination departure world).1 = .ok anchor ∧
        ¬Zone.Shows world.system traveler.zone anchor.wall ∧
          after = traveler.pinned anchor world := by
  cases led : (traveler.destination departure world).1 with
  | error reason =>
      unfold opening at failed
      rw [Run.bind_of_error (destination_apply led)] at failed
      refine Or.inl ⟨?_, (congrArg Prod.snd failed).symm⟩
      rintro ⟨anchor, found, _⟩
      rw [led] at found
      cases found
  | ok anchor =>
      rw [opening_of_destination led] at failed
      have hidden : ¬Zone.Shows world.system traveler.zone anchor.wall := by
        rw [← MomentKind.timestamp.exists_ofInstant_iff world.system traveler.zone
          (zone_of_destination led)]
        rintro ⟨moment, view⟩
        rw [view] at failed
        cases failed
      exact Or.inr ⟨anchor, rfl, hidden, (congrArg Prod.snd failed).symm⟩

/-! ## Failing before the body begins -/

/-- The call stops with a fault whatever it is given to run: the body has not begun. -/
def FailsUnbegun (call : Run Memory Result → Run Memory Answer) (world : World Memory)
    (fault : Fault) (after : World Memory) : Prop :=
  ∀ body, call body world = (.error fault, after)

/-- A call that opens a region and then runs its body fails before the body exactly when the
region does not open: the body of an open region decides with which fault the call stops. -/
theorem failsUnbegun_iff {traveler : Traveler} {departure : Departure}
    {call : Run Memory Result → Run Memory Answer} {finish : Result → Run Memory Answer}
    (shape : ∀ body, call body =
      traveler.opening departure >>= fun opened =>
        Run.ensuring body opened.1.close >>= finish)
    (world : World Memory) (fault : Fault) (after : World Memory) :
    FailsUnbegun call world fault after ↔
      traveler.opening departure world = (.error fault, after) := by
  rcases opened : traveler.opening departure world with ⟨reason | ⟨scope, shown⟩, entered⟩
  · have stopped : ∀ body, call body world = (.error reason, entered) := by
      intro body
      rw [shape, Run.bind_of_error opened]
    constructor
    · intro unbegun
      have same := (stopped (Run.fail fault)).symm.trans (unbegun (Run.fail fault))
      cases same
      rfl
    · intro same
      cases same
      exact stopped
  · have nonneg : 0 ≤ scope.override.depth := by
      obtain ⟨anchor, _, made, _⟩ := opening_eq_ok opened
      rw [made]
      exact Int.natCast_nonneg _
    have raised : ∀ reason : Fault, (call (Run.fail reason) world).1 = .error reason := by
      intro reason
      obtain ⟨left, closed⟩ := scope.traveler.exists_release entered nonneg
      have ensured : Run.ensuring (Run.fail reason : Run Memory Result) scope.close entered =
          (.error reason, left) :=
        Run.ensuring_of_ok (Run.fail_apply reason entered) closed
      rw [shape, Run.bind_of_ok opened, Run.bind_of_error ensured]
    constructor
    -- two bodies that fail in different ways cannot both give the fault of the call
    · intro unbegun
      have first := raised .dateOutOfRange
      have second := raised .notANumber
      rw [unbegun] at first second
      cases first
      cases second
    · intro same
      cases same

end Traveler

/-! ## The trace of a failure -/

/-- A travel that fails before its body begins keeps the snapshot of its stack, unless its anchor
lies out of sight of the traveler.  Then the anchor stays pinned.  A body that cannot be called
is found out before anything is pinned. -/
theorem failed_opening_keeps_snapshot_iff (traveler : Traveler) (departure : Departure)
    (world : World Memory) :
    (∀ found, ∃ fault,
      depart traveler departure (.notCallable found : TravelBody Memory Result) world =
        (.error fault, world)) ∧
    ∀ (fault : Fault) (after : World Memory),
      (Traveler.FailsUnbegun (fun body : Run Memory Result =>
          depart traveler departure (.run body)) world fault after ∨
        Traveler.FailsUnbegun (fun block : Run Memory Result =>
          traveler.around departure fun _ => block) world fault after) →
      (after.entries traveler.stack = world.entries traveler.stack ↔
        ¬traveler.LeadsOutOfSight departure world) ∧
      (¬traveler.LeadsOutOfSight departure world → after = world) ∧
      (traveler.LeadsOutOfSight departure world →
        ∃ override, after.entries traveler.stack =
          world.entries traveler.stack ++ [override]) := by
  constructor
  · intro found
    rw [Traveler.depart_eq]
    cases led : (traveler.destination departure world).1 with
    | error fault => exact ⟨fault, Run.bind_of_error (Traveler.destination_apply led)⟩
    | ok anchor =>
        exact ⟨.notCallable found, Run.bind_of_ok (Traveler.destination_apply led)⟩
  · intro fault after unbegun
    have failed : traveler.opening departure world = (.error fault, after) := by
      rcases unbegun with called | entered
      · exact (Traveler.failsUnbegun_iff (traveler.depart_run_eq departure) world fault after).mp
          called
      · have shape : ∀ block : Run Memory Result, (traveler.around departure fun _ => block) =
            traveler.opening departure >>= fun opened =>
              Run.ensuring block opened.1.close >>= pure := by
          intro block
          simp only [traveler.around_eq departure, bind_pure]
        exact (Traveler.failsUnbegun_iff shape world fault after).mp entered
    rcases Traveler.opening_eq_error failed with ⟨inSight, rfl⟩ | ⟨anchor, led, hidden, rfl⟩
    · exact ⟨iff_of_true rfl inSight, fun _ => rfl, fun lost => absurd lost inSight⟩
    · have lost : traveler.LeadsOutOfSight departure world := ⟨anchor, led, hidden⟩
      have grown := traveler.entries_pinned anchor world
      refine ⟨iff_of_false ?_ (not_not_intro lost), fun inSight => absurd lost inSight,
        fun _ => ⟨_, grown⟩⟩
      rw [grown]
      simp

/-! ### At the end of the calendar -/

/-- A world in which nothing has happened yet. -/
def World.start (system : ZoneRule) (clocks : List (ClockKey × Moment)) (memory : Memory) :
    World Memory :=
  ⟨system, clocks, Context.empty 0, [], memory⟩

/-- Half an hour before the last midnight of the calendar. -/
def lastHalfHour : Moment := .atUtc ⟨315537895800000000, by decide, by decide⟩

/-- A traveler that shows the time one hour east of universal time. -/
def hourEast : Traveler := ⟨1, 1, some (.fixed 3600000000 none)⟩

theorem lastHalfHour_unbegun :
    Traveler.FailsUnbegun
      (fun body : Run Unit Unit => depart hourEast (.to (.moment lastHalfHour)) (.run body))
      (World.start .utc [] ()) .dateOutOfRange
      (hourEast.pinned lastHalfHour (World.start .utc [] ())) := by
  rw [Traveler.failsUnbegun_iff (hourEast.depart_run_eq (.to (.moment lastHalfHour)))]
  rfl

/-- A travel to the last half hour fails before its body begins and yet stays pinned. -/
theorem failed_opening_at_calendar_end_keeps_override :
    ∃ (fault : Fault) (after : World Unit),
      (∀ body : Run Unit Unit,
        depart hourEast (.to (.moment lastHalfHour)) (.run body) (World.start .utc [] ()) =
          (.error fault, after)) ∧
      after.entries hourEast.stack ≠
        (World.start .utc [] () : World Unit).entries hourEast.stack :=
  ⟨.dateOutOfRange, hourEast.pinned lastHalfHour (World.start .utc [] ()),
    lastHalfHour_unbegun, by decide⟩

theorem failed_opening_at_calendar_end :
    Traveler.FailsUnbegun
      (fun body : Run Unit Unit => depart hourEast (.to (.moment lastHalfHour)) (.run body))
      (World.start .utc [] ()) .dateOutOfRange
      (hourEast.pinned lastHalfHour (World.start .utc [] ())) ∧
    ¬(hourEast.pinned lastHalfHour (World.start .utc [] () : World Unit)).entries
        hourEast.stack =
      (World.start .utc [] () : World Unit).entries hourEast.stack ∧
    hourEast.LeadsOutOfSight (.to (.moment lastHalfHour)) (World.start .utc [] () : World Unit) := by
  have hidden : ¬Zone.Shows .utc hourEast.zone lastHalfHour.wall := by
    rintro ⟨offset, known, _, below⟩
    cases known
    revert below
    decide
  have lost : hourEast.LeadsOutOfSight (.to (.moment lastHalfHour))
      (World.start .utc [] () : World Unit) :=
    ⟨lastHalfHour, rfl, hidden⟩
  have exact := ((failed_opening_keeps_snapshot_iff hourEast (.to (.moment lastHalfHour))
    (World.start .utc [] ())).2 _ _ (Or.inl lastHalfHour_unbegun)).1
  exact ⟨lastHalfHour_unbegun, fun same => exact.mp same lost, lost⟩

end VirtualClock

import VirtualClock.Proofs.Scopes

/-!
# Travelling with a body

The body of a travel may do whatever a program can do in its context: travel
further, with bodies or without, revert, reset, close other scopes, and end with
a result or a fault.  Once the body has begun, the call gives what the body
gives and leaves no trace of its override.
-/

namespace VirtualClock

open Session (Departure depart)

variable {Memory Result : Type}

/-! ## The override of an open region -/

namespace Traveler

/-- Whatever operations follow, the override of the region rests on the stack from before it. -/
theorem restsOn_after_pinned (traveler : Traveler) (anchor : Moment) {world : World Memory}
    (unseen : ¬(traveler.nextScope anchor world).override.Installed
      (world.entries traveler.stack))
    (operations : List (Operation Memory)) :
    (traveler.nextScope anchor world).override.RestsOn (world.entries traveler.stack)
      (((traveler.pinned anchor world).after operations).entries traveler.stack) := by
  have kept := World.after_induction
    (fun context =>
      context.HasPassed (traveler.nextScope anchor world).override.identity ∧
        (traveler.nextScope anchor world).override.RestsOn (world.entries traveler.stack)
          (context.entries traveler.stack))
    (fun before after change held =>
      ⟨change.hasPassed held.1, change.restsOn held.1 unseen held.2⟩)
    (traveler.pinned anchor world) operations
  refine (kept ⟨fun _ => Nat.lt_succ_self _, ?_⟩).2
  rw [← World.entries_eq, entries_pinned]
  exact Override.restsOn_self _ _

end Traveler

/-! ## The way out of a region -/

/-- Once the body has begun, the call gives what the body gives, and its override is gone.  If
the body left the override in place, the stack is the one from before the call; if not, the
call changes nothing after the body. -/
theorem scoped_travel_restores_stack (traveler : Traveler) (departure : Departure)
    {body : Run Memory Result} {world entered : World Memory} {scope : TravelScope}
    {shown : Moment} (reachable : world.Reachable) (program : Run.IsProgram body)
    (opened : traveler.opening departure world = (.ok (scope, shown), entered)) :
    entered.entries traveler.stack = world.entries traveler.stack ++ [scope.override] ∧
    ∃ after,
      depart traveler departure (.run body) world = ((body entered).1.map .finished, after) ∧
      ¬scope.override.Installed (after.entries traveler.stack) ∧
      (scope.override.Installed ((body entered).2.entries traveler.stack) →
        after.entries traveler.stack = world.entries traveler.stack ∧
        ∀ other, other ≠ traveler.stack →
          after.entries other = (body entered).2.entries other) ∧
      (¬scope.override.Installed ((body entered).2.entries traveler.stack) →
        after = (body entered).2) := by
  obtain ⟨anchor, _, rfl, rfl⟩ := Traveler.opening_eq_ok opened
  refine ⟨traveler.entries_pinned anchor world, ?_⟩
  have unseen : ¬(traveler.nextScope anchor world).override.Installed
      (world.entries traveler.stack) := by
    obtain ⟨process, context, reached, member, rfl⟩ := reachable
    exact reached.isSound.not_installed member member traveler.stack anchor _
  -- whatever the body did, its operations left the past of the override alone
  obtain ⟨operations, arrived⟩ := program (traveler.pinned anchor world)
  have rests := traveler.restsOn_after_pinned anchor unseen operations
  rw [← arrived] at rests
  obtain ⟨after, closed, restored⟩ :=
    (traveler.nextScope anchor world).exists_close rfl unseen rests
  have ran : body (traveler.pinned anchor world) =
      ((body (traveler.pinned anchor world)).1, (body (traveler.pinned anchor world)).2) :=
    rfl
  have ensured := Run.ensuring_of_ok ran closed
  refine ⟨after, ?_, restored⟩
  rw [traveler.depart_run_eq, Run.bind_of_ok opened, Run.bind_pure_apply, ensured]

/-- A body that travels once more, lets everything be reset and then fails. -/
def resettingBody : Run Unit Unit := do
  let _ ← depart hourEast .stop (.run (Run.attempt hourEast.reset))
  Run.fail .notANumber

theorem resettingBody_isProgram : Run.IsProgram resettingBody := by
  have resets : ∀ action : Run Unit (Except Fault Nat),
      (TravelBody.run (Run.attempt hourEast.reset)) = .run action → Run.IsProgram action := by
    intro action same
    cases same
    exact hourEast.reset_isProgram.attempt
  exact (hourEast.depart_isProgram .stop resets).bind fun _ => Run.isProgram_fail .notANumber

theorem scoped_travel_restores_stack_of_resettingBody :
    (World.start .utc [] () : World Unit).Reachable ∧
    ∃ after, depart hourEast .stop (.run resettingBody) (World.start .utc [] ()) =
        (.error .notANumber, after) ∧
      ¬(hourEast.nextScope defaultReading.wholeSecond
          (World.start .utc [] ())).override.Installed (after.entries hourEast.stack) := by
  have reachable : (World.start .utc [] () : World Unit).Reachable :=
    ⟨Process.start .utc [] (), Context.empty 0, ⟨.utc, [], (), [], rfl⟩,
      List.mem_singleton_self _, rfl⟩
  have opened : ∃ shown, hourEast.opening .stop (World.start .utc [] () : World Unit) =
      (.ok (hourEast.nextScope defaultReading.wholeSecond (World.start .utc [] ()), shown),
        hourEast.pinned defaultReading.wholeSecond (World.start .utc [] ())) :=
    ⟨_, rfl⟩
  obtain ⟨shown, opened⟩ := opened
  obtain ⟨_, after, ran, gone, _⟩ :=
    scoped_travel_restores_stack hourEast .stop reachable resettingBody_isProgram opened
  exact ⟨reachable, after, ran, gone⟩

end VirtualClock

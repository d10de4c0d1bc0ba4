import VirtualClock.Proofs.Regions
import VirtualClock.Traveler.Ambient

/-!
# Operations in one context

Everything that a program can do to the overrides of its context is a finite
sequence of the operations listed here.  One operation changes the context in
one of five ways, whichever of them it is and whether it ends with a fault or
not; `Context.Changes` lists the five.

A scoped travel is no operation of its own: it is an explicit travel, the
operations of its body and the closing of its scope.  `Run.IsProgram` collects
the actions that come down to operations in this way.
-/

namespace VirtualClock

open Session (Departure depart)

variable {Memory First Second Result : Type}

/-- What a program can do in its context in one stroke. -/
inductive Operation (Memory : Type) where
  | install (traveler : Traveler) (anchor : Moment)
  /-- An explicit travel. -/
  | depart (traveler : Traveler) (departure : Departure)
  | revert (traveler : Traveler)
  | travelBack (traveler : Traveler)
  | reset (traveler : Traveler)
  | close (scope : TravelScope)
  | push (stack : StackKey) (anchor : Moment)
  | pop (stack : StackKey)
  | truncate (stack : StackKey) (depth : Int)
  /-- Makes an override that lies on no stack. -/
  | mint (anchor : Moment) (depth : Int)
  | bind (traveler : Traveler)
  | restore (binding : Ambient.Binding)
  | setClock (clock : ClockKey) (reading : Value)
  | advanceClock (clock : ClockKey) (amount : Value)
  /-- Whatever leaves the context alone: what the program keeps for itself, and what happens
  in other contexts meanwhile. -/
  | elsewhere (change : World Memory → World Memory)

/-- The scope that a trip leaves open. -/
def Trip.scope? : Trip Result → Option TravelScope
  | .opened scope => some scope
  | .finished _ => none

/-- Performs an operation; one that pins an anchor gives the scope of its override. -/
def Operation.perform : Operation Memory → Run Memory (Option TravelScope)
  | .install traveler anchor => do
    let override ← traveler.install anchor
    pure (some ⟨traveler, override⟩)
  | .depart traveler departure => do
    let trip ← Session.depart traveler departure (.absent : TravelBody Memory Unit)
    pure trip.scope?
  | .revert traveler => do
    let _ ← traveler.revert
    pure none
  | .travelBack traveler => do
    traveler.travelBack
    pure none
  | .reset traveler => do
    let _ ← traveler.reset
    pure none
  | .close scope => do
    scope.close
    pure none
  | .push stack anchor => do
    let _ ← Stack.push stack anchor
    pure none
  | .pop stack => do
    let _ ← Stack.pop stack
    pure none
  | .truncate stack depth => do
    let _ ← Stack.truncate stack depth
    pure none
  | .mint anchor depth => do
    let _ ← Stack.mint anchor depth
    pure none
  | .bind traveler => do
    let _ ← Ambient.bind traveler
    pure none
  | .restore binding => do
    Ambient.restore binding
    pure none
  | .setClock clock reading => do
    Clock.set clock reading
    pure none
  | .advanceClock clock amount => do
    Clock.advance clock amount
    pure none
  | .elsewhere change => do
    Run.modifyWorld fun world => { change world with context := world.context }
    pure none

/-! ## What one operation changes -/

/-- The ways in which an operation can change its context. -/
inductive Context.Changes : Context → Context → Prop
  | still (context : Context) : Changes context context
  | push (context : Context) (stack : StackKey) {anchor : Moment} :
      anchor.zone = some .utc → Changes context (context.pushed stack anchor)
  | cut (context : Context) (stack : StackKey) (kept : Nat) :
      Changes context (context.cut stack kept)
  | count (context : Context) : Changes context context.counted
  | bind (context : Context) (ambient : Option Traveler) :
      Changes context { context with ambient }

namespace Run

theorem bind_pure_world (action : Run Memory First) (form : First → Second)
    (world : World Memory) :
    ((action >>= fun first => pure (form first)) world).2 = (action world).2 := by
  rw [bind_pure_apply]

end Run

namespace Stack

theorem push_changes (stack : StackKey) (anchor : Moment) (world : World Memory) :
    world.context.Changes (push stack anchor world).2.context := by
  rw [push_apply]
  cases converted : anchor.asAnchor world.system with
  | error fault => exact .still _
  | ok pinned => exact .push _ stack (Moment.zone_of_inUtc (Moment.asAnchor_eq_ok converted).2)

theorem pop_changes (stack : StackKey) (world : World Memory) :
    world.context.Changes (pop stack world).2.context := by
  rw [pop_apply]
  cases (world.entries stack).getLast? with
  | none => exact .still _
  | some top => exact .cut _ stack _

theorem truncate_changes (stack : StackKey) (depth : Int) (world : World Memory) :
    world.context.Changes (truncate stack depth world).2.context := by
  rw [truncate_apply]
  by_cases small : (world.entries stack).length ≤ depth.toNat
  · rw [if_pos small]
    exact .still _
  · rw [if_neg small]
    exact .cut _ stack _

end Stack

namespace Traveler

/-- Installing changes the context as the push does. -/
theorem install_context (traveler : Traveler) (anchor : Moment) (world : World Memory) :
    (traveler.install anchor world).2.context =
      (Stack.push traveler.stack anchor world).2.context := by
  rw [install_apply, Stack.push_apply]
  cases anchor.asAnchor world.system <;> rfl

theorem revert_context (traveler : Traveler) (world : World Memory) :
    (traveler.revert world).2.context = (Stack.pop traveler.stack world).2.context := by
  rw [revert_apply, Stack.pop_apply]
  cases (world.entries traveler.stack).getLast? <;> rfl

theorem reset_changes (traveler : Traveler) (world : World Memory) :
    world.context.Changes (traveler.reset world).2.context := by
  rw [reset_apply]
  by_cases empty : world.entries traveler.stack = []
  · rw [if_pos empty]
    exact .still _
  · rw [if_neg empty]
    exact .cut _ traveler.stack 0

theorem release_changes (traveler : Traveler) (override : Override) (world : World Memory) :
    world.context.Changes (traveler.release override world).2.context := by
  rw [release_apply]
  cases override.isInstalled (world.entries traveler.stack) with
  | error fault => exact .still _
  | ok found =>
      cases found with
      | false => exact .still _
      | true =>
          by_cases small : (world.entries traveler.stack).length ≤ override.depth.toNat
          · simp only [if_pos small]
            exact .still _
          · simp only [if_neg small]
            exact .cut _ traveler.stack _

theorem depart_absent_changes (traveler : Traveler) (departure : Departure)
    (world : World Memory) :
    world.context.Changes
      (depart traveler departure (.absent : TravelBody Memory Result) world).2.context := by
  rw [depart_absent_apply]
  cases led : (traveler.destination departure world).1 with
  | error fault => exact .still _
  | ok anchor => exact .push _ traveler.stack (zone_of_destination led)

end Traveler

namespace Clock

theorem set_context (clock : ClockKey) (reading : Value) (world : World Memory) :
    (set clock reading world).2.context = world.context := by
  obtain ⟨clocks, left⟩ := exists_set clock reading world
  rw [left]

theorem advance_context (clock : ClockKey) (amount : Value) (world : World Memory) :
    (advance clock amount world).2.context = world.context := by
  obtain ⟨clocks, left⟩ := exists_advance clock amount world
  rw [left]

end Clock

namespace Ambient

theorem restore_changes (binding : Binding) (world : World Memory) :
    world.context.Changes (restore binding world).2.context := by
  unfold restore
  rw [Run.world_bind]
  by_cases own : world.context.identity = binding.context
  · rw [if_pos own, Run.modifyWorld_apply]
    exact .bind _ binding.previous
  · rw [if_neg own, Run.fail_apply]
    exact .still _

end Ambient

/-- Whatever the operation and its outcome, the context changes in one of the listed ways. -/
theorem Operation.perform_changes (operation : Operation Memory) (world : World Memory) :
    world.context.Changes (operation.perform world).2.context := by
  cases operation with
  | install traveler anchor =>
      rw [perform, Run.bind_pure_world, Traveler.install_context]
      exact Stack.push_changes traveler.stack anchor world
  | depart traveler departure =>
      rw [perform, Run.bind_pure_world]
      exact traveler.depart_absent_changes departure world
  | revert traveler =>
      rw [perform, Run.bind_pure_world, Traveler.revert_context]
      exact Stack.pop_changes traveler.stack world
  | travelBack traveler =>
      rw [perform, Run.bind_pure_world, Traveler.travelBack, Run.bind_pure_world,
        Traveler.revert_context]
      exact Stack.pop_changes traveler.stack world
  | reset traveler =>
      rw [perform, Run.bind_pure_world]
      exact traveler.reset_changes world
  | close scope =>
      rw [perform, Run.bind_pure_world]
      exact scope.traveler.release_changes scope.override world
  | push stack anchor =>
      rw [perform, Run.bind_pure_world]
      exact Stack.push_changes stack anchor world
  | pop stack =>
      rw [perform, Run.bind_pure_world]
      exact Stack.pop_changes stack world
  | truncate stack depth =>
      rw [perform, Run.bind_pure_world]
      exact Stack.truncate_changes stack depth world
  | mint anchor depth =>
      rw [perform, Run.bind_pure_world, Stack.mint_apply]
      exact .count _
  | bind traveler =>
      rw [perform, Run.bind_pure_world]
      exact .bind _ (some traveler)
  | restore binding =>
      rw [perform, Run.bind_pure_world]
      exact Ambient.restore_changes binding world
  | setClock clock reading =>
      rw [perform, Run.bind_pure_world, Clock.set_context]
      exact .still _
  | advanceClock clock amount =>
      rw [perform, Run.bind_pure_world, Clock.advance_context]
      exact .still _
  | elsewhere change => exact .still _

/-! ## Programs -/

/-- The world after a sequence of operations, faults of single operations passed over. -/
def World.after (world : World Memory) : List (Operation Memory) → World Memory
  | [] => world
  | operation :: rest => ((operation.perform world).2).after rest

theorem World.after_append (world : World Memory) (first second : List (Operation Memory)) :
    world.after (first ++ second) = (world.after first).after second := by
  induction first generalizing world with
  | nil => rfl
  | cons operation rest inductionHypothesis =>
      exact inductionHypothesis (operation.perform world).2

/-- What every change of the context preserves holds after any operations. -/
theorem World.after_induction (Holds : Context → Prop)
    (preserved : ∀ before after, Context.Changes before after → Holds before → Holds after)
    (world : World Memory) (operations : List (Operation Memory)) (holds : Holds world.context) :
    Holds (world.after operations).context := by
  induction operations generalizing world with
  | nil => exact holds
  | cons operation rest inductionHypothesis =>
      exact inductionHypothesis (operation.perform world).2
        (preserved _ _ (operation.perform_changes world) holds)

namespace Run

/-- Whatever the world it starts in, the action does to it what some operations do, one after
the other; which ones may depend on everything that it reads. -/
def IsProgram (action : Run Memory Result) : Prop :=
  ∀ world, ∃ operations, (action world).2 = world.after operations

theorem OnlyReads.isProgram {action : Run Memory Result} (reads : OnlyReads action) :
    IsProgram action :=
  fun world => ⟨[], reads world⟩

theorem isProgram_fail (fault : Fault) : IsProgram (fail fault : Run Memory Result) :=
  (onlyReads_ofExcept _).isProgram

/-- An action that does to every world what one operation does to it. -/
theorem isProgram_of_perform {action : Run Memory Result} (operation : Operation Memory)
    (same : ∀ world, (operation.perform world).2 = (action world).2) : IsProgram action :=
  fun world => ⟨[operation], (same world).symm⟩

/-- Whatever leaves the context alone is a program. -/
theorem isProgram_of_context_eq {action : Run Memory Result}
    (keeps : ∀ world, (action world).2.context = world.context) : IsProgram action := by
  intro world
  refine ⟨[.elsewhere fun world => (action world).2], ?_⟩
  show (action world).2 = { (action world).2 with context := world.context }
  rw [← keeps world]

theorem IsProgram.bind {action : Run Memory First} {next : First → Run Memory Second}
    (program : IsProgram action) (continues : ∀ first, IsProgram (next first)) :
    IsProgram (action >>= next) := by
  intro world
  -- the operations of the second action are chosen in the world that the first one leaves
  obtain ⟨operations, left⟩ := program world
  rcases ran : action world with ⟨fault | first, after⟩
  · rw [bind_of_error ran]
    exact ⟨operations, by rw [← left, ran]⟩
  · obtain ⟨further, arrived⟩ := continues first after
    rw [bind_of_ok ran]
    refine ⟨operations ++ further, ?_⟩
    rw [World.after_append, ← left, ran, arrived]

theorem IsProgram.attempt {action : Run Memory Result} (program : IsProgram action) :
    IsProgram (attempt action) :=
  fun world => program world

theorem IsProgram.ensuring {action : Run Memory Result} {cleanup : Run Memory Unit}
    (program : IsProgram action) (cleans : IsProgram cleanup) :
    IsProgram (ensuring action cleanup) :=
  program.attempt.bind fun _ => cleans.bind fun _ => (onlyReads_ofExcept _).isProgram

end Run

/-! ### Single operations -/

theorem TravelScope.close_isProgram (scope : TravelScope) :
    Run.IsProgram (scope.close : Run Memory Unit) :=
  Run.isProgram_of_perform (.close scope) (Run.bind_pure_world _ _)

namespace Stack

theorem push_isProgram (stack : StackKey) (anchor : Moment) :
    Run.IsProgram (push stack anchor : Run Memory Override) :=
  Run.isProgram_of_perform (.push stack anchor) (Run.bind_pure_world _ _)

theorem pop_isProgram (stack : StackKey) :
    Run.IsProgram (pop stack : Run Memory (Option Override)) :=
  Run.isProgram_of_perform (.pop stack) (Run.bind_pure_world _ _)

theorem truncate_isProgram (stack : StackKey) (depth : Int) :
    Run.IsProgram (truncate stack depth : Run Memory Nat) :=
  Run.isProgram_of_perform (.truncate stack depth) (Run.bind_pure_world _ _)

theorem mint_isProgram (anchor : Moment) (depth : Int) :
    Run.IsProgram (mint anchor depth : Run Memory Override) :=
  Run.isProgram_of_perform (.mint anchor depth) (Run.bind_pure_world _ _)

end Stack

namespace Ambient

theorem bind_isProgram (traveler : Traveler) :
    Run.IsProgram (bind traveler : Run Memory Binding) :=
  Run.isProgram_of_perform (.bind traveler) (Run.bind_pure_world _ _)

theorem restore_isProgram (binding : Binding) :
    Run.IsProgram (restore binding : Run Memory Unit) :=
  Run.isProgram_of_perform (.restore binding) (Run.bind_pure_world _ _)

/-- A block with a traveler bound is a program when the block is one. -/
theorem during_isProgram (traveler : Traveler) {block : Run Memory Result}
    (program : Run.IsProgram block) : Run.IsProgram (during traveler block) :=
  (bind_isProgram traveler).bind fun binding => program.ensuring (restore_isProgram binding)

end Ambient

namespace Clock

theorem set_isProgram (clock : ClockKey) (reading : Value) :
    Run.IsProgram (set clock reading : Run Memory Unit) :=
  Run.isProgram_of_perform (.setClock clock reading) (Run.bind_pure_world _ _)

theorem advance_isProgram (clock : ClockKey) (amount : Value) :
    Run.IsProgram (advance clock amount : Run Memory Unit) :=
  Run.isProgram_of_perform (.advanceClock clock amount) (Run.bind_pure_world _ _)

end Clock

/-! ### Travels -/

namespace Traveler

theorem install_isProgram (traveler : Traveler) (anchor : Moment) :
    Run.IsProgram (traveler.install anchor : Run Memory Override) :=
  Run.isProgram_of_perform (.install traveler anchor) (Run.bind_pure_world _ _)

theorem reset_isProgram (traveler : Traveler) :
    Run.IsProgram (traveler.reset : Run Memory Nat) :=
  Run.isProgram_of_perform (.reset traveler) (Run.bind_pure_world _ _)

theorem opening_isProgram (traveler : Traveler) (departure : Departure) :
    Run.IsProgram (traveler.opening departure : Run Memory (TravelScope × Moment)) := by
  refine (traveler.destination_onlyReads departure).isProgram.bind fun anchor => ?_
  refine (traveler.install_isProgram anchor).bind fun override => ?_
  exact ((TravelScope.anchor_onlyReads ⟨traveler, override⟩).bind fun shown =>
    Run.onlyReads_pure _).isProgram

/-- A travel is a program when its body is one, and so travels nest. -/
theorem depart_isProgram (traveler : Traveler) (departure : Departure)
    {body : TravelBody Memory Result}
    (program : ∀ action, body = .run action → Run.IsProgram action) :
    Run.IsProgram (depart traveler departure body) := by
  cases body with
  | absent =>
      rw [depart_eq]
      refine (traveler.destination_onlyReads departure).isProgram.bind fun anchor => ?_
      exact (traveler.install_isProgram anchor).bind fun override =>
        (Run.onlyReads_pure _).isProgram
  | notCallable found =>
      rw [depart_eq]
      exact (traveler.destination_onlyReads departure).isProgram.bind fun anchor =>
        Run.isProgram_fail _
  | run action =>
      rw [depart_run_eq]
      refine (traveler.opening_isProgram departure).bind fun opened => ?_
      exact ((program action rfl).ensuring opened.1.close_isProgram).bind fun _ =>
        (Run.onlyReads_pure _).isProgram

end Traveler

end VirtualClock

import VirtualClock.Proofs.Readings
import VirtualClock.Proofs.Regions
import VirtualClock.Proofs.TestCases

/-!
# Renamed stacks

Which key a stack bears depends on how many stacks were made before it, anywhere
in the program.  What an operation does must not depend on it.  Here the same
operation is done in two worlds that differ in the keys of their stacks, under a
renaming: it ends in the same way in both, and the worlds it leaves differ by the
renaming again.

Nothing is said about the journal, which no operation reads.
-/

namespace VirtualClock

open Session (Departure depart)

variable {Memory First Second Third Fourth : Type} {keys : StackKey → StackKey}

/-! ## Handles under other keys -/

def Traveler.rename (keys : StackKey → StackKey) (traveler : Traveler) : Traveler :=
  { traveler with stack := keys traveler.stack }

def TravelScope.rename (keys : StackKey → StackKey) (scope : TravelScope) : TravelScope :=
  ⟨scope.traveler.rename keys, scope.override⟩

def Ambient.Binding.rename (keys : StackKey → StackKey) (binding : Binding) : Binding :=
  ⟨binding.context, binding.previous.map (Traveler.rename keys)⟩

def Trip.rename {Result : Type} (keys : StackKey → StackKey) : Trip Result → Trip Result
  | .opened scope => .opened (scope.rename keys)
  | .finished result => .finished result

theorem Traveler.rename_of_fixed {traveler : Traveler}
    (fixed : keys traveler.stack = traveler.stack) : traveler.rename keys = traveler := by
  unfold rename
  rw [fixed]

/-- Keys that tell all stacks apart and leave the stack of the standard traveler its own. -/
structure RenamesStacks (keys : StackKey → StackKey) : Prop where
  injective : Function.Injective keys
  standard : keys Traveler.standard.stack = Traveler.standard.stack

theorem renamesStacks_id : RenamesStacks id :=
  ⟨fun _ _ same => same, rfl⟩

/-! ## Contexts -/

/-- The context holds under its own keys what the mirror holds under the new ones. -/
structure Context.Mirrored (keys : StackKey → StackKey) (context mirror : Context) : Prop where
  identity : mirror.identity = context.identity
  serial : mirror.serial = context.serial
  ambient : mirror.ambient = context.ambient.map (Traveler.rename keys)
  entries : ∀ stack, mirror.entries (keys stack) = context.entries stack

namespace Context.Mirrored

variable {context mirror : Context}

theorem minted (mirrored : context.Mirrored keys mirror) (anchor : Moment) (depth : Int) :
    mirror.minted anchor depth = context.minted anchor depth := by
  unfold Context.minted
  rw [mirrored.identity, mirrored.serial]

theorem counted (mirrored : context.Mirrored keys mirror) :
    context.counted.Mirrored keys mirror.counted where
  identity := mirrored.identity
  serial := congrArg (· + 1) mirrored.serial
  ambient := mirrored.ambient
  entries := mirrored.entries

theorem withAmbient (mirrored : context.Mirrored keys mirror) (ambient : Option Traveler) :
    ({ context with ambient } : Context).Mirrored keys
      { mirror with ambient := ambient.map (Traveler.rename keys) } where
  identity := mirrored.identity
  serial := mirrored.serial
  ambient := rfl
  entries := mirrored.entries

/-- The new keys tell the changed stack from all others, as the old ones do. -/
theorem withEntries (mirrored : context.Mirrored keys mirror) (renames : RenamesStacks keys)
    (stack : StackKey) (entries : List Override) :
    (context.withEntries stack entries).Mirrored keys
      (mirror.withEntries (keys stack) entries) where
  identity := mirrored.identity
  serial := mirrored.serial
  ambient := mirrored.ambient
  entries := by
    intro other
    rw [Context.entries_withEntries, Context.entries_withEntries, mirrored.entries]
    by_cases same : other = stack
    · rw [if_pos same, if_pos (congrArg keys same)]
    · rw [if_neg same, if_neg (renames.injective.ne same)]

theorem pushed (mirrored : context.Mirrored keys mirror) (renames : RenamesStacks keys)
    (stack : StackKey) (anchor : Moment) :
    (context.pushed stack anchor).Mirrored keys (mirror.pushed (keys stack) anchor) := by
  unfold Context.pushed
  rw [mirrored.entries, mirrored.minted]
  exact mirrored.counted.withEntries renames stack _

theorem cut (mirrored : context.Mirrored keys mirror) (renames : RenamesStacks keys)
    (stack : StackKey) (kept : Nat) :
    (context.cut stack kept).Mirrored keys (mirror.cut (keys stack) kept) := by
  unfold Context.cut
  rw [mirrored.entries]
  exact mirrored.withEntries renames stack _

end Context.Mirrored

/-! ## Worlds -/

structure World.Mirrored (keys : StackKey → StackKey) (world mirror : World Memory) : Prop where
  system : mirror.system = world.system
  clocks : mirror.clocks = world.clocks
  context : world.context.Mirrored keys mirror.context

/-- The worlds differ in the context and the journal at most. -/
structure World.SameOutside (before after : World Memory) : Prop where
  system : after.system = before.system
  clocks : after.clocks = before.clocks
  memory : after.memory = before.memory

theorem World.SameOutside.trans {before between after : World Memory}
    (first : before.SameOutside between) (second : between.SameOutside after) :
    before.SameOutside after :=
  ⟨second.system.trans first.system, second.clocks.trans first.clocks,
    second.memory.trans first.memory⟩

namespace World.Mirrored

variable {world mirror : World Memory}

theorem entries (mirrored : world.Mirrored keys mirror) (stack : StackKey) :
    mirror.entries (keys stack) = world.entries stack :=
  mirrored.context.entries stack

theorem reading (mirrored : world.Mirrored keys mirror) (clock : ClockKey) :
    mirror.reading clock = world.reading clock := by
  unfold World.reading
  rw [mirrored.clocks]

end World.Mirrored

/-! ## Operations in mirrored worlds -/

namespace Run

/-- What came of an action in a world, and of one in its mirror: the outcomes and the worlds
correspond, and nothing has changed outside the context. -/
structure Alike (keys : StackKey → StackKey) (form : First → Second) (world : World Memory)
    (ran : Except Fault First × World Memory) (mirrored : Except Fault Second × World Memory) :
    Prop where
  outcome : mirrored.1 = ran.1.map form
  left : ran.2.Mirrored keys mirrored.2
  outside : world.SameOutside ran.2

/-- The second action does in a mirrored world what the first one does. -/
def Mirrors (keys : StackKey → StackKey) (form : First → Second) (action : Run Memory First)
    (mirrored : Run Memory Second) : Prop :=
  ∀ ⦃world mirror : World Memory⦄, world.Mirrored keys mirror →
    Alike keys form world (action world) (mirrored mirror)

/-- Equal outcomes without a change. -/
theorem Alike.still {world mirror : World Memory} (mirrored : world.Mirrored keys mirror)
    (outcome : Except Fault First) :
    Alike keys id world (outcome, world) (outcome, mirror) := by
  refine ⟨?_, mirrored, rfl, rfl, rfl⟩
  cases outcome with
  | error fault => rfl
  | ok result => rfl

theorem mirrors_pure (form : First → Second) (result : First) :
    Mirrors keys form (pure result : Run Memory First) (pure (form result)) :=
  fun _ _ mirrored => ⟨rfl, mirrored, rfl, rfl, rfl⟩

theorem mirrors_ofExcept (outcome : Except Fault First) :
    Mirrors keys id (ofExcept outcome : Run Memory First) (ofExcept outcome) :=
  fun _ _ mirrored => Alike.still mirrored outcome

theorem mirrors_fail (form : First → Second) (fault : Fault) :
    Mirrors keys form (fail fault : Run Memory First) (fail fault) :=
  fun _ _ mirrored => ⟨rfl, mirrored, rfl, rfl, rfl⟩

/-- What comes after a look at the world, which shows the mirror where the other is. -/
theorem mirrors_world {form : First → Second} {next : World Memory → Run Memory First}
    {mirroredNext : World Memory → Run Memory Second}
    (nextMirrors : ∀ ⦃world mirror : World Memory⦄, world.Mirrored keys mirror →
      Mirrors keys form (next world) (mirroredNext mirror)) :
    Mirrors keys form (Run.world >>= next) (Run.world >>= mirroredNext) := by
  intro world mirror mirrored
  rw [world_bind, world_bind]
  exact nextMirrors mirrored mirrored

theorem Mirrors.bind {form : First → Second} {further : Third → Fourth}
    {action : Run Memory First} {mirrored : Run Memory Second} {next : First → Run Memory Third}
    {mirroredNext : Second → Run Memory Fourth} (mirrors : Mirrors keys form action mirrored)
    (nextMirrors : ∀ result, Mirrors keys further (next result) (mirroredNext (form result))) :
    Mirrors keys further (action >>= next) (mirrored >>= mirroredNext) := by
  intro world mirror alike
  have ⟨outcome, left, outside⟩ := mirrors alike
  rcases ran : action world with ⟨fault | result, after⟩
  · rw [ran] at outcome left outside
    have stopped : mirrored mirror = (.error fault, (mirrored mirror).2) := Prod.ext outcome rfl
    rw [bind_of_error ran, bind_of_error stopped]
    exact ⟨rfl, left, outside⟩
  · rw [ran] at outcome left outside
    have gave : mirrored mirror = (.ok (form result), (mirrored mirror).2) :=
      Prod.ext outcome rfl
    rw [bind_of_ok ran, bind_of_ok gave]
    have ⟨outcomeNext, leftNext, outsideNext⟩ := nextMirrors result left
    exact ⟨outcomeNext, leftNext, outside.trans outsideNext⟩

end Run

open Run (Alike Mirrors)

/-! ### Stacks -/

namespace Stack

theorem snapshot_mirrors (stack : StackKey) :
    Mirrors keys id (snapshot stack : Run Memory _) (snapshot (keys stack)) := by
  intro world mirror mirrored
  rw [snapshot_apply, snapshot_apply, mirrored.entries]
  exact Alike.still mirrored _

theorem depth_mirrors (stack : StackKey) :
    Mirrors keys id (depth stack : Run Memory _) (depth (keys stack)) :=
  (snapshot_mirrors stack).bind fun _ => Run.mirrors_pure id _

theorem peek_mirrors (stack : StackKey) :
    Mirrors keys id (peek stack : Run Memory _) (peek (keys stack)) :=
  (snapshot_mirrors stack).bind fun _ => Run.mirrors_pure id _

theorem contains_mirrors (stack : StackKey) (override : Override) :
    Mirrors keys id (contains stack override : Run Memory _) (contains (keys stack) override) :=
  (snapshot_mirrors stack).bind fun _ => Run.mirrors_ofExcept _

theorem mint_mirrors (anchor : Moment) (depth : Int) :
    Mirrors keys id (mint anchor depth : Run Memory _) (mint anchor depth) := by
  intro world mirror mirrored
  rw [mint_apply, mint_apply, mirrored.context.minted]
  exact ⟨rfl, ⟨mirrored.system, mirrored.clocks, mirrored.context.counted⟩, rfl, rfl, rfl⟩

variable (renames : RenamesStacks keys)
include renames

theorem push_mirrors (stack : StackKey) (anchor : Moment) :
    Mirrors keys id (push stack anchor : Run Memory _) (push (keys stack) anchor) := by
  intro world mirror mirrored
  rw [push_apply, push_apply, mirrored.system, mirrored.entries]
  cases anchor.asAnchor world.system with
  | error fault => exact Alike.still mirrored _
  | ok pinned =>
      have made := mirrored.context.minted pinned (world.entries stack).length
      refine ⟨congrArg Except.ok made, ⟨mirrored.system, mirrored.clocks, ?_⟩, rfl, rfl, rfl⟩
      exact mirrored.context.pushed renames stack pinned

theorem pop_mirrors (stack : StackKey) :
    Mirrors keys id (pop stack : Run Memory _) (pop (keys stack)) := by
  intro world mirror mirrored
  rw [pop_apply, pop_apply, mirrored.entries]
  cases (world.entries stack).getLast? with
  | none => exact Alike.still mirrored _
  | some top =>
      refine ⟨rfl, ⟨mirrored.system, mirrored.clocks, ?_⟩, rfl, rfl, rfl⟩
      exact mirrored.context.cut renames stack _

theorem truncate_mirrors (stack : StackKey) (depth : Int) :
    Mirrors keys id (truncate stack depth : Run Memory _) (truncate (keys stack) depth) := by
  intro world mirror mirrored
  rw [truncate_apply, truncate_apply, mirrored.entries]
  by_cases low : (world.entries stack).length ≤ depth.toNat
  · rw [if_pos low, if_pos low]
    exact Alike.still mirrored _
  · rw [if_neg low, if_neg low]
    refine ⟨rfl, ⟨mirrored.system, mirrored.clocks, ?_⟩, rfl, rfl, rfl⟩
    exact mirrored.context.cut renames stack _

end Stack

/-! ### Travelers -/

namespace Traveler

theorem realNow_mirrors (traveler : Traveler) :
    Mirrors keys id (traveler.realNow : Run Memory _) (traveler.rename keys).realNow := by
  refine Run.mirrors_world fun world mirror mirrored => ?_
  show Mirrors keys id (if (world.reading traveler.clock).isAware then _ else _)
    (if (mirror.reading traveler.clock).isAware then
      Run.ofExcept ((mirror.reading traveler.clock).inUtc mirror.system)
    else Run.fail .naiveClockReading)
  rw [mirrored.reading, mirrored.system]
  by_cases aware : (world.reading traveler.clock).isAware
  · rw [if_pos aware]
    exact Run.mirrors_ofExcept _
  · rw [if_neg aware]
    exact Run.mirrors_fail id _

theorem instant_mirrors (traveler : Traveler) :
    Mirrors keys id (traveler.instant : Run Memory _) (traveler.rename keys).instant := by
  refine (Stack.peek_mirrors traveler.stack).bind fun top => ?_
  cases top with
  | none => exact traveler.realNow_mirrors
  | some override => exact Run.mirrors_pure id override.anchor

theorem depth_mirrors (traveler : Traveler) :
    Mirrors keys id (traveler.depth : Run Memory _) (traveler.rename keys).depth :=
  Stack.depth_mirrors traveler.stack

theorem currentOverride_mirrors (traveler : Traveler) :
    Mirrors keys id (traveler.currentOverride : Run Memory _)
      (traveler.rename keys).currentOverride :=
  Stack.peek_mirrors traveler.stack

theorem currentMoment_mirrors [Atlas] (traveler : Traveler) (kind : MomentKind) (zone : Value) :
    Mirrors keys id (traveler.currentMoment kind zone : Run Memory _)
      ((traveler.rename keys).currentMoment kind zone) := by
  refine (Run.mirrors_ofExcept (traveler.displayZone zone)).bind fun shown => ?_
  refine traveler.instant_mirrors.bind fun instant => ?_
  refine Run.mirrors_world fun world mirror mirrored => ?_
  rw [mirrored.system]
  exact Run.mirrors_ofExcept _

theorem currentDay_mirrors [Atlas] (traveler : Traveler) (kind : DayKind) (zone : Value) :
    Mirrors keys id (traveler.currentDay kind zone : Run Memory _)
      ((traveler.rename keys).currentDay kind zone) := by
  refine (Run.mirrors_ofExcept (traveler.displayZone zone)).bind fun shown => ?_
  refine traveler.instant_mirrors.bind fun instant => ?_
  refine Run.mirrors_world fun world mirror mirrored => ?_
  rw [mirrored.system]
  exact Run.mirrors_ofExcept _

theorem current_mirrors [Atlas] (traveler : Traveler) (kind : ReadingKind) (zone : Value) :
    Mirrors keys id (traveler.current kind zone : Run Memory _)
      ((traveler.rename keys).current kind zone) := by
  cases kind with
  | moment kind =>
      exact (traveler.currentMoment_mirrors kind zone).bind fun content =>
        Run.mirrors_pure id (Reading.moment content)
  | day kind =>
      exact (traveler.currentDay_mirrors kind zone).bind fun content =>
        Run.mirrors_pure id (Reading.day content)
  | probe =>
      refine (Run.mirrors_ofExcept (traveler.displayZone zone)).bind fun shown => ?_
      exact traveler.instant_mirrors.bind fun instant =>
        Run.mirrors_pure id (Reading.probe instant shown)
  | unsupported name =>
      exact (Run.mirrors_ofExcept (traveler.displayZone zone)).bind fun _ =>
        Run.mirrors_fail id _

theorem anchorAt_mirrors (traveler : Traveler) (target : Value) :
    Mirrors keys id (traveler.anchorAt target : Run Memory _)
      ((traveler.rename keys).anchorAt target) := by
  refine Run.mirrors_world fun world mirror mirrored => ?_
  rw [mirrored.system]
  exact (Run.mirrors_ofExcept (traveler.targetInstant world.system target)).bind fun instant =>
    Run.mirrors_pure id instant.wholeSecond

/-- Where a departure leads has nothing to do with the stack of the traveler. -/
theorem destination_mirrors (traveler : Traveler) (departure : Departure) :
    Mirrors keys id (traveler.destination departure : Run Memory _)
      ((traveler.rename keys).destination departure) := by
  cases departure with
  | «by» offset =>
      refine (Run.mirrors_ofExcept offset.toOffset).bind fun span => ?_
      exact traveler.realNow_mirrors.bind fun now => Run.mirrors_ofExcept (now.shift span)
  | «to» target => exact traveler.anchorAt_mirrors target
  | stop => exact traveler.realNow_mirrors.bind fun now => traveler.anchorAt_mirrors (.moment now)

theorem record_mirrors (traveler : Traveler) (event : TravelEvent) :
    Mirrors keys id (traveler.record event : Run Memory _)
      ((traveler.rename keys).record event) :=
  fun _ _ mirrored =>
    ⟨rfl, ⟨mirrored.system, mirrored.clocks, mirrored.context⟩, rfl, rfl, rfl⟩

variable (renames : RenamesStacks keys)
include renames

theorem install_mirrors (traveler : Traveler) (anchor : Moment) :
    Mirrors keys id (traveler.install anchor : Run Memory _)
      ((traveler.rename keys).install anchor) := by
  refine (Stack.push_mirrors renames traveler.stack anchor).bind fun override => ?_
  exact (traveler.record_mirrors _).bind fun _ => Run.mirrors_pure id override

theorem revert_mirrors (traveler : Traveler) :
    Mirrors keys id (traveler.revert : Run Memory _) (traveler.rename keys).revert := by
  refine (Stack.pop_mirrors renames traveler.stack).bind fun top => ?_
  cases top with
  | none => exact (traveler.record_mirrors _).bind fun _ => Run.mirrors_pure id none
  | some override =>
      refine traveler.depth_mirrors.bind fun depth => ?_
      exact (traveler.record_mirrors _).bind fun _ => Run.mirrors_pure id (some override)

theorem travelBack_mirrors (traveler : Traveler) :
    Mirrors keys id (traveler.travelBack : Run Memory _) (traveler.rename keys).travelBack :=
  (traveler.revert_mirrors renames).bind fun _ => Run.mirrors_pure id ()

theorem reset_mirrors (traveler : Traveler) :
    Mirrors keys id (traveler.reset : Run Memory _) (traveler.rename keys).reset := by
  refine (Stack.truncate_mirrors renames traveler.stack 0).bind fun removed => ?_
  show Mirrors keys id (if removed = 0 then _ else _) (if removed = 0 then _ else _)
  by_cases none : removed = 0
  · rw [if_pos none, if_pos none]
    exact Run.mirrors_pure id 0
  · rw [if_neg none, if_neg none]
    exact (traveler.record_mirrors _).bind fun _ => Run.mirrors_pure id removed

theorem release_mirrors (traveler : Traveler) (override : Override) :
    Mirrors keys id (traveler.release override : Run Memory _)
      ((traveler.rename keys).release override) := by
  refine (Stack.contains_mirrors traveler.stack override).bind fun isInstalled => ?_
  cases isInstalled with
  | false => exact Run.mirrors_pure id ()
  | true =>
      exact (Stack.truncate_mirrors renames traveler.stack override.depth).bind fun removed =>
        traveler.record_mirrors _

/-- An explicit travel opens a scope that differs in the key alone. -/
theorem depart_absent_mirrors (traveler : Traveler) (departure : Departure) :
    Mirrors keys (Trip.rename keys)
      (depart traveler departure (.absent : TravelBody Memory First) : Run Memory _)
      (depart (traveler.rename keys) departure .absent) := by
  rw [depart_eq, depart_eq]
  refine (traveler.destination_mirrors departure).bind fun anchor => ?_
  exact (traveler.install_mirrors renames anchor).bind fun override =>
    Run.mirrors_pure (Trip.rename keys) (.opened ⟨traveler, override⟩)

omit renames in
theorem depart_notCallable_mirrors (traveler : Traveler) (departure : Departure)
    (found : String) :
    Mirrors keys (Trip.rename keys)
      (depart traveler departure (.notCallable found : TravelBody Memory First) : Run Memory _)
      (depart (traveler.rename keys) departure (.notCallable found)) := by
  rw [depart_eq, depart_eq]
  exact (traveler.destination_mirrors departure).bind fun anchor => Run.mirrors_fail _ _

end Traveler

/-! ### Scopes and bindings -/

namespace TravelScope

theorem anchor_mirrors (scope : TravelScope) :
    Mirrors keys id (scope.anchor : Run Memory _) (scope.rename keys).anchor := by
  refine Run.mirrors_world fun world mirror mirrored => ?_
  rw [mirrored.system]
  exact Run.mirrors_ofExcept _

theorem isActive_mirrors (scope : TravelScope) :
    Mirrors keys id (scope.isActive : Run Memory _) (scope.rename keys).isActive :=
  Stack.contains_mirrors scope.traveler.stack scope.override

theorem close_mirrors (renames : RenamesStacks keys) (scope : TravelScope) :
    Mirrors keys id (scope.close : Run Memory _) (scope.rename keys).close :=
  scope.traveler.release_mirrors renames scope.override

end TravelScope

/-- The standard traveler stands in where nothing is bound, in both worlds. -/
theorem Ambient.traveler_mirrors (renames : RenamesStacks keys) :
    Mirrors keys (Traveler.rename keys) (Ambient.traveler : Run Memory _) Ambient.traveler := by
  refine Run.mirrors_world fun world mirror mirrored => ?_
  have same : mirror.context.ambient.getD Traveler.standard =
      (world.context.ambient.getD Traveler.standard).rename keys := by
    rw [mirrored.context.ambient]
    cases world.context.ambient with
    | none => exact (Traveler.rename_of_fixed renames.standard).symm
    | some traveler => rfl
  rw [same]
  exact Run.mirrors_pure (Traveler.rename keys) _

theorem Ambient.bind_mirrors (traveler : Traveler) :
    Mirrors keys (Binding.rename keys) (Ambient.bind traveler : Run Memory _)
      (Ambient.bind (traveler.rename keys)) := by
  intro world mirror mirrored
  refine ⟨?_, ⟨mirrored.system, mirrored.clocks, ?_⟩, rfl, rfl, rfl⟩
  · show Except.ok (⟨mirror.context.identity, mirror.context.ambient⟩ : Binding) = _
    rw [mirrored.context.identity, mirrored.context.ambient]
    rfl
  · exact mirrored.context.withAmbient (some traveler)

theorem Ambient.restore_mirrors (binding : Binding) :
    Mirrors keys id (Ambient.restore binding : Run Memory _)
      (Ambient.restore (binding.rename keys)) := by
  intro world mirror mirrored
  rw [restore_apply, restore_apply, mirrored.context.identity]
  show Run.Alike keys id world (if world.context.identity = binding.context then _ else _)
    (if world.context.identity = binding.context then _ else _)
  by_cases own : world.context.identity = binding.context
  · rw [if_pos own, if_pos own]
    refine ⟨rfl, ⟨mirrored.system, mirrored.clocks, ?_⟩, rfl, rfl, rfl⟩
    exact mirrored.context.withAmbient binding.previous
  · rw [if_neg own, if_neg own]
    exact Alike.still mirrored _

end VirtualClock

import VirtualClock.Proofs.Contexts
import VirtualClock.Proofs.SessionPrograms
import VirtualClock.Proofs.StackTables
import VirtualClock.Proofs.TestCases

/-!
# Blocks with a traveler bound

A block may bind travelers itself and leave them bound.  The binding around it
does not rely on any balance of the block: it has kept what it replaced, and
puts that back however the block ends.  No program leaves its own context, and
so it can always do so.

A fixture is such a block around a test, with a traveler of its own whose
overrides are removed in the end.
-/

namespace VirtualClock

variable {Store Result : Type}

theorem Run.IsProgram.identity_eq {action : Run Store Result} (program : IsProgram action)
    (world : World Store) : (action world).2.context.identity = world.context.identity := by
  obtain ⟨operations, arrived⟩ := program world
  rw [arrived]
  exact World.after_induction (fun context => context.identity = world.context.identity)
    (fun _ _ change same => change.identity_eq.trans same) world operations rfl

/-- A program is run with the traveler bound and passes its outcome on; afterwards the traveler
from before is bound. -/
theorem Ambient.during_of_isProgram (traveler : Traveler) {block : Run Store Result}
    (program : Run.IsProgram block) (world : World Store) :
    during traveler block world =
      ((block (world.withAmbient (some traveler))).1,
        (block (world.withAmbient (some traveler))).2.withAmbient world.context.ambient) :=
  during_apply traveler (program.identity_eq (world.withAmbient (some traveler)))

namespace Session

/-! ## Fixtures -/

/-- The traveler that a fixture makes: in universal time, with a clock and a stack of its own. -/
def fixtureTraveler (world : World Memory) : Traveler :=
  ⟨world.memory.nextClock, world.memory.nextStack, some .utc⟩

/-- The world in which a fixture has made its traveler. -/
def withFixture (world : World Memory) : World Memory :=
  { world with
    memory := { world.memory with
      nextClock := world.memory.nextClock + 1
      nextStack := world.memory.nextStack + 1
      travelers := setNamed mainName (fixtureTraveler world) world.memory.travelers } }

/-- The world in which a test starts under a fixture. -/
def underFixture (world : World Memory) : World Memory :=
  (withFixture world).withAmbient (some (fixtureTraveler world))

theorem playWithFixture_eq [Atlas] (steps : List Step) (world : World Memory) :
    playWithFixture steps world =
      (do
        let played ← Ambient.during (fixtureTraveler world) (playSteps steps)
        let _ ← (fixtureTraveler world).reset
        pure played : Run BlockRun) (withFixture world) :=
  rfl

/-- The test is played to its end, whatever becomes of its steps; then the binding is undone and the
stack of the traveler is emptied. -/
theorem exists_playWithFixture [Atlas] (steps : List Step) (world : World Memory) :
    ∃ played tested after, playSteps steps (underFixture world) = (.ok played, tested) ∧
      playWithFixture steps world = (.ok played, after) ∧
      after.context.ambient = world.context.ambient ∧
      after.entries (fixtureTraveler world).stack = [] ∧
      ∀ other, other ≠ (fixtureTraveler world).stack →
        after.entries other = tested.entries other := by
  obtain ⟨played, tested, ran⟩ := exists_playBlock steps (.gives .nothing) (underFixture world)
  have unbound : Ambient.during (fixtureTraveler world) (playSteps steps) (withFixture world) =
      (.ok played, tested.withAmbient world.context.ambient) := by
    have program : VirtualClock.Run.IsProgram (playSteps steps) := playBlock_isProgram steps _
    rw [Ambient.during_of_isProgram _ program]
    exact congrArg (fun left => (left.1, left.2.withAmbient world.context.ambient)) ran
  obtain ⟨removed, after, reset, empty, same⟩ :=
    exists_reset (fixtureTraveler world) (tested.withAmbient world.context.ambient)
  refine ⟨played, tested, after, ran, ?_, same.ambient, empty, fun other foreign => ?_⟩
  · rw [playWithFixture_eq, Run.bind_of_ok unbound, Run.bind_of_ok reset]
    rfl
  · have spares := Traveler.reset_worksOn (List.mem_singleton_self (fixtureTraveler world).stack)
      (tested.withAmbient world.context.ambient)
    rw [reset] at spares
    exact spares.entries_eq fun member => foreign (List.mem_singleton.mp member)

end Session

/-- Wherever a traveler is bound for a block, it is the ambient one as the block begins; the block
ends as it would end on its own, with its result or with its fault, and the traveler from before is
ambient again, whatever the block has bound meanwhile.  A test under a fixture is such a block, and
after it the traveler of the fixture has no override left, while all other stacks are as the test
has left them. -/
theorem Ambient.block_restores_traveler [Atlas] (traveler : Traveler) {block : Run Store Result}
    (program : Run.IsProgram block) (world : World Store) :
    (Ambient.traveler (world.withAmbient (some traveler))).1 = .ok traveler ∧
    Ambient.during traveler block world =
      ((block (world.withAmbient (some traveler))).1,
        (block (world.withAmbient (some traveler))).2.withAmbient world.context.ambient) ∧
    (Ambient.traveler (Ambient.during traveler block world).2).1 = (Ambient.traveler world).1 ∧
    ∀ (steps : List Session.Step) (outer : World Session.Memory),
      (Ambient.traveler (Session.underFixture outer)).1 = .ok (Session.fixtureTraveler outer) ∧
      ∃ played tested left,
        Session.playSteps steps (Session.underFixture outer) = (.ok played, tested) ∧
        Session.playWithFixture steps outer = (.ok played, left) ∧
        (Ambient.traveler left).1 = (Ambient.traveler outer).1 ∧
        ((Session.fixtureTraveler outer).depth left).1 = .ok 0 ∧
        ∀ other, other ≠ (Session.fixtureTraveler outer).stack →
          left.entries other = tested.entries other := by
  have undone := during_of_isProgram traveler program world
  refine ⟨rfl, undone, ?_, fun steps outer => ⟨rfl, ?_⟩⟩
  · rw [undone]
    rfl
  · obtain ⟨played, tested, left, ran, whole, ambient, empty, others⟩ :=
      Session.exists_playWithFixture steps outer
    refine ⟨played, tested, left, ran, whole, ?_, ?_, others⟩
    · rw [traveler_apply, traveler_apply, ambient]
    · show (Stack.depth (Session.fixtureTraveler outer).stack left).1 = .ok 0
      rw [Stack.depth_apply, empty]
      rfl

/-! ### A block that binds and fails, and a test that leaves an override open -/

namespace Session

/-- The block asks for the traveler of the test case, which binds it, and then fails. -/
def failingBlock : Run Unit := do
  let _ ← testCaseTraveler
  VirtualClock.Run.fail .notANumber

/-- A world in which a test case has yet to ask for its traveler and another one is bound. -/
def boundCaseWorld : World Memory :=
  (caseBegun (some hourEast) lateCaseWorld).withAmbient (some outerTraveler)

def openingSteps : List Step :=
  [.act ⟨.named mainName, false⟩ (.install (.moment lastHalfHour) none)]

/-- The failing block leaves the traveler of the case bound, and the test its override open; both
are gone afterwards. -/
theorem failing_block_and_open_override_are_cleaned_up :
    (failingBlock (boundCaseWorld.withAmbient (some .standard))).2.context.ambient =
      some hourEast ∧
    (∃ left, Ambient.during .standard failingBlock boundCaseWorld = (.error .notANumber, left) ∧
      (Ambient.traveler left).1 = .ok outerTraveler) ∧
    ∃ played tested left,
      playSteps openingSteps (underFixture boundCaseWorld) = (.ok played, tested) ∧
      ((fixtureTraveler boundCaseWorld).depth tested).1 = .ok 1 ∧
      playWithFixture openingSteps boundCaseWorld = (.ok played, left) ∧
      ((fixtureTraveler boundCaseWorld).depth left).1 = .ok 0 ∧
      (Ambient.traveler left).1 = .ok outerTraveler := by
  have program : VirtualClock.Run.IsProgram failingBlock :=
    testCaseTraveler_isProgram.bind fun _ => VirtualClock.Run.isProgram_fail _
  obtain ⟨_, undone, restored, fixtures⟩ :=
    Ambient.block_restores_traveler .standard program boundCaseWorld
  obtain ⟨_, played, tested, left, ran, whole, ambient, empty, _⟩ :=
    fixtures openingSteps boundCaseWorld
  refine ⟨rfl, ⟨_, undone, ?_⟩, played, tested, left, ran, ?_, whole, empty, ambient⟩
  · rw [undone] at restored
    exact restored
  · have same : tested = (playSteps openingSteps (underFixture boundCaseWorld)).2 := by rw [ran]
    rw [same]
    rfl

end Session

end VirtualClock

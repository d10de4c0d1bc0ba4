import VirtualClock.Proofs.SessionLaws
import VirtualClock.Session.Harness

/-!
# Test cases

A test case gets its traveler when a step first asks for it: the traveler is
bound then and there, and unbound by the cleanup alone.  What the binding has
replaced is put back then, so the moment of the first asking decides whether the
traveler from before the test is ambient again.  A block that binds another
traveler and has ended since must not have been around it.
-/

namespace VirtualClock

variable {Store Outcome : Type}

/-! ## Bindings -/

/-- The world with another traveler bound, or with none. -/
def World.withAmbient (world : World Store) (ambient : Option Traveler) : World Store :=
  { world with context := { world.context with ambient } }

namespace Ambient

theorem traveler_apply (world : World Store) :
    (traveler world).1 = .ok (world.context.ambient.getD .standard) :=
  rfl

theorem restore_apply (binding : Binding) (world : World Store) :
    restore binding world =
      if world.context.identity = binding.context then
        (.ok (), world.withAmbient binding.previous)
      else (.error .foreignBinding, world) := by
  unfold restore
  rw [Run.world_bind]
  by_cases own : world.context.identity = binding.context
  · rw [if_pos own, if_pos own]
    rfl
  · rw [if_neg own, if_neg own]
    rfl

/-- A block that comes back to its own context is run with the traveler bound, and its outcome is
passed on with the binding undone. -/
theorem during_apply (traveler : Traveler) {block : Run Store Outcome} {world : World Store}
    (same : (block (world.withAmbient (some traveler))).2.context.identity =
      world.context.identity) :
    during traveler block world =
      ((block (world.withAmbient (some traveler))).1,
        (block (world.withAmbient (some traveler))).2.withAmbient world.context.ambient) := by
  have bound : (bind traveler : Run Store Binding) world =
      (.ok ⟨world.context.identity, world.context.ambient⟩,
        world.withAmbient (some traveler)) :=
    rfl
  unfold during
  rw [Run.bind_of_ok bound]
  refine Run.ensuring_of_ok rfl ?_
  rw [restore_apply, if_pos same]

end Ambient

namespace Session

/-- The traveler of the test case with its binding, once a step has asked for it. -/
def caseBinding (world : World Memory) : Option (Traveler × Ambient.Binding) :=
  world.memory.testCase.bind TestCase.bound

/-! ## What a session does to bindings -/

/-- The same context with the same traveler bound, and the test case as it was. -/
structure Untouched (before after : World Memory) : Prop where
  identity : after.context.identity = before.context.identity
  ambient : after.context.ambient = before.context.ambient
  testCase : after.memory.testCase = before.memory.testCase

/-- A test case gets its traveler and its binding: the traveler is the one that the case makes,
when it makes one. -/
structure TestCase.Asks (own : Option Traveler) (bound : Traveler × Ambient.Binding)
    (before after : Option TestCase) : Prop where
  unasked : before = some ⟨own, none⟩
  asked : after = some ⟨own, some bound⟩
  makes : ∀ made, own = some made → bound.1 = made

/-- What can become of the ambient traveler and the test case while a session is played. -/
inductive Takes (before after : World Memory) : Prop
  | untouched (same : Untouched before after)
  /-- The traveler of the case was asked for, and is ambient since. -/
  | here (own : Option Traveler) (traveler : Traveler)
      (identity : after.context.identity = before.context.identity)
      (asks : TestCase.Asks own
        (traveler, ⟨before.context.identity, before.context.ambient⟩)
        before.memory.testCase after.memory.testCase)
      (ambient : after.context.ambient = some traveler)
  /-- It was asked for within a block around which something else has put back its binding since,
  or in another context. -/
  | within (own : Option Traveler) (bound : Traveler × Ambient.Binding)
      (identity : after.context.identity = before.context.identity)
      (asks : TestCase.Asks own bound before.memory.testCase after.memory.testCase)
      (ambient : after.context.ambient = before.context.ambient)

namespace Takes

variable {before between after : World Memory} {own : Option Traveler}

theorem identity (takes : Takes before after) :
    after.context.identity = before.context.identity := by
  cases takes with
  | untouched same => exact same.identity
  | here own traveler identity _ _ => exact identity
  | within own bound identity _ _ => exact identity

/-- Once the traveler of the case is bound, nothing more is bound for it. -/
theorem untouched_of_asked {bound : Traveler × Ambient.Binding}
    (takes : Takes before after) (asked : before.memory.testCase = some ⟨own, some bound⟩) :
    Untouched before after := by
  cases takes with
  | untouched same => exact same
  | here _ _ _ asks _ => cases asked.symm.trans asks.unasked
  | within _ _ _ asks _ => cases asked.symm.trans asks.unasked

theorem trans (first : Takes before between) (second : Takes between after) :
    Takes before after := by
  cases first with
  | here own traveler identity asks ambient =>
      have same := second.untouched_of_asked asks.asked
      rw [← same.testCase] at asks
      exact .here own traveler (same.identity.trans identity) asks (same.ambient.trans ambient)
  | within own bound identity asks ambient =>
      have same := second.untouched_of_asked asks.asked
      rw [← same.testCase] at asks
      exact .within own bound (same.identity.trans identity) asks (same.ambient.trans ambient)
  | untouched same =>
      cases second with
      | untouched further =>
          exact .untouched ⟨further.identity.trans same.identity,
            further.ambient.trans same.ambient, further.testCase.trans same.testCase⟩
      | here own traveler identity asks ambient =>
          rw [same.testCase, same.identity, same.ambient] at asks
          exact .here own traveler (identity.trans same.identity) asks ambient
      | within own bound identity asks ambient =>
          rw [same.testCase] at asks
          exact .within own bound (identity.trans same.identity) asks
            (ambient.trans same.ambient)

/-- Unless the binding of the case itself has replaced it, the ambient traveler is as before. -/
theorem ambient_or (takes : Takes before after) :
    after.context.ambient = before.context.ambient ∨
      ∃ traveler, caseBinding after =
        some (traveler, ⟨before.context.identity, before.context.ambient⟩) := by
  cases takes with
  | untouched same => exact .inl same.ambient
  | within own bound _ _ ambient => exact .inl ambient
  | here own traveler _ asks _ =>
      refine .inr ⟨traveler, ?_⟩
      rw [caseBinding, asks.asked]
      rfl

/-- A case that makes a traveler of its own binds that one. -/
theorem makes {traveler made : Traveler} {binding : Ambient.Binding}
    (takes : Takes before after) (unasked : before.memory.testCase = some ⟨own, none⟩)
    (taken : caseBinding after = some (traveler, binding)) (owns : own = some made) :
    traveler = made := by
  have asks : ∀ {other bound},
      TestCase.Asks other bound before.memory.testCase after.memory.testCase →
      traveler = made := by
    intro other bound asks
    cases asks.unasked.symm.trans unasked
    rw [caseBinding, asks.asked] at taken
    cases taken
    exact asks.makes made owns
  cases takes with
  | here _ _ _ found _ => exact asks found
  | within _ _ _ found _ => exact asks found
  | untouched same =>
      rw [caseBinding, same.testCase, unasked] at taken
      cases taken

end Takes

theorem testCaseTraveler_apply (world : World Memory) :
    testCaseTraveler world =
      match world.memory.testCase with
      | none => (.error (.unknownName "case"), world)
      | some ⟨_, some (traveler, _)⟩ => (.ok traveler, world)
      | some ⟨own, none⟩ =>
        let traveler := own.getD (world.context.ambient.getD .standard)
        let binding : Ambient.Binding := ⟨world.context.identity, world.context.ambient⟩
        let memory := { world.memory with testCase := some ⟨own, some (traveler, binding)⟩ }
        (.ok traveler, { world.withAmbient (some traveler) with memory }) := by
  unfold testCaseTraveler
  rw [Run.bind_of_ok (rfl : currentMemory world = (.ok world.memory, world))]
  cases world.memory.testCase with
  | none => rfl
  | some testCase =>
      obtain ⟨own, bound⟩ := testCase
      cases bound with
      | some bound => rfl
      | none => cases own <;> rfl

theorem testCaseTraveler_takes : Run.Obeys Takes testCaseTraveler := by
  intro world
  rw [testCaseTraveler_apply]
  cases asked : world.memory.testCase with
  | none => exact .untouched ⟨rfl, rfl, rfl⟩
  | some testCase =>
      obtain ⟨own, bound⟩ := testCase
      cases bound with
      | some bound => exact .untouched ⟨rfl, rfl, rfl⟩
      | none =>
          refine .here own _ rfl ⟨asked, rfl, ?_⟩ rfl
          rintro made rfl
          rfl

/-- A block with a traveler bound puts its binding back, whoever asked for the traveler of the
case inside. -/
theorem during_takes (traveler : Traveler) {block : Run BlockRun}
    (takes : Run.Obeys Takes block) : Run.Obeys Takes (Ambient.during traveler block) := by
  intro world
  have inner := takes (world.withAmbient (some traveler))
  rw [Ambient.during_apply traveler inner.identity]
  cases inner with
  | untouched same => exact .untouched ⟨same.identity, rfl, same.testCase⟩
  | here own taken identity asks _ => exact .within own _ identity asks rfl
  | within own bound identity asks _ => exact .within own bound identity asks rfl

theorem inside_takes (context : Context) {block : Run BlockRun} (takes : Run.Obeys Takes block) :
    Run.Obeys Takes (inside context block) := by
  intro world
  have left : (inside context block world).2 =
      (block (world.withContext context)).2.withContext world.context :=
    rfl
  rw [left]
  cases takes (world.withContext context) with
  | untouched same => exact .untouched ⟨rfl, rfl, same.testCase⟩
  | here own taken _ asks _ => exact .within own _ rfl asks rfl
  | within own bound _ asks _ => exact .within own bound rfl asks rfl

theorem push_untouched (stack : StackKey) (anchor : Moment) :
    Run.Obeys Untouched (Stack.push stack anchor) := by
  intro world
  rw [Stack.push_apply]
  cases anchor.asAnchor world.system <;> exact ⟨rfl, rfl, rfl⟩

theorem pop_untouched (stack : StackKey) : Run.Obeys Untouched (Stack.pop stack) := by
  intro world
  rw [Stack.pop_apply]
  cases (world.entries stack).getLast? <;> exact ⟨rfl, rfl, rfl⟩

theorem truncate_untouched (stack : StackKey) (depth : Int) :
    Run.Obeys Untouched (Stack.truncate stack depth) := by
  intro world
  rw [Stack.truncate_apply]
  by_cases small : (world.entries stack).length ≤ depth.toNat
  · rw [if_pos small]
    exact ⟨rfl, rfl, rfl⟩
  · rw [if_neg small]
    exact ⟨rfl, rfl, rfl⟩

theorem setClock_untouched (clock : ClockKey) (reading : Value) :
    Run.Obeys Untouched (Clock.set clock reading) := by
  intro world
  obtain ⟨clocks, left⟩ := Clock.exists_set clock reading world
  rw [left]
  exact ⟨rfl, rfl, rfl⟩

theorem advanceClock_untouched (clock : ClockKey) (amount : Value) :
    Run.Obeys Untouched (Clock.advance clock amount) := by
  intro world
  obtain ⟨clocks, left⟩ := Clock.exists_advance clock amount world
  rw [left]
  exact ⟨rfl, rfl, rfl⟩

/-- To take the traveler of the case at most once, and else to leave bindings as they are, is a
law of sessions. -/
theorem isLaw_takes : IsLaw Takes where
  refl _ := .untouched ⟨rfl, rfl, rfl⟩
  trans := Takes.trans
  push stack anchor world := .untouched (push_untouched stack anchor world)
  pop stack world := .untouched (pop_untouched stack world)
  truncate stack depth world := .untouched (truncate_untouched stack depth world)
  mint _ _ _ := .untouched ⟨rfl, rfl, rfl⟩
  record _ _ _ := .untouched ⟨rfl, rfl, rfl⟩
  setClock clock reading world := .untouched (setClock_untouched clock reading world)
  advanceClock clock amount world := .untouched (advanceClock_untouched clock amount world)
  remember _ kept world := .untouched ⟨rfl, rfl, kept world.memory⟩
  testCaseTraveler := testCaseTraveler_takes
  during := during_takes
  inside := inside_takes

/-! ## Steps do not fail -/

/-- Faults of a step end up in its report, so the play itself always goes on. -/
theorem exists_reportOn (subject : Subject) (play : Option Traveler → Run Played)
    (world : World Memory) :
    ∃ report after, reportOn subject play world = (.ok report, after) := by
  unfold reportOn
  rw [Run.bind_of_ok (Run.attempt_apply _ world), Run.world_bind]
  cases (subjectTraveler subject world).1 with
  | error fault => exact ⟨_, _, rfl⟩
  | ok traveler =>
      simp only []
      rw [Run.bind_of_ok (Run.attempt_apply _ _)]
      cases traveler <;> exact ⟨_, _, rfl⟩

theorem exists_playStep [Atlas] (step : Step) (world : World Memory) :
    ∃ report after, playStep step world = (.ok report, after) := by
  cases step with
  | _ =>
      rw [playStep]
      exact exists_reportOn _ _ world

theorem exists_playBlock [Atlas] (steps : List Step) (ending : Ending) (world : World Memory) :
    ∃ played after, playBlock steps ending world = (.ok played, after) := by
  induction steps generalizing world with
  | nil => exact ⟨_, _, by rw [playBlock]; rfl⟩
  | cons step rest inductionHypothesis =>
      obtain ⟨report, left, stepped⟩ := exists_playStep step world
      obtain ⟨played, after, further⟩ := inductionHypothesis left
      have goesOn : ∃ played after, (do
          let after ← playBlock rest ending
          pure (⟨report :: after.reports, after.outcome⟩ : BlockRun)) left = (.ok played, after) :=
        ⟨_, after, Run.bind_of_ok further⟩
      rw [playBlock, Run.bind_of_ok stepped]
      cases report.outcome with
      | ok result => exact goesOn
      | error fault =>
          cases step.manner.passesOn with
          | false => exact goesOn
          | true => exact ⟨_, _, rfl⟩

/-! ## The cleanup -/

theorem exists_reset (traveler : Traveler) (world : World Memory) :
    ∃ removed left, traveler.reset world = (.ok removed, left) ∧
      left.entries traveler.stack = [] ∧ Untouched world left := by
  rw [Traveler.reset_apply]
  by_cases empty : world.entries traveler.stack = []
  · rw [if_pos empty]
    exact ⟨_, _, rfl, empty, rfl, rfl, rfl⟩
  · rw [if_neg empty]
    refine ⟨_, _, rfl, ?_, rfl, rfl, rfl⟩
    rw [World.entries_record, World.entries_withContext, Context.entries_cut_self, List.take_zero]

/-- The cleanup of a case that took its traveler empties the stack of the traveler, and undoes the
binding in the context where it was made. -/
theorem cleanUp_of_binding {world : World Memory} {traveler : Traveler}
    {binding : Ambient.Binding} (taken : caseBinding world = some (traveler, binding)) :
    ∃ unclean after, cleanUp world = (.ok unclean, after) ∧ after.entries traveler.stack = [] ∧
      after.memory.testCase = world.memory.testCase ∧
      after.context.ambient =
        if world.context.identity = binding.context then binding.previous
        else world.context.ambient := by
  obtain ⟨removed, left, emptied, empty, same⟩ := exists_reset traveler world
  have restored := Ambient.restore_apply binding left
  unfold cleanUp
  rw [Run.bind_of_ok (rfl : currentMemory world = (.ok world.memory, world))]
  unfold caseBinding at taken
  simp only [taken]
  rw [Run.bind_of_ok emptied, Run.bind_of_ok (Run.attempt_apply _ left), restored, same.identity]
  by_cases own : world.context.identity = binding.context
  · rw [if_pos own, if_pos own]
    exact ⟨_, _, rfl, empty, same.testCase, rfl⟩
  · rw [if_neg own, if_neg own]
    exact ⟨_, _, rfl, empty, same.testCase, same.ambient⟩

theorem cleanUp_of_unbound {world : World Memory} (untaken : caseBinding world = none) :
    cleanUp world = (.ok 0, world) := by
  unfold cleanUp
  rw [Run.bind_of_ok (rfl : currentMemory world = (.ok world.memory, world))]
  unfold caseBinding at untaken
  simp only [untaken]
  rfl

/-! ## The whole test -/

/-- The world as a test case begins: no step has asked for its traveler yet. -/
def caseBegun (own : Option Traveler) (world : World Memory) : World Memory :=
  { world with memory := { world.memory with testCase := some ⟨own, none⟩ } }

theorem playInTestCase_apply [Atlas] {own : Option Traveler} {steps : List Step}
    {world left after : World Memory} {played : BlockRun} {unclean : Nat}
    (ran : playSteps steps (caseBegun own world) = (.ok played, left))
    (cleaned : cleanUp left = (.ok unclean, after)) :
    ∃ errors, playInTestCase own steps world = (.ok (played, errors), after) := by
  have begun : modifyMemory (fun memory => { memory with testCase := some ⟨own, none⟩ }) world =
      (.ok (), caseBegun own world) :=
    rfl
  unfold playInTestCase
  rw [Run.bind_of_ok begun, Run.bind_of_ok ran]
  exact ⟨_, Run.bind_of_ok cleaned⟩

/-- To ask for the traveler of the case a second time changes nothing. -/
theorem exists_testCaseTraveler {own : Option Traveler} {world : World Memory}
    (unasked : world.memory.testCase = some ⟨own, none⟩) :
    ∃ traveler left, testCaseTraveler world = (.ok traveler, left) ∧
      testCaseTraveler left = (.ok traveler, left) ∧
      left.memory.testCase =
        some ⟨own, some (traveler, ⟨world.context.identity, world.context.ambient⟩)⟩ := by
  have first := testCaseTraveler_apply world
  rw [unasked] at first
  refine ⟨_, _, first, ?_, rfl⟩
  rw [testCaseTraveler_apply]

/-- A block whose first step addresses the traveler of the case asks for it before anything
else. -/
theorem playBlock_of_testCase [Atlas] {step : Step} (rest : List Step) (ending : Ending)
    {world left : World Memory} {traveler : Traveler}
    (addresses : step.manner.subject = .testCase)
    (first : testCaseTraveler world = (.ok traveler, left))
    (again : testCaseTraveler left = (.ok traveler, left)) :
    playBlock (step :: rest) ending world = playBlock (step :: rest) ending left := by
  have subject : ∀ start, testCaseTraveler start = (.ok traveler, left) →
      Run.attempt (subjectTraveler .testCase) start = (.ok (.ok (some traveler)), left) := by
    intro start settled
    rw [Run.attempt_apply, subjectTraveler, Run.bind_of_ok settled]
    rfl
  have reported : ∀ play, reportOn .testCase play world = reportOn .testCase play left := by
    intro play
    unfold reportOn
    rw [Run.bind_of_ok (subject world first), Run.bind_of_ok (subject left again)]
  have stepped : playStep step world = playStep step left := by
    cases step with
    | _ =>
        rw [playStep]
        unfold Step.manner at addresses
        rw [addresses]
        exact reported _
  obtain ⟨report, after, played⟩ := exists_playStep step left
  rw [playBlock, Run.bind_of_ok played, Run.bind_of_ok (stepped.trans played)]

/-- The binding of a case whose first step addresses its traveler replaces what was bound before. -/
theorem caseBinding_of_first_step [Atlas] {own : Option Traveler} {step : Step} {rest : List Step}
    {ending : Ending} {world left : World Memory} {played : BlockRun}
    (addresses : step.manner.subject = .testCase)
    (ran : playBlock (step :: rest) ending (caseBegun own world) = (.ok played, left)) :
    ∃ traveler, caseBinding left =
      some (traveler, ⟨world.context.identity, world.context.ambient⟩) := by
  obtain ⟨traveler, between, first, again, asked⟩ :=
    exists_testCaseTraveler (rfl : (caseBegun own world).memory.testCase = some ⟨own, none⟩)
  have further := isLaw_takes.playBlock (step :: rest) ending between
  rw [← playBlock_of_testCase rest ending addresses first again, ran] at further
  refine ⟨traveler, ?_⟩
  rw [caseBinding, (further.untouched_of_asked asked).testCase, asked]
  rfl

/-- What a test case leaves ambient in a world, by the binding that it has made in the end. -/
def ambientAfterCase (world : World Memory) :
    Option (Traveler × Ambient.Binding) → Option Traveler
  | none => world.context.ambient
  | some (_, binding) =>
    if binding.context = world.context.identity then binding.previous else world.context.ambient

/-- A test case always comes to its end, whatever its steps do. -/
theorem exists_playInTestCase [Atlas] (own : Option Traveler) (steps : List Step) (world : World Memory) :
    ∃ played errors left after,
      playBlock steps (.gives .nothing) (caseBegun own world) = (.ok played, left) ∧
      playInTestCase own steps world = (.ok (played, errors), after) ∧
      caseBinding after = caseBinding left ∧
      after.context.ambient = ambientAfterCase world (caseBinding left) ∧
      ∀ traveler binding, caseBinding left = some (traveler, binding) →
        after.entries traveler.stack = [] ∧ ∀ made, own = some made → traveler = made := by
  obtain ⟨played, left, ran⟩ := exists_playBlock steps (.gives .nothing) (caseBegun own world)
  have takes : Takes (caseBegun own world) left := by
    have obeyed := isLaw_takes.playBlock steps (.gives .nothing) (caseBegun own world)
    rwa [ran] at obeyed
  have identity : left.context.identity = world.context.identity := takes.identity
  have unlessBound : left.context.ambient = world.context.ambient ∨
      ∃ traveler, caseBinding left =
        some (traveler, ⟨world.context.identity, world.context.ambient⟩) :=
    takes.ambient_or
  cases taken : caseBinding left with
  | none =>
      obtain ⟨errors, whole⟩ := playInTestCase_apply ran (cleanUp_of_unbound taken)
      refine ⟨played, errors, left, left, ran, whole, rfl, ?_, ?_⟩
      · simpa [taken, ambientAfterCase] using unlessBound
      · simp [taken]
  | some bound =>
      obtain ⟨traveler, binding⟩ := bound
      obtain ⟨unclean, after, cleaned, empty, kept, ambient⟩ := cleanUp_of_binding taken
      obtain ⟨errors, whole⟩ := playInTestCase_apply ran cleaned
      refine ⟨played, errors, left, after, ran, whole, ?_, ?_, ?_⟩
      · rw [caseBinding, kept]
        rfl
      · rw [ambient, identity, taken, ambientAfterCase]
        by_cases own : binding.context = world.context.identity
        · rw [if_pos own, if_pos own.symm]
        · rw [if_neg own, if_neg (Ne.symm own)]
          -- a binding that is ambient still would have been made in this context
          rcases unlessBound with same | ⟨_, bound⟩
          · exact same
          · rw [taken] at bound
            cases bound
            exact absurd rfl own
      · intro taken' binding' bound
        rw [taken] at bound
        cases bound
        exact ⟨empty, fun _ owns => takes.makes rfl taken owns⟩

/-- The binding was made in the context of the world, while another traveler was ambient there
than in the world. -/
def CoversAnother (binding : Ambient.Binding) (world : World Memory) : Prop :=
  binding.context = world.context.identity ∧
    binding.previous.getD .standard ≠ world.context.ambient.getD .standard

/-- At the end of a test case the stack of its traveler is empty, and the traveler from before the
test is ambient again exactly when the case did not ask for its own while another one was ambient;
in that case the other one stays.  A test whose first step asks for the traveler of the case binds
it over the one from before, and so is always safe. -/
theorem test_case_restores_ambient_iff [Atlas] (own : Option Traveler) (steps : List Step)
    (world : World Memory) :
    ∃ played errors after,
      playInTestCase own steps world = (.ok (played, errors), after) ∧
      (∀ traveler binding, caseBinding after = some (traveler, binding) →
        (∀ made, own = some made → traveler = made) ∧ after.entries traveler.stack = [] ∧
        (CoversAnother binding world →
          (Ambient.traveler after).1 = .ok (binding.previous.getD .standard))) ∧
      ((Ambient.traveler after).1 = (Ambient.traveler world).1 ↔
        ∀ traveler binding, caseBinding after = some (traveler, binding) →
          ¬CoversAnother binding world) ∧
      (∀ step rest, steps = step :: rest → step.manner.subject = .testCase →
        (Ambient.traveler after).1 = (Ambient.traveler world).1 ∧
        ∃ traveler, caseBinding after =
          some (traveler, ⟨world.context.identity, world.context.ambient⟩)) := by
  obtain ⟨played, errors, left, after, ran, whole, still, ambient, emptied⟩ :=
    exists_playInTestCase own steps world
  have law : (Ambient.traveler after).1 = (Ambient.traveler world).1 ↔
      ∀ traveler binding, caseBinding after = some (traveler, binding) →
        ¬CoversAnother binding world := by
    rw [Ambient.traveler_apply, Ambient.traveler_apply, ambient, still]
    cases caseBinding left with
    | none => simp [ambientAfterCase]
    | some bound =>
        obtain ⟨traveler, binding⟩ := bound
        by_cases here : binding.context = world.context.identity
        · simp [ambientAfterCase, CoversAnother, here]
        · simp [ambientAfterCase, CoversAnother, here]
  refine ⟨played, errors, after, whole, ?_, law, ?_⟩
  · intro traveler binding bound
    rw [still] at bound
    obtain ⟨empty, makes⟩ := emptied traveler binding bound
    refine ⟨makes, empty, fun covers => ?_⟩
    rw [Ambient.traveler_apply, ambient, bound, ambientAfterCase, if_pos covers.1]
  · rintro step rest rfl addresses
    obtain ⟨taken, found⟩ := caseBinding_of_first_step addresses ran
    rw [← still] at found
    refine ⟨law.mpr ?_, taken, found⟩
    intro traveler binding bound covers
    rw [found] at bound
    cases bound
    exact covers.2 rfl

/-! ### A traveler that outlives its block -/

/-- The traveler that a block binds around the first step that asks for the one of the case. -/
def outerTraveler : Traveler := ⟨2, 2, none⟩

/-- A world in which the block finds its traveler under a name. -/
def lateCaseWorld : World Memory :=
  let world := emptyWorld ⟨.utc, [], none, .testCase, []⟩
  { world with memory := { world.memory with travelers := [("other", outerTraveler)] } }

/-- The case asks for its traveler within the block alone. -/
def lateSteps : List Step :=
  [.binding ⟨.nobody, false⟩ (.named "other") [.act ⟨.testCase, false⟩ .travelBack]
    (.gives .nothing)]

/-- After the cleanup the traveler of the block is ambient, though no traveler was bound before the
test and the block has ended. -/
theorem block_traveler_outlives_case :
    ∃ played errors after,
      playInTestCase (some hourEast) lateSteps lateCaseWorld = (.ok (played, errors), after) ∧
      (Ambient.traveler lateCaseWorld).1 = .ok .standard ∧
      (Ambient.traveler after).1 = .ok outerTraveler ∧ outerTraveler ≠ .standard :=
  ⟨_, _, _, rfl, rfl, rfl, by decide⟩

end Session

end VirtualClock

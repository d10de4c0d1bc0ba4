import Mathlib.Data.List.Induction
import VirtualClock.Proofs.ScopedTravel

/-!
# What the journal accounts for

Every record of the journal adds something to the depth of its stack or takes something off
it.  An operation that goes through a traveler writes no record and leaves all stacks alone, or
writes one record that tells what it did to its own stack.

Over a run that began with empty stacks the records of a stack therefore add up to its depth, at
every point of the run.  A travel with a body and a block within a scope come to the operations
that they are made of, whatever faults there are on the way.
-/

namespace VirtualClock

open Session (Departure depart)

variable {Memory Result : Type}

/-! ## Records -/

namespace TravelEvent

/-- What the event adds to the depth of its stack. -/
def change : TravelEvent → Int
  | .installed _ _ => 1
  | .nothingToRevert => 0
  | .reverted _ _ => -1
  | .closed _ removed => -removed
  | .cleared removed => -removed

/-- The event tells what happened to a stack: which override came or went, how many were removed,
and the depth that the stack has then. -/
inductive Tells : TravelEvent → List Override → List Override → Prop where
  | installed (before : List Override) (override : Override) :
      Tells (.installed override.anchor (before ++ [override]).length) before
        (before ++ [override])
  | nothingToRevert : Tells .nothingToRevert [] []
  | reverted (after : List Override) (override : Override) :
      Tells (.reverted override.anchor after.length) (after ++ [override]) after
  | closed (anchor : Moment) (below above : List Override) :
      above ≠ [] → Tells (.closed anchor above.length) (below ++ above) below
  | cleared {before : List Override} : before ≠ [] → Tells (.cleared before.length) before []

theorem Tells.length_eq {event : TravelEvent} {before after : List Override}
    (tells : event.Tells before after) : (after.length : Int) = before.length + event.change := by
  cases tells with
  | installed before override => simp [change]
  | nothingToRevert => rfl
  | reverted after override =>
      simp only [change, List.length_append, List.length_singleton]
      omega
  | closed anchor below above some =>
      simp only [change, List.length_append]
      omega
  | cleared some =>
      simp only [change, List.length_nil]
      omega

/-- The wording that fits what happened to a stack. -/
def wording (event : TravelEvent) (before after : List Override) : String :=
  match event with
  | .installed anchor _ =>
    "Time override installed at " ++ anchor.isoText ++ " (depth=" ++ toString after.length ++ ")"
  | .nothingToRevert => "No time override to revert"
  | .reverted anchor _ =>
    "Time override at " ++ anchor.isoText ++ " reverted (depth=" ++ toString after.length ++ ")"
  | .closed anchor _ =>
    "Travel scope at " ++ anchor.isoText ++ " closed (" ++
      toString (before.length - after.length) ++ " override(s) removed)"
  | .cleared _ => "Reset " ++ toString before.length ++ " time override(s)"

theorem Tells.message_eq {event : TravelEvent} {before after : List Override}
    (tells : event.Tells before after) : event.message = event.wording before after := by
  unfold message wording
  cases tells with
  | closed anchor below above some =>
      dsimp only
      rw [List.length_append, Nat.add_sub_cancel_left]
  | _ => exact rfl

end TravelEvent

/-- What the entry adds to the depth of a stack. -/
def JournalEntry.change (entry : JournalEntry) (stack : StackKey) : Int :=
  if entry.stack = stack then entry.event.change else 0

/-- What the records add to the depth of a stack, all in all. -/
def journalBalance (stack : StackKey) : List JournalEntry → Int
  | [] => 0
  | entry :: rest => entry.change stack + journalBalance stack rest

@[simp]
theorem journalBalance_nil (stack : StackKey) : journalBalance stack [] = 0 :=
  rfl

theorem journalBalance_concat (stack : StackKey) (records : List JournalEntry)
    (entry : JournalEntry) :
    journalBalance stack (records ++ [entry]) =
      journalBalance stack records + entry.change stack := by
  induction records with
  | nil => exact Int.add_comm (entry.change stack) 0
  | cons first rest inductionHypothesis =>
      rw [List.cons_append, journalBalance, inductionHypothesis, journalBalance]
      omega

/-! ## One operation -/

/-- The operation leaves the stacks to the travelers. -/
def Operation.GoesThroughTravelers : Operation Memory → Prop
  | .push _ _ | .pop _ | .truncate _ _ => False
  | .elsewhere change => ∀ world, (change world).journal = world.journal
  | _ => True

/-- The entry tells what happened between two worlds to its stack, and nothing happened to any
other. -/
structure JournalEntry.Accounts (entry : JournalEntry) (before after : World Memory) : Prop where
  tells : entry.event.Tells (before.entries entry.stack) (after.entries entry.stack)
  message : entry.event.message =
    entry.event.wording (before.entries entry.stack) (after.entries entry.stack)
  others : ∀ stack, stack ≠ entry.stack → after.entries stack = before.entries stack

/-- The later world has one more record, which accounts for what happened to the stacks, or it
has the same records and the same stacks. -/
inductive World.IsAccounted (before after : World Memory) : Prop where
  | silent : after.journal = before.journal →
      (∀ stack, after.entries stack = before.entries stack) → IsAccounted before after
  | recorded (entry : JournalEntry) : after.journal = before.journal ++ [entry] →
      entry.Accounts before after → IsAccounted before after

namespace World.IsAccounted

theorem refl (world : World Memory) : world.IsAccounted world :=
  .silent rfl fun _ => rfl

/-- The record is about the stack that was set. -/
theorem of_withEntries {world : World Memory} {context : Context} {stack : StackKey}
    {entries : List Override} {event : TravelEvent}
    (set : ∀ other, context.entries other =
      if other = stack then entries else world.entries other)
    (tells : event.Tells (world.entries stack) entries) :
    world.IsAccounted ((world.withContext context).record stack event) := by
  have own : ((world.withContext context).record stack event).entries stack = entries :=
    (set stack).trans (if_pos rfl)
  refine .recorded ⟨stack, event⟩ rfl ⟨?_, ?_, fun other different => ?_⟩
  · rw [own]
    exact tells
  · rw [own]
    exact tells.message_eq
  · exact (set other).trans (if_neg different)

end World.IsAccounted

/-- An override that is found on a stack has an index below its top. -/
theorem Override.depth_lt_of_isInstalled {override : Override} {entries : List Override}
    (installed : override.isInstalled entries = .ok true) :
    override.depth.toNat < entries.length := by
  unfold isInstalled at installed
  dsimp only at installed
  by_cases beyond : (entries.length : Int) ≤ override.depth
  · rw [if_pos beyond] at installed
    cases installed
  · rw [if_neg beyond] at installed
    by_cases outside : (if override.depth < 0 then override.depth + entries.length
        else override.depth) < 0
    · rw [if_pos outside] at installed
      cases installed
    · split at outside <;> omega

namespace Traveler

variable (traveler : Traveler) (world : World Memory)

theorem pinned_isAccounted (anchor : Moment) :
    world.IsAccounted (traveler.pinned anchor world) := by
  refine .of_withEntries (world.context.entries_pushed traveler.stack · anchor) ?_
  have tells := TravelEvent.Tells.installed (world.entries traveler.stack)
    (traveler.nextScope anchor world).override
  rw [List.length_append] at tells
  exact tells

theorem depart_absent_isAccounted (departure : Departure) :
    world.IsAccounted
      (depart traveler departure (.absent : TravelBody Memory Result) world).2 := by
  rw [depart_absent_apply]
  cases (traveler.destination departure world).1 with
  | error fault => exact .refl world
  | ok anchor => exact traveler.pinned_isAccounted world anchor

theorem install_isAccounted (anchor : Moment) :
    world.IsAccounted (traveler.install anchor world).2 := by
  rw [install_apply]
  cases anchor.asAnchor world.system with
  | error fault => exact .refl world
  | ok pinned => exact traveler.pinned_isAccounted world pinned

theorem revert_isAccounted : world.IsAccounted (traveler.revert world).2 := by
  rw [revert_apply]
  cases top : (world.entries traveler.stack).getLast? with
  | none =>
      have empty := List.getLast?_eq_none_iff.mp top
      have tells : TravelEvent.nothingToRevert.Tells (world.entries traveler.stack)
          (world.entries traveler.stack) := by
        rw [empty]
        exact .nothingToRevert
      exact .recorded ⟨traveler.stack, .nothingToRevert⟩ rfl ⟨tells, rfl, fun _ _ => rfl⟩
  | some override =>
      obtain ⟨below, split⟩ := List.getLast?_eq_some_iff.mp top
      refine .of_withEntries (world.context.entries_cut traveler.stack · _) ?_
      rw [← World.entries_eq, split, List.length_append, List.length_singleton,
        Nat.add_sub_cancel, List.take_left]
      exact .reverted below override

theorem reset_isAccounted : world.IsAccounted (traveler.reset world).2 := by
  rw [reset_apply]
  by_cases empty : world.entries traveler.stack = []
  · rw [if_pos empty]
    exact .refl world
  · rw [if_neg empty]
    refine .of_withEntries (world.context.entries_cut traveler.stack · 0) ?_
    exact .cleared empty

/-- A release takes off at least the override that it found. -/
theorem release_isAccounted (override : Override) :
    world.IsAccounted (traveler.release override world).2 := by
  rw [release_apply]
  cases installed : override.isInstalled (world.entries traveler.stack) with
  | error fault => exact .refl world
  | ok found =>
      cases found with
      | false => exact .refl world
      | true =>
          have inside := Override.depth_lt_of_isInstalled installed
          simp only [if_neg (Nat.not_le.mpr inside)]
          refine .of_withEntries (world.context.entries_cut traveler.stack · _) ?_
          have some : (world.entries traveler.stack).drop override.depth.toNat ≠ [] := by
            rw [ne_eq, List.drop_eq_nil_iff]
            omega
          have tells := TravelEvent.Tells.closed override.anchor
            ((world.entries traveler.stack).take override.depth.toNat) _ some
          rw [List.take_append_drop, List.length_drop] at tells
          exact tells

end Traveler

theorem Ambient.restore_isAccounted (binding : Binding) (world : World Memory) :
    world.IsAccounted (restore binding world).2 := by
  unfold restore
  rw [Run.world_bind]
  by_cases own : world.context.identity = binding.context
  · rw [if_pos own, Run.modifyWorld_apply]
    exact .silent rfl fun _ => rfl
  · rw [if_neg own, Run.fail_apply]
    exact .refl world

/-- Whatever the operation and its outcome, the journal accounts for what it did to the stacks. -/
theorem Operation.perform_isAccounted {operation : Operation Memory}
    (travels : operation.GoesThroughTravelers) (world : World Memory) :
    world.IsAccounted (operation.perform world).2 := by
  cases operation with
  | install traveler anchor =>
      rw [perform, Run.bind_pure_world]
      exact traveler.install_isAccounted world anchor
  | depart traveler departure =>
      rw [perform, Run.bind_pure_world]
      exact traveler.depart_absent_isAccounted world departure
  | revert traveler =>
      rw [perform, Run.bind_pure_world]
      exact traveler.revert_isAccounted world
  | travelBack traveler =>
      rw [perform, Run.bind_pure_world, Traveler.travelBack, Run.bind_pure_world]
      exact traveler.revert_isAccounted world
  | reset traveler =>
      rw [perform, Run.bind_pure_world]
      exact traveler.reset_isAccounted world
  | close scope =>
      rw [perform, Run.bind_pure_world]
      exact scope.traveler.release_isAccounted world scope.override
  | push stack anchor => exact absurd travels id
  | pop stack => exact absurd travels id
  | truncate stack depth => exact absurd travels id
  | mint anchor depth => exact .silent rfl fun _ => rfl
  | bind traveler => exact .silent rfl fun _ => rfl
  | restore binding =>
      rw [perform, Run.bind_pure_world]
      exact Ambient.restore_isAccounted binding world
  | setClock clock reading =>
      obtain ⟨clocks, left⟩ := Clock.exists_set clock reading world
      rw [perform, Run.bind_pure_world, left]
      exact .silent rfl fun _ => rfl
  | advanceClock clock amount =>
      obtain ⟨clocks, left⟩ := Clock.exists_advance clock amount world
      rw [perform, Run.bind_pure_world, left]
      exact .silent rfl fun _ => rfl
  | elsewhere change => exact .silent (travels world) fun _ => rfl

/-! ## Rows of operations -/

/-- The records that a row of operations has written add up to the change of every stack, and
none of their beginnings takes more off a stack than was on it. -/
theorem World.exists_records_after {start : World Memory} {operations : List (Operation Memory)}
    (travels : ∀ operation ∈ operations, operation.GoesThroughTravelers) :
    ∃ records, (start.after operations).journal = start.journal ++ records ∧
      ∀ stack,
        (((start.after operations).entries stack).length : Int) =
          (start.entries stack).length + journalBalance stack records ∧
        ∀ earlier, earlier <+: records →
          0 ≤ (start.entries stack).length + journalBalance stack earlier := by
  -- from the end: what is new is the last operation and with it at most the last record
  induction operations using List.reverseRecOn with
  | nil =>
      refine ⟨[], (List.append_nil _).symm, fun stack => ⟨by simp [World.after], ?_⟩⟩
      intro earlier begins
      rw [List.prefix_nil.mp begins, journalBalance_nil]
      omega
  | append_singleton operations last inductionHypothesis =>
      obtain ⟨records, written, balanced⟩ := inductionHypothesis fun operation member =>
        travels operation (List.mem_append_left [last] member)
      have goes := travels last (by simp)
      have arrived : start.after (operations ++ [last]) =
          (last.perform (start.after operations)).2 :=
        start.after_append operations [last]
      rw [arrived]
      cases last.perform_isAccounted goes (start.after operations) with
      | silent same stays =>
          refine ⟨records, same.trans written, fun stack => ?_⟩
          rw [stays]
          exact balanced stack
      | recorded entry grows accounts =>
          refine ⟨records ++ [entry], ?_, fun stack => ?_⟩
          · rw [grows, written, List.append_assoc]
          obtain ⟨total, beginnings⟩ := balanced stack
          have grown : (((last.perform (start.after operations)).2.entries stack).length : Int) =
              (start.entries stack).length + journalBalance stack (records ++ [entry]) := by
            rw [journalBalance_concat, JournalEntry.change]
            by_cases own : entry.stack = stack
            · subst own
              rw [if_pos rfl, accounts.tells.length_eq, total]
              omega
            · rw [if_neg own, accounts.others stack (fun same => own same.symm), total]
              omega
          refine ⟨grown, fun earlier begins => ?_⟩
          rcases List.prefix_concat_iff.mp begins with rfl | earlierBegins
          · rw [← grown]
            exact Int.natCast_nonneg _
          · exact beginnings earlier earlierBegins

/-! ## Runs -/

/-- A run does some operations, one after the other.  A travel with a body and a block within a
scope contain a run of their own, between the opening and the closing. -/
inductive World.Performs : World Memory → List (Operation Memory) → World Memory → Prop where
  | still (world : World Memory) : Performs world [] world
  | operation {start now : World Memory} {done : List (Operation Memory)}
      {operation : Operation Memory} : Performs start done now →
      operation.GoesThroughTravelers →
      Performs start (done ++ [operation]) (operation.perform now).2
  | call {start now : World Memory} {done inner : List (Operation Memory)} {traveler : Traveler}
      {departure : Departure} {opened : TravelScope × Moment} {Result : Type}
      (body : Run Memory Result) : Performs start done now →
      (traveler.opening departure now).1 = .ok opened →
      Performs (traveler.opening departure now).2 inner
        (body (traveler.opening departure now).2).2 →
      Performs start (done ++ [.depart traveler departure] ++ inner ++ [.close opened.1])
        (depart traveler departure (.run body) now).2
  /-- The body does not begin. -/
  | refusedCall {start now : World Memory} {done : List (Operation Memory)} {traveler : Traveler}
      {departure : Departure} {fault : Fault} {Result : Type} (body : Run Memory Result) :
      Performs start done now → (traveler.opening departure now).1 = .error fault →
      Performs start (done ++ [.depart traveler departure])
        (depart traveler departure (.run body) now).2
  /-- The body is nothing that can be called. -/
  | emptyCall {start now : World Memory} {done : List (Operation Memory)} (traveler : Traveler)
      (departure : Departure) (found : String) (Result : Type) : Performs start done now →
      Performs start done
        (depart traveler departure (.notCallable found : TravelBody Memory Result) now).2
  | block {start now : World Memory} {done inner : List (Operation Memory)} {scope : TravelScope}
      {shown : Moment} {Result : Type} (block : Moment → Run Memory Result) :
      Performs start done now → (scope.anchor now).1 = .ok shown →
      Performs now inner (block shown now).2 →
      Performs start (done ++ inner ++ [.close scope]) (scope.within block now).2
  /-- The block does not begin. -/
  | refusedBlock {start now : World Memory} {done : List (Operation Memory)}
      {scope : TravelScope} {fault : Fault} {Result : Type} (block : Moment → Run Memory Result) :
      Performs start done now → (scope.anchor now).1 = .error fault →
      Performs start done (scope.within block now).2

/-- Opening a region does to the world what the explicit travel does. -/
theorem Traveler.opening_world (traveler : Traveler) (departure : Departure)
    (world : World Memory) :
    (traveler.opening departure world).2 =
      ((Operation.depart traveler departure).perform world).2 := by
  rw [Operation.perform, Run.bind_pure_world, depart_absent_apply]
  cases led : (traveler.destination departure world).1 with
  | error fault =>
      rw [opening, Run.bind_of_error (destination_apply led)]
  | ok anchor =>
      rw [opening_of_destination led]

theorem Traveler.depart_notCallable_world (traveler : Traveler) (departure : Departure)
    (found : String) (world : World Memory) :
    (depart traveler departure (.notCallable found : TravelBody Memory Result) world).2 =
      world := by
  rw [depart_eq]
  cases led : (traveler.destination departure world).1 with
  | error fault => rw [Run.bind_of_error (destination_apply led)]
  | ok anchor =>
      rw [Run.bind_of_ok (destination_apply led)]
      rfl

theorem Operation.close_world (scope : TravelScope) (world : World Memory) :
    ((Operation.close scope).perform world).2 = (scope.close world).2 :=
  Run.bind_pure_world _ _ world

/-- A call whose body begins ends with the closing of its scope. -/
theorem Traveler.depart_run_world {traveler : Traveler} {departure : Departure}
    {world : World Memory} {opened : TravelScope × Moment} (body : Run Memory Result)
    (began : (traveler.opening departure world).1 = .ok opened) :
    (depart traveler departure (.run body) world).2 =
      ((Operation.close opened.1).perform (body (traveler.opening departure world).2).2).2 := by
  have whole : traveler.opening departure world =
      (.ok opened, (traveler.opening departure world).2) :=
    Prod.ext began rfl
  rw [depart_run_eq, Run.bind_of_ok whole, Run.bind_pure_world, Run.ensuring_world,
    Operation.close_world]

theorem Traveler.depart_run_world_of_error {traveler : Traveler} {departure : Departure}
    {world : World Memory} {fault : Fault} (body : Run Memory Result)
    (refused : (traveler.opening departure world).1 = .error fault) :
    (depart traveler departure (.run body) world).2 = (traveler.opening departure world).2 := by
  have whole : traveler.opening departure world =
      (.error fault, (traveler.opening departure world).2) :=
    Prod.ext refused rfl
  rw [depart_run_eq, Run.bind_of_error whole]

theorem TravelScope.within_world {scope : TravelScope} {world : World Memory} {shown : Moment}
    (block : Moment → Run Memory Result) (began : (scope.anchor world).1 = .ok shown) :
    (scope.within block world).2 =
      ((Operation.close scope).perform (block shown world).2).2 := by
  have whole := scope.anchor_onlyReads.apply world
  rw [began] at whole
  rw [within, Run.bind_of_ok whole, Run.ensuring_world, Operation.close_world]

theorem TravelScope.within_world_of_error {scope : TravelScope} {world : World Memory}
    {fault : Fault} (block : Moment → Run Memory Result)
    (refused : (scope.anchor world).1 = .error fault) : (scope.within block world).2 = world := by
  have whole := scope.anchor_onlyReads.apply world
  rw [refused] at whole
  rw [within, Run.bind_of_error whole]

/-- Calls and blocks come to their operations. -/
theorem World.Performs.after_eq {start now : World Memory} {operations : List (Operation Memory)}
    (run : start.Performs operations now) :
    start.after operations = now ∧
      ∀ operation ∈ operations, operation.GoesThroughTravelers := by
  induction run with
  | still world => exact ⟨rfl, List.forall_mem_nil _⟩
  | operation run goes inductionHypothesis =>
      obtain ⟨arrived, travels⟩ := inductionHypothesis
      rw [World.after_append, arrived]
      refine ⟨rfl, List.forall_mem_append.mpr ⟨travels, ?_⟩⟩
      exact List.forall_mem_singleton.mpr goes
  | call body run began inner inductionHypothesis innerHypothesis =>
      obtain ⟨arrived, travels⟩ := inductionHypothesis
      obtain ⟨left, innerTravels⟩ := innerHypothesis
      rw [Traveler.opening_world] at left
      constructor
      · rw [World.after_append, World.after_append, World.after_append, arrived,
          Traveler.depart_run_world body began, Traveler.opening_world, ← left]
        rfl
      · refine List.forall_mem_append.mpr ⟨List.forall_mem_append.mpr ⟨?_, innerTravels⟩, ?_⟩
        · exact List.forall_mem_append.mpr ⟨travels, List.forall_mem_singleton.mpr trivial⟩
        · exact List.forall_mem_singleton.mpr trivial
  | refusedCall body run refused inductionHypothesis =>
      obtain ⟨arrived, travels⟩ := inductionHypothesis
      constructor
      · rw [World.after_append, arrived, Traveler.depart_run_world_of_error body refused,
          Traveler.opening_world]
        rfl
      · exact List.forall_mem_append.mpr ⟨travels, List.forall_mem_singleton.mpr trivial⟩
  | emptyCall traveler departure found Result run inductionHypothesis =>
      rw [traveler.depart_notCallable_world departure found]
      exact inductionHypothesis
  | block block run began inner inductionHypothesis innerHypothesis =>
      obtain ⟨arrived, travels⟩ := inductionHypothesis
      obtain ⟨left, innerTravels⟩ := innerHypothesis
      constructor
      · rw [World.after_append, World.after_append, arrived, left,
          TravelScope.within_world block began]
        rfl
      · refine List.forall_mem_append.mpr ⟨?_, List.forall_mem_singleton.mpr trivial⟩
        exact List.forall_mem_append.mpr ⟨travels, innerTravels⟩
  | refusedBlock block run refused inductionHypothesis =>
      rw [TravelScope.within_world_of_error block refused]
      exact inductionHypothesis

/-- Over a run that begins with empty stacks the journal accounts for every override: after each
of its operations the records of a stack add up to the depth of the stack, none of their
beginnings adds up to less than nothing, and the next operation either writes nothing and leaves
the stacks alone or writes one record, which tells what it does to its own stack. -/
theorem journal_accounts_for_every_override {start now : World Memory}
    {operations : List (Operation Memory)} (run : start.Performs operations now)
    (empty : ∀ stack, start.entries stack = []) :
    start.after operations = now ∧
    ∀ done left, operations = done ++ left →
      (∃ records, (start.after done).journal = start.journal ++ records ∧
        ∀ stack, journalBalance stack records = ((start.after done).entries stack).length ∧
          ∀ earlier, earlier <+: records → 0 ≤ journalBalance stack earlier) ∧
      ∀ next ∈ left.head?, (start.after done).IsAccounted (next.perform (start.after done)).2 := by
  obtain ⟨arrived, travels⟩ := run.after_eq
  refine ⟨arrived, ?_⟩
  rintro done left rfl
  obtain ⟨doneTravels, leftTravels⟩ := List.forall_mem_append.mp travels
  constructor
  · obtain ⟨records, written, balanced⟩ := World.exists_records_after doneTravels
    refine ⟨records, written, fun stack => ?_⟩
    obtain ⟨total, beginnings⟩ := balanced stack
    rw [empty stack, List.length_nil] at total beginnings
    refine ⟨by omega, fun earlier begins => ?_⟩
    have nonneg := beginnings earlier begins
    omega
  · intro next first
    have member : next ∈ left := List.mem_of_mem_head? first
    exact Operation.perform_isAccounted (leftTravels next member) (start.after done)

/-- A world in which nothing has happened yet. -/
def untouchedWorld : World Unit := World.start .utc [] ()

/-- A body that travels once more, lets everything be reset and then fails: the journal has two
installs and the reset of both, and nothing about the two scopes that are closed after it. -/
theorem journal_accounts_for_resettingBody :
    ∃ operations now, untouchedWorld.Performs operations now ∧
      depart hourEast .stop (.run resettingBody) untouchedWorld = (.error .notANumber, now) ∧
      now.journal.map JournalEntry.event =
        [.installed defaultReading.wholeSecond 1, .installed defaultReading.wholeSecond 2,
          .cleared 2] ∧
      ∀ stack, journalBalance stack now.journal = (now.entries stack).length := by
  obtain ⟨opened, began⟩ : ∃ opened, (hourEast.opening .stop untouchedWorld).1 = .ok opened :=
    ⟨_, rfl⟩
  obtain ⟨entered, there⟩ : ∃ entered, entered = (hourEast.opening .stop untouchedWorld).2 :=
    ⟨_, rfl⟩
  obtain ⟨inside, beganInside⟩ : ∃ inside, (hourEast.opening .stop entered).1 = .ok inside := by
    rw [there]
    exact ⟨_, rfl⟩
  have resets : (hourEast.opening .stop entered).2.Performs ([] ++ [.reset hourEast])
      (Run.attempt hourEast.reset (hourEast.opening .stop entered).2).2 := by
    have run : (hourEast.opening .stop entered).2.Performs ([] ++ [.reset hourEast]) _ :=
      .operation (.still _) trivial
    rw [Operation.perform, Run.bind_pure_world] at run
    exact run
  have travels := World.Performs.call _ (.still entered) beganInside resets
  have fails : (resettingBody entered).2 =
      (depart hourEast .stop (.run (Run.attempt hourEast.reset)) entered).2 := by
    rw [there]
    rfl
  rw [← fails, there] at travels
  have run := World.Performs.call resettingBody (.still untouchedWorld) began travels
  obtain ⟨arrived, accounts⟩ := journal_accounts_for_every_override run fun _ => rfl
  obtain ⟨⟨records, written, balanced⟩, -⟩ := accounts _ [] (List.append_nil _).symm
  rw [arrived] at written balanced
  refine ⟨_, _, run, rfl, rfl, fun stack => ?_⟩
  rw [written]
  exact (balanced stack).1

end VirtualClock

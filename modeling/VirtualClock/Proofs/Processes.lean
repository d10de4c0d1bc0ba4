import VirtualClock.Proofs.Contexts

/-!
# Processes

The contexts of a process share the clocks, the journal and the memory of the
program.  Operations take place in one context at a time, in any order, and what a
program does comes to operations in its context.
-/

namespace VirtualClock

variable {Memory Result : Type}

structure Process (Memory : Type) where
  system : ZoneRule
  clocks : List (ClockKey × Moment)
  journal : List JournalEntry
  memory : Memory
  contexts : List Context

/-- What can happen in a process. -/
inductive Process.Event (Memory : Type) where
  | operate (index : Nat) (operation : Operation Memory)
  /-- A new context with what another one holds. -/
  | copy (index : Nat)
  /-- A new context that is empty. -/
  | thread

namespace Process

/-- The process before anything has happened. -/
def start (system : ZoneRule) (clocks : List (ClockKey × Moment)) (memory : Memory) :
    Process Memory :=
  ⟨system, clocks, [], memory, [Context.empty 0]⟩

/-- The world as the program sees it in a context. -/
def view (process : Process Memory) (context : Context) : World Memory :=
  ⟨process.system, process.clocks, context, process.journal, process.memory⟩

/-- The process once a world is left in one of its contexts. -/
def leave (process : Process Memory) (index : Nat) (world : World Memory) : Process Memory :=
  ⟨world.system, world.clocks, world.journal, world.memory,
    process.contexts.set index world.context⟩

/-- An event in a context that is not there does nothing. -/
def step (process : Process Memory) : Event Memory → Process Memory
  | .operate index operation =>
    match process.contexts[index]? with
    | some context => process.leave index (operation.perform (process.view context)).2
    | none => process
  | .copy index =>
    match process.contexts[index]? with
    | some context =>
      { process with contexts := process.contexts ++ [context.copy process.contexts.length] }
    | none => process
  | .thread =>
    { process with contexts := process.contexts ++ [Context.empty process.contexts.length] }

def after (process : Process Memory) : List (Event Memory) → Process Memory
  | [] => process
  | event :: rest => (process.step event).after rest

/-- Some events lead to the process from its start. -/
def Reachable (process : Process Memory) : Prop :=
  ∃ system clocks memory events, process = (start system clocks memory).after events

theorem step_moves (process : Process Memory) (event : Event Memory) :
    Contexts.Moves process.contexts (process.step event).contexts := by
  cases event with
  | operate index operation =>
      cases found : process.contexts[index]? with
      | none =>
          simp only [step, found]
          exact .still
      | some context =>
          simp only [step, found]
          exact .change found (operation.perform_changes (process.view context))
  | copy index =>
      cases found : process.contexts[index]? with
      | none =>
          simp only [step, found]
          exact .still
      | some context =>
          simp only [step, found]
          exact .copy (List.mem_of_getElem? found)
  | thread => exact .thread

/-- What every move of the contexts preserves holds after any events. -/
theorem after_induction (Holds : List Context → Prop)
    (preserved : ∀ before after, Contexts.Moves before after → Holds before → Holds after)
    (process : Process Memory) (events : List (Event Memory)) (holds : Holds process.contexts) :
    Holds (process.after events).contexts := by
  induction events generalizing process with
  | nil => exact holds
  | cons event rest inductionHypothesis =>
      exact inductionHypothesis (process.step event)
        (preserved _ _ (process.step_moves event) holds)

theorem Reachable.isSound {process : Process Memory} (reachable : process.Reachable) :
    Contexts.IsSound process.contexts := by
  obtain ⟨system, clocks, memory, events, rfl⟩ := reachable
  exact after_induction Contexts.IsSound (fun _ _ move sound => move.isSound sound) _ events
    Contexts.isSound_start

theorem after_append (process : Process Memory) (first second : List (Event Memory)) :
    process.after (first ++ second) = (process.after first).after second := by
  induction first generalizing process with
  | nil => rfl
  | cons event rest inductionHypothesis => exact inductionHypothesis (process.step event)

theorem Reachable.after {process : Process Memory} (reachable : process.Reachable)
    (events : List (Event Memory)) : (process.after events).Reachable := by
  obtain ⟨system, clocks, memory, earlier, rfl⟩ := reachable
  exact ⟨system, clocks, memory, earlier ++ events, (after_append _ earlier events).symm⟩

/-! ## Programs in a context of a process -/

theorem leave_leave (process : Process Memory) (index : Nat) (first second : World Memory) :
    (process.leave index first).leave index second = process.leave index second := by
  unfold leave
  rw [List.set_set]

theorem leave_view {process : Process Memory} {index : Nat} {context : Context}
    (known : process.contexts[index]? = some context) :
    process.leave index (process.view context) = process := by
  obtain ⟨inside, rfl⟩ := List.getElem?_eq_some_iff.mp known
  unfold leave view
  rw [List.set_getElem_self]

theorem contexts_leave {process : Process Memory} {index : Nat} {context : Context}
    (known : process.contexts[index]? = some context) (world : World Memory) :
    (process.leave index world).contexts[index]? = some world.context := by
  obtain ⟨inside, _⟩ := List.getElem?_eq_some_iff.mp known
  exact List.getElem?_set_self inside

/-- Operations in one context, seen from the process. -/
theorem after_operations {process : Process Memory} {index : Nat} {context : Context}
    (known : process.contexts[index]? = some context) (operations : List (Operation Memory)) :
    process.after (operations.map (.operate index)) =
      process.leave index ((process.view context).after operations) := by
  induction operations generalizing process context with
  | nil => exact (leave_view known).symm
  | cons operation rest inductionHypothesis =>
      have stepped : process.step (.operate index operation) =
          process.leave index (operation.perform (process.view context)).2 := by
        simp only [step, known]
      have further := inductionHypothesis
        (contexts_leave known (operation.perform (process.view context)).2)
      rw [List.map_cons, after, stepped, further, leave_leave]
      rfl

end Process

/-! ## Reachable worlds -/

/-- Some process can show the world in one of its contexts. -/
def World.Reachable (world : World Memory) : Prop :=
  ∃ (process : Process Memory) (context : Context),
    process.Reachable ∧ context ∈ process.contexts ∧ world = process.view context

/-- Whatever operations do in a reachable world, the world they leave is reachable. -/
theorem World.Reachable.after {world : World Memory} (reachable : world.Reachable)
    (operations : List (Operation Memory)) : (world.after operations).Reachable := by
  obtain ⟨process, context, reached, member, rfl⟩ := reachable
  obtain ⟨index, known⟩ := List.mem_iff_getElem?.mp member
  refine ⟨process.after (operations.map (.operate index)),
    ((process.view context).after operations).context, reached.after _, ?_, ?_⟩
  · rw [Process.after_operations known]
    exact List.mem_of_getElem? (Process.contexts_leave known _)
  · rw [Process.after_operations known]
    rfl

theorem World.Reachable.of_isProgram {world : World Memory} {action : Run Memory Result}
    (reachable : world.Reachable) (program : Run.IsProgram action) :
    (action world).2.Reachable := by
  obtain ⟨operations, arrived⟩ := program world
  rw [arrived]
  exact reachable.after operations

end VirtualClock

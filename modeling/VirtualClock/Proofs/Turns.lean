import VirtualClock.Proofs.Commands
import VirtualClock.Proofs.Processes

/-!
# Turns of contexts

Any number of contexts take turns in one process.  They share the clocks, and
they use whatever travelers, stacks and scopes they have got from each other; the
keys of all new stacks come from one counter.

A command takes one turn as a whole.  Nothing is lost by that: beside its own
context it only reads a clock once or takes one key from the counter.

A turn changes one context at most.  A stack is used only after it was made, so no
context has to do with keys that the counter has yet to give.
-/

namespace VirtualClock

open Session (Memory)

variable {keys : StackKey → StackKey}

/-! ## Commands and the counter of stacks -/

theorem Context.mirrored_id (context : Context) : context.Mirrored id context where
  identity := rfl
  serial := rfl
  ambient := by
    have same : Traveler.rename id = id := rfl
    rw [same, Option.map_id_apply]
  entries := fun _ => rfl

namespace Command

/-- How many stacks a command makes. -/
def creations : Command → Nat
  | .createStack => 1
  | _ => 0

theorem creations_eq_zero {command : Command} (makesNone : command ≠ .createStack) :
    command.creations = 0 := by
  cases command with
  | createStack => exact absurd rfl makesNone
  | _ => rfl

theorem creations_rename (command : Command) :
    (command.rename keys).creations = command.creations := by
  cases command <;> rfl

variable [Atlas]

theorem perform_sameOutside {command : Command} (makesNone : command ≠ .createStack)
    (world : World Memory) : world.SameOutside (command.perform world).2 :=
  (perform_mirrors renamesStacks_id makesNone ⟨rfl, rfl, world.context.mirrored_id⟩).outside

theorem perform_system (command : Command) (world : World Memory) :
    (command.perform world).2.system = world.system := by
  by_cases makes : command = .createStack
  · subst makes
    rfl
  · exact (perform_sameOutside makes world).system

theorem perform_nextStack (command : Command) (world : World Memory) :
    (command.perform world).2.memory.nextStack =
      world.memory.nextStack + command.creations := by
  by_cases makes : command = .createStack
  · subst makes
    rfl
  · rw [(perform_sameOutside makes world).memory, creations_eq_zero makes, Nat.add_zero]

theorem nextStack_le_perform (command : Command) (world : World Memory) :
    world.memory.nextStack ≤ (command.perform world).2.memory.nextStack := by
  rw [perform_nextStack]
  exact Nat.le_add_right _ _

/-- A command shows the same in a mirrored world, a new stack included when its key is mirrored
by the next one there. -/
theorem perform_mirrored (renames : RenamesStacks keys) {command : Command}
    {world mirror : World Memory} (mirrored : world.Mirrored keys mirror)
    (numbered : command = .createStack →
      keys world.memory.nextStack = mirror.memory.nextStack) :
    ((command.rename keys).perform mirror).1 =
        (command.perform world).1.map (Observation.rename keys) ∧
      (command.perform world).2.Mirrored keys ((command.rename keys).perform mirror).2 := by
  by_cases makes : command = .createStack
  · subst makes
    have next := numbered rfl
    constructor
    · show Except.ok (Observation.stack mirror.memory.nextStack) = _
      rw [← next]
      rfl
    · exact ⟨mirrored.system, mirrored.clocks, mirrored.context⟩
  · have alike := perform_mirrors renames makes mirrored
    exact ⟨alike.outcome, alike.left⟩

end Command

/-! ## Turns -/

/-- What happens next in a process. -/
inductive Turn where
  | command (index : Nat) (command : Command)
  /-- A new task, or a copied context, with what another one holds. -/
  | copy (index : Nat)
  /-- A new context that is empty. -/
  | thread
  /-- The clocks come to show other readings. -/
  | tick (clocks : List (ClockKey × Moment))

/-- A command with the readings of the clocks at which it is given. -/
structure Deed where
  clocks : List (ClockKey × Moment)
  command : Command

/-- A deed with what the context has seen of it. -/
structure Entry extends Deed where
  outcome : Except Fault Observation

def Deed.rename (keys : StackKey → StackKey) (deed : Deed) : Deed :=
  { deed with command := deed.command.rename keys }

namespace Process

variable [Atlas]

/-- What a command does in a context, and with what outcome.  A command in a context that is not
there, or for a stack that nobody has made, is not carried out. -/
def obey (process : Process Memory) (index : Nat) (command : Command) :
    Option (Except Fault Observation × World Memory) :=
  match process.contexts[index]? with
  | some context =>
    if ∀ key ∈ command.stackKeys, key < process.memory.nextStack then
      some (command.perform (process.view context))
    else none
  | none => none

def turn (process : Process Memory) : Turn → Process Memory
  | .command index command =>
    match process.obey index command with
    | some ran => process.leave index ran.2
    | none => process
  | .copy index => process.step (.copy index)
  | .thread => process.step .thread
  | .tick clocks => { process with clocks }

def afterTurns (process : Process Memory) : List Turn → Process Memory
  | [] => process
  | turn :: rest => (process.turn turn).afterTurns rest

/-- What a turn means to a context that does something in it. -/
def entry (process : Process Memory) (index : Nat) : Turn → Option Entry
  | .command place command =>
    if place = index then
      (process.obey index command).map fun ran => ⟨⟨process.clocks, command⟩, ran.1⟩
    else none
  | _ => none

/-- What a context does and sees in the course of some turns. -/
def history (process : Process Memory) (index : Nat) : List Turn → List Entry
  | [] => []
  | turn :: rest => (process.entry index turn).toList ++ (process.turn turn).history index rest

/-! ### One turn -/

/-- What becomes of a process in one turn. -/
inductive Turned (process : Process Memory) : Turn → Process Memory → Prop
  | refused {index : Nat} {command : Command} :
      process.obey index command = none → Turned process (.command index command) process
  | obeyed {index : Nat} {command : Command} {context : Context} :
      process.contexts[index]? = some context →
      process.obey index command = some (command.perform (process.view context)) →
      Turned process (.command index command)
        (process.leave index (command.perform (process.view context)).2)
  | unknown (index : Nat) : Turned process (.copy index) process
  | copied {index : Nat} {context : Context} :
      process.contexts[index]? = some context →
      Turned process (.copy index)
        { process with contexts := process.contexts ++ [context.copy process.contexts.length] }
  | begun :
      Turned process .thread
        { process with contexts := process.contexts ++ [Context.empty process.contexts.length] }
  | ticked (clocks : List (ClockKey × Moment)) :
      Turned process (.tick clocks) { process with clocks }

/-- A command that is carried out is so in a context that is there, and for known stacks. -/
theorem obey_eq_some {process : Process Memory} {index : Nat} {command : Command}
    {ran : Except Fault Observation × World Memory}
    (obeyed : process.obey index command = some ran) :
    ∃ context, process.contexts[index]? = some context ∧
      (∀ key ∈ command.stackKeys, key < process.memory.nextStack) ∧
        ran = command.perform (process.view context) := by
  unfold obey at obeyed
  cases known : process.contexts[index]? with
  | none =>
      rw [known] at obeyed
      cases obeyed
  | some context =>
      rw [known] at obeyed
      obtain ⟨fits, same⟩ := Option.ite_none_right_eq_some.mp obeyed
      exact ⟨context, rfl, fits, (Option.some.inj same).symm⟩

theorem turned (process : Process Memory) (turn : Turn) :
    process.Turned turn (process.turn turn) := by
  cases turn with
  | command index command =>
      cases obeyed : process.obey index command with
      | none =>
          simp only [Process.turn, obeyed]
          exact .refused obeyed
      | some ran =>
          obtain ⟨context, known, _, rfl⟩ := obey_eq_some obeyed
          simp only [Process.turn, obeyed]
          exact .obeyed known obeyed
  | copy index =>
      cases known : process.contexts[index]? with
      | none =>
          simp only [Process.turn, step, known]
          exact .unknown index
      | some context =>
          simp only [Process.turn, step, known]
          exact .copied known
  | thread => exact .begun
  | tick clocks => exact .ticked clocks

namespace Turned

variable {process after : Process Memory} {turn : Turn}

theorem system (turned : process.Turned turn after) : after.system = process.system := by
  cases turned with
  | refused _ => rfl
  | @obeyed index command context known _ => exact command.perform_system (process.view context)
  | unknown index => rfl
  | copied known => rfl
  | begun => rfl
  | ticked clocks => rfl

theorem nextStack_le (turned : process.Turned turn after) :
    process.memory.nextStack ≤ after.memory.nextStack := by
  cases turned with
  | refused _ => exact Nat.le_refl _
  | @obeyed index command context known _ =>
      exact command.nextStack_le_perform (process.view context)
  | unknown index => exact Nat.le_refl _
  | copied known => exact Nat.le_refl _
  | begun => exact Nat.le_refl _
  | ticked clocks => exact Nat.le_refl _

/-- A context after a turn was there before, or is what a command for known stacks made of one
that was there, or copies one, or is new and empty. -/
theorem context_cases (turned : process.Turned turn after) {context : Context}
    (member : context ∈ after.contexts) :
    context ∈ process.contexts ∨
    (∃ former ∈ process.contexts, ∃ command : Command,
      (∀ key ∈ command.stackKeys, key < process.memory.nextStack) ∧
      after.memory = (command.perform (process.view former)).2.memory ∧
      context = (command.perform (process.view former)).2.context) ∨
    (∃ former ∈ process.contexts, ∃ identity, context = former.copy identity) ∨
    ∃ identity, context = Context.empty identity := by
  cases turned with
  | refused _ => exact .inl member
  | @obeyed index command former known obeyed =>
      obtain ⟨_, _, fits, _⟩ := obey_eq_some obeyed
      rcases List.mem_or_eq_of_mem_set member with old | made
      · exact .inl old
      · exact .inr (.inl ⟨former, List.mem_of_getElem? known, command, fits, rfl, made⟩)
  | unknown index => exact .inl member
  | @copied index former known =>
      rcases List.mem_append.mp member with old | new
      · exact .inl old
      · exact .inr (.inr (.inl ⟨former, List.mem_of_getElem? known, _, List.mem_singleton.mp new⟩))
  | begun =>
      rcases List.mem_append.mp member with old | new
      · exact .inl old
      · exact .inr (.inr (.inr ⟨_, List.mem_singleton.mp new⟩))
  | ticked clocks => exact .inl member

/-- A context that does nothing in a turn stays as it is, whatever happens elsewhere. -/
theorem context_of_idle {index : Nat} {context : Context} (turned : process.Turned turn after)
    (known : process.contexts[index]? = some context)
    (idle : process.entry index turn = none) : after.contexts[index]? = some context := by
  obtain ⟨inside, _⟩ := List.getElem?_eq_some_iff.mp known
  cases turned with
  | refused _ => exact known
  | @obeyed place command other found obeyed =>
      have elsewhere : place ≠ index := by
        rintro rfl
        simp [entry, obeyed] at idle
      exact (List.getElem?_set_ne elsewhere).trans known
  | unknown place => exact known
  | copied found => exact (List.getElem?_append_left inside).trans known
  | begun => exact (List.getElem?_append_left inside).trans known
  | ticked clocks => exact known

/-- A context that does something in a turn does it in the process as it stands. -/
theorem exists_of_entry {index : Nat} {entry : Entry} (turned : process.Turned turn after)
    (acted : process.entry index turn = some entry) :
    ∃ context, process.contexts[index]? = some context ∧ entry.clocks = process.clocks ∧
      entry.outcome = (entry.command.perform (process.view context)).1 ∧
      after = process.leave index (entry.command.perform (process.view context)).2 := by
  cases turned with
  | refused refused =>
      obtain ⟨rfl, same⟩ := Option.ite_none_right_eq_some.mp acted
      rw [refused] at same
      cases same
  | @obeyed place command context known obeyed =>
      obtain ⟨rfl, same⟩ := Option.ite_none_right_eq_some.mp acted
      rw [obeyed] at same
      cases same
      exact ⟨context, known, rfl, rfl, rfl⟩
  | unknown place => cases acted
  | copied found => cases acted
  | begun => cases acted
  | ticked clocks => cases acted

end Turned

end Process

/-! ## Known stacks -/

/-- The context has to do with stacks below the bound alone: it looks the same when the keys of
others change. -/
def Context.KnowsBelow (bound : StackKey) (context : Context) : Prop :=
  ∀ ⦃keys : StackKey → StackKey⦄, RenamesStacks keys → (∀ key < bound, keys key = key) →
    context.Mirrored keys context

theorem Context.KnowsBelow.mono {context : Context} {bound more : StackKey}
    (knows : context.KnowsBelow bound) (le : bound ≤ more) : context.KnowsBelow more :=
  fun _ renames fixed => knows renames fun key below => fixed key (Nat.lt_of_lt_of_le below le)

theorem Context.knowsBelow_empty (identity : Nat) (bound : StackKey) :
    (Context.empty identity).KnowsBelow bound :=
  fun _ _ _ => ⟨rfl, rfl, rfl, fun _ => rfl⟩

theorem Context.KnowsBelow.copy {context : Context} {bound : StackKey}
    (knows : context.KnowsBelow bound) (identity : Nat) :
    (context.copy identity).KnowsBelow bound :=
  fun _ renames fixed =>
    have same := knows renames fixed
    ⟨rfl, rfl, same.ambient, same.entries⟩

/-- A command for known stacks lets its context learn of no other stack. -/
theorem Command.perform_knowsBelow [Atlas] (command : Command) {world : World Memory}
    (fits : ∀ key ∈ command.stackKeys, key < world.memory.nextStack)
    (knows : world.context.KnowsBelow world.memory.nextStack) :
    (command.perform world).2.context.KnowsBelow (command.perform world).2.memory.nextStack := by
  intro keys renames fixed
  rw [command.perform_nextStack] at fixed
  have kept : ∀ key < world.memory.nextStack, keys key = key :=
    fun key below => fixed key (Nat.lt_add_right _ below)
  -- the command is its own mirror, and then so is the context that it leaves
  have same : world.Mirrored keys world := ⟨rfl, rfl, knows renames kept⟩
  have steady := (command.perform_mirrored renames same fun makes => by
    subst makes
    exact fixed _ (Nat.lt_succ_self _)).2
  rw [rename_of_fixed fun key named => kept key (fits key named)] at steady
  exact steady.context

namespace Process

variable [Atlas]

/-- All stacks in use were made before. -/
structure KnowsStacks (process : Process Memory) : Prop where
  standard : Traveler.standard.stack < process.memory.nextStack
  contexts : ∀ context ∈ process.contexts, context.KnowsBelow process.memory.nextStack

theorem Turned.knowsStacks {process after : Process Memory} {turn : Turn}
    (turned : process.Turned turn after) (knows : process.KnowsStacks) : after.KnowsStacks := by
  refine ⟨Nat.lt_of_lt_of_le knows.standard turned.nextStack_le, fun context member => ?_⟩
  rcases turned.context_cases member with
    old | ⟨former, old, command, fits, left, rfl⟩ | ⟨former, old, identity, rfl⟩ | ⟨identity, rfl⟩
  · exact (knows.contexts context old).mono turned.nextStack_le
  · rw [left]
    exact command.perform_knowsBelow fits (knows.contexts former old)
  · exact ((knows.contexts former old).mono turned.nextStack_le).copy identity
  · exact Context.knowsBelow_empty identity _

theorem KnowsStacks.afterTurns {process : Process Memory} (knows : process.KnowsStacks)
    (turns : List Turn) : (process.afterTurns turns).KnowsStacks := by
  induction turns generalizing process with
  | nil => exact knows
  | cons turn rest inductionHypothesis =>
      exact inductionHypothesis ((process.turned turn).knowsStacks knows)

end Process

end VirtualClock

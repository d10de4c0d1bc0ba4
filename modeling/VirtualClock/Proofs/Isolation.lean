import Mathlib.Data.List.Basic
import VirtualClock.Proofs.Turns

/-!
# Isolation of contexts

Whatever turns the contexts of a process take, each of them sees what it sees when
it runs alone: its deeds, repeated with no other context around, have the same
outcomes up to the keys of the stacks that it makes.

In a run alone a context gets the next keys for its stacks, one after the other.
Among others it gets other keys, and so the two runs are compared under a renaming
of the stacks.
-/

namespace VirtualClock

open Session (Memory)

variable {keys : StackKey → StackKey}

/-- Repeats deeds with no other context around, each at its own readings of the clocks. -/
def World.replay [Atlas] (world : World Memory) :
    List Deed → List (Except Fault Observation) × World Memory
  | [] => ([], world)
  | deed :: rest =>
    let ran := deed.command.perform { world with clocks := deed.clocks }
    let replayed := ran.2.replay rest
    (ran.1 :: replayed.1, replayed.2)

/-! ## The stacks that a context makes -/

/-- The stack that was made. -/
def Entry.made (entry : Entry) : Option StackKey :=
  match entry.command, entry.outcome with
  | .createStack, .ok (.stack key) => some key
  | _, _ => none

theorem Entry.made_eq_none {entry : Entry} (makesNone : entry.command ≠ .createStack) :
    entry.made = none := by
  obtain ⟨⟨clocks, command⟩, outcome⟩ := entry
  cases command with
  | createStack => exact absurd rfl makesNone
  | _ => rfl

namespace Process

section

variable [Atlas]

/-- The stacks that a context makes, in their order. -/
def made (process : Process Memory) (index : Nat) (turns : List Turn) : List StackKey :=
  (process.history index turns).filterMap Entry.made

/-- What a context makes in one turn and what it makes after it. -/
theorem made_cons (process : Process Memory) (index : Nat) (turn : Turn) (rest : List Turn) :
    process.made index (turn :: rest) =
      ((process.entry index turn).bind Entry.made).toList ++
        (process.turn turn).made index rest := by
  unfold made
  rw [history, List.filterMap_append]
  cases process.entry index turn with
  | none => rfl
  | some entry =>
      show [entry].filterMap Entry.made ++ _ = _
      cases made : entry.made <;> simp [made]

/-- A stack is made with the next key, and everything else makes none. -/
theorem made_of_entry {process : Process Memory} {index : Nat} {turn : Turn} {entry : Entry}
    (acted : process.entry index turn = some entry) :
    entry.command = .createStack ∧ entry.made = some process.memory.nextStack ∧
        (process.turn turn).memory.nextStack = process.memory.nextStack + 1 ∨
      entry.command ≠ .createStack ∧ entry.made = none := by
  obtain ⟨context, _, _, seen, left⟩ := (process.turned turn).exists_of_entry acted
  by_cases makes : entry.command = .createStack
  · rw [makes] at seen left
    refine Or.inl ⟨makes, ?_, ?_⟩
    · unfold Entry.made
      rw [makes, seen]
      rfl
    · rw [left]
      rfl
  · exact Or.inr ⟨makes, Entry.made_eq_none makes⟩

/-- The keys that a context gets are new ones, each of them once. -/
theorem made_fresh (process : Process Memory) (index : Nat) (turns : List Turn) :
    (∀ key ∈ process.made index turns, process.memory.nextStack ≤ key) ∧
      (process.made index turns).Nodup := by
  induction turns generalizing process with
  | nil => exact ⟨nofun, List.nodup_nil⟩
  | cons turn rest inductionHypothesis =>
      obtain ⟨above, nodup⟩ := inductionHypothesis (process.turn turn)
      have le := (process.turned turn).nextStack_le
      have later : ∀ key ∈ (process.turn turn).made index rest,
          process.memory.nextStack ≤ key :=
        fun key member => Nat.le_trans le (above key member)
      rw [made_cons]
      cases acted : process.entry index turn with
      | none => exact ⟨later, nodup⟩
      | some entry =>
          rcases made_of_entry acted with ⟨_, made, next⟩ | ⟨_, made⟩
          · rw [Option.bind_some, made]
            refine ⟨?_, List.nodup_cons.mpr ⟨?_, nodup⟩⟩
            · intro key member
              rcases List.mem_cons.mp member with rfl | member
              · exact Nat.le_refl _
              · exact later key member
            · intro member
              have beyond := above _ member
              rw [next] at beyond
              exact Nat.not_succ_le_self _ beyond
          · rw [Option.bind_some, made]
            exact ⟨later, nodup⟩

end

/-! ## Running alone -/

/-- The keys in a run alone: known stacks keep theirs, those that the context makes get the next
ones in their order, and whatever others have made comes after these. -/
def aloneKeys (counter : Nat) (made : List Nat) (key : Nat) : Nat :=
  if key < counter then key
  else if key ∈ made then counter + made.idxOf key
  else counter + made.length + key

theorem aloneKeys_of_lt {counter key : Nat} (made : List Nat) (known : key < counter) :
    aloneKeys counter made key = key :=
  if_pos known

theorem aloneKeys_of_mem {counter key : Nat} {made : List Nat} (fresh : counter ≤ key)
    (member : key ∈ made) : aloneKeys counter made key = counter + made.idxOf key := by
  unfold aloneKeys
  rw [if_neg (Nat.not_lt.mpr fresh), if_pos member]

theorem aloneKeys_of_not_mem {counter key : Nat} {made : List Nat} (fresh : counter ≤ key)
    (foreign : key ∉ made) : aloneKeys counter made key = counter + made.length + key := by
  unfold aloneKeys
  rw [if_neg (Nat.not_lt.mpr fresh), if_neg foreign]

/-- The three kinds of stacks get their keys from ranges of their own. -/
theorem aloneKeys_cases (counter : Nat) (made : List Nat) (key : Nat) :
    key < counter ∧ aloneKeys counter made key = key ∨
      key ∈ made ∧ made.idxOf key < made.length ∧
        aloneKeys counter made key = counter + made.idxOf key ∨
      aloneKeys counter made key = counter + made.length + key := by
  by_cases known : key < counter
  · exact Or.inl ⟨known, aloneKeys_of_lt made known⟩
  · have fresh := Nat.not_lt.mp known
    by_cases member : key ∈ made
    · exact Or.inr (Or.inl
        ⟨member, List.idxOf_lt_length_of_mem member, aloneKeys_of_mem fresh member⟩)
    · exact Or.inr (Or.inr (aloneKeys_of_not_mem fresh member))

theorem aloneKeys_injective (counter : Nat) (made : List Nat) :
    Function.Injective (aloneKeys counter made) := by
  intro left right same
  rcases aloneKeys_cases counter made left with
    ⟨leftKnown, leftKey⟩ | ⟨leftMade, leftPlace, leftKey⟩ | leftKey <;>
  rcases aloneKeys_cases counter made right with
    ⟨rightKnown, rightKey⟩ | ⟨rightMade, rightPlace, rightKey⟩ | rightKey <;>
  rw [leftKey, rightKey] at same
  case inr.inl.inr.inl => exact (List.idxOf_inj leftMade).mp (Nat.add_left_cancel same)
  all_goals omega

/-- The stacks get the next keys from a counter on. -/
def Numbers (keys : StackKey → StackKey) (counter : StackKey) (made : List StackKey) : Prop :=
  made.map keys = List.range' counter made.length

theorem aloneKeys_numbers {counter : StackKey} {made : List StackKey}
    (fresh : ∀ key ∈ made, counter ≤ key) (nodup : made.Nodup) :
    Numbers (aloneKeys counter made) counter made := by
  refine List.ext_getElem (by simp) fun place inside _ => ?_
  rw [List.length_map] at inside
  have member : made[place] ∈ made := List.getElem_mem inside
  rw [List.getElem_map, List.getElem_range', aloneKeys_of_mem (fresh _ member) member,
    nodup.idxOf_getElem, Nat.one_mul]

section

variable [Atlas]

/-- A stack that is made now has the first number, and what is made later has the next ones. -/
theorem Numbers.of_entry {process : Process Memory} {index : Nat} {turn : Turn}
    {rest : List Turn} {entry : Entry} {counter : StackKey}
    (numbers : Numbers keys counter (process.made index (turn :: rest)))
    (acted : process.entry index turn = some entry) :
    (entry.command = .createStack → keys process.memory.nextStack = counter) ∧
      Numbers keys (counter + entry.command.creations) ((process.turn turn).made index rest) := by
  rw [made_cons, acted, Option.bind_some] at numbers
  rcases made_of_entry acted with ⟨makes, made, _⟩ | ⟨makesNone, made⟩
  · rw [made] at numbers
    have ⟨first, later⟩ := List.cons.inj numbers
    rw [makes]
    exact ⟨fun _ => first, later⟩
  · rw [made] at numbers
    rw [Command.creations_eq_zero makesNone]
    exact ⟨fun makes => absurd makes makesNone, numbers⟩

/-- The deeds of a context in the course of some turns, for stacks under other keys. -/
def deeds (process : Process Memory) (index : Nat) (turns : List Turn)
    (keys : StackKey → StackKey) : List Deed :=
  (process.history index turns).map fun entry => entry.toDeed.rename keys

/-- A deed of a context, and its repetition in a mirrored world at the same readings of the
clocks. -/
theorem perform_alone (renames : RenamesStacks keys) {process : Process Memory}
    {context : Context} {alone : World Memory} {command : Command}
    (mirrored : context.Mirrored keys alone.context) (system : alone.system = process.system)
    (first : command = .createStack → keys process.memory.nextStack = alone.memory.nextStack) :
    let ran := command.perform (process.view context)
    let repeated := (command.rename keys).perform { alone with clocks := process.clocks }
    repeated.1 = ran.1.map (Observation.rename keys) ∧
      ran.2.context.Mirrored keys repeated.2.context ∧ repeated.2.system = ran.2.system ∧
        repeated.2.memory.nextStack = alone.memory.nextStack + command.creations := by
  have ready : (process.view context).Mirrored keys { alone with clocks := process.clocks } :=
    ⟨system, rfl, mirrored⟩
  have ⟨outcome, left⟩ := command.perform_mirrored renames ready first
  have counted := (command.rename keys).perform_nextStack { alone with clocks := process.clocks }
  rw [Command.creations_rename] at counted
  exact ⟨outcome, left.context, left.system, counted⟩

/-- A context whose stacks have their keys mirrored sees in the course of some turns what its own
deeds show when they are repeated in a mirrored world. -/
theorem replay_mirrors (renames : RenamesStacks keys) {process : Process Memory} {index : Nat}
    {context : Context} {alone : World Memory} (turns : List Turn)
    (known : process.contexts[index]? = some context)
    (mirrored : context.Mirrored keys alone.context) (system : alone.system = process.system)
    (numbers : Numbers keys alone.memory.nextStack (process.made index turns)) :
    (alone.replay (process.deeds index turns keys)).1 =
        (process.history index turns).map (fun entry =>
          entry.outcome.map (Observation.rename keys)) ∧
      ∃ last, (process.afterTurns turns).contexts[index]? = some last ∧
        last.Mirrored keys (alone.replay (process.deeds index turns keys)).2.context := by
  induction turns generalizing process context alone with
  | nil => exact ⟨rfl, context, known, mirrored⟩
  | cons turn rest inductionHypothesis =>
      have turned := process.turned turn
      unfold deeds
      rw [history, afterTurns]
      cases acted : process.entry index turn with
      -- the turn of another context leaves this one, and the world of the run alone, as they are
      | none =>
          rw [made_cons, acted] at numbers
          exact inductionHypothesis (turned.context_of_idle known acted) mirrored
            (system.trans turned.system.symm) numbers
      | some entry =>
          obtain ⟨found, there, time, seen, left⟩ := turned.exists_of_entry acted
          cases there.symm.trans known
          obtain ⟨first, later⟩ := numbers.of_entry acted
          obtain ⟨⟨clocks, command⟩, result⟩ := entry
          dsimp only at time seen left first later
          subst time seen
          obtain ⟨outcome, further, shared, counted⟩ :=
            perform_alone renames mirrored system first
          rw [← counted] at later
          have remaining : (process.turn turn).contexts[index]? =
              some (command.perform (process.view context)).2.context := by
            rw [left]
            exact contexts_leave known _
          have sameSystem : ((command.rename keys).perform
              { alone with clocks := process.clocks }).2.system = (process.turn turn).system := by
            rw [left]
            exact shared
          obtain ⟨outcomes, last, reached, ended⟩ :=
            inductionHypothesis remaining further sameSystem later
          exact ⟨List.cons_eq_cons.mpr ⟨outcome, outcomes⟩, last, reached, ended⟩

/-- In the course of some turns a context sees what it sees when it repeats its own deeds alone,
from the very world in which it stands.  The stacks that were made before keep their keys, and
all outcomes are the same up to the keys of the others. -/
def SeesAsAlone (process : Process Memory) (index : Nat) (context : Context)
    (turns : List Turn) : Prop :=
  ∃ keys : StackKey → StackKey, Function.Injective keys ∧
    (∀ key < process.memory.nextStack, keys key = key) ∧
    ((process.view context).replay (process.deeds index turns keys)).1 =
      (process.history index turns).map (fun entry =>
        entry.outcome.map (Observation.rename keys)) ∧
    ∃ last, (process.afterTurns turns).contexts[index]? = some last ∧
      last.Mirrored keys ((process.view context).replay (process.deeds index turns keys)).2.context

theorem KnowsStacks.seesAsAlone {process : Process Memory} (knows : process.KnowsStacks)
    {index : Nat} {context : Context} (known : process.contexts[index]? = some context)
    (turns : List Turn) : process.SeesAsAlone index context turns := by
  obtain ⟨fresh, nodup⟩ := process.made_fresh index turns
  let keys := aloneKeys process.memory.nextStack (process.made index turns)
  have fixed : ∀ key < process.memory.nextStack, keys key = key :=
    fun key below => aloneKeys_of_lt _ below
  have renames : RenamesStacks keys := ⟨aloneKeys_injective _ _, fixed _ knows.standard⟩
  have same : context.Mirrored keys context :=
    knows.contexts context (List.mem_of_getElem? known) renames fixed
  exact ⟨keys, renames.injective, fixed,
    replay_mirrors renames turns known same rfl (aloneKeys_numbers fresh nodup)⟩

end

/-! ## Processes of a session -/

/-- The process in which a session begins. -/
def ofPlan (plan : Session.Plan) : Process Memory :=
  start plan.system (Session.emptyWorld plan).clocks (Session.emptyWorld plan).memory

theorem ofPlan_knowsStacks (plan : Session.Plan) : (ofPlan plan).KnowsStacks := by
  refine ⟨Nat.lt_succ_self _, fun context member => ?_⟩
  rw [List.mem_singleton.mp member]
  exact Context.knowsBelow_empty _ _

section

variable [Atlas]

/-- Turns of a session lead to the process. -/
def OfSession (process : Process Memory) : Prop :=
  ∃ plan turns, process = (ofPlan plan).afterTurns turns

theorem OfSession.knowsStacks {process : Process Memory} (played : process.OfSession) :
    process.KnowsStacks := by
  obtain ⟨plan, turns, rfl⟩ := played
  exact (ofPlan_knowsStacks plan).afterTurns turns

/-- Turns of others leave a context as it is. -/
theorem context_afterTurns {process : Process Memory} {index : Nat} {context : Context}
    {turns : List Turn} (known : process.contexts[index]? = some context)
    (elsewhere : ∀ command, .command index command ∉ turns) :
    (process.afterTurns turns).contexts[index]? = some context := by
  induction turns generalizing process with
  | nil => exact known
  | cons turn rest inductionHypothesis =>
      have idle : process.entry index turn = none := by
        cases turn with
        | command place command =>
            refine if_neg fun here => elsewhere command ?_
            rw [here]
            exact List.mem_cons_self
        | copy place => rfl
        | thread => rfl
        | tick clocks => rfl
      exact inductionHypothesis ((process.turned turn).context_of_idle known idle)
        fun command member => elsewhere command (List.mem_cons_of_mem turn member)

/-- The contexts of a session are isolated from each other.  A copy starts with the stacks and the
binding of its creator and a thread with none.  What others do, such as to close a scope that this
context has opened, leaves the context as it is.  Whatever turns are taken, each context sees what
it sees alone. -/
theorem contexts_are_isolated {process : Process Memory} (played : process.OfSession)
    {index : Nat} {context : Context} (known : process.contexts[index]? = some context)
    (turns : List Turn) :
    (∃ child, (process.turn (.copy index)).contexts[process.contexts.length]? = some child ∧
      child.ambient = context.ambient ∧ ∀ stack, child.entries stack = context.entries stack) ∧
    (∃ fresh, (process.turn .thread).contexts[process.contexts.length]? = some fresh ∧
      fresh.ambient = none ∧ ∀ stack, fresh.entries stack = []) ∧
    ((∀ command, .command index command ∉ turns) →
      (process.afterTurns turns).contexts[index]? = some context) ∧
    process.SeesAsAlone index context turns := by
  refine ⟨⟨context.copy process.contexts.length, ?_, rfl, fun _ => rfl⟩,
    ⟨Context.empty process.contexts.length, List.getElem?_concat_length, rfl, fun _ => rfl⟩,
    context_afterTurns known, played.knowsStacks.seesAsAlone known turns⟩
  simp only [turn, step, known]
  exact List.getElem?_concat_length

end

/-! ### A scope that is closed in a copy -/

def barePlan : Session.Plan := ⟨.utc, [], none, .alone, []⟩

/-- A traveler is made and travels in the first context, and then the context is copied. -/
def copiedProcess : Process Memory :=
  (ofPlan barePlan).afterTurns
    [.command 0 .createStack,
      .command 0 (.ask (some hourEast) (.install (.moment lastHalfHour))), .copy 0]

/-- What the copy holds: the override that the traveler has pinned. -/
def copiedContext : Context := ⟨1, 0, [(1, [⟨⟨0, 0⟩, lastHalfHour, 0⟩])], none⟩

/-- Both contexts make a stack, and the copy closes the scope that it has from the other. -/
def sharedTurns : List Turn :=
  [.command 0 .createStack, .command 1 .createStack,
    .command 1 (.use ⟨hourEast, ⟨⟨0, 0⟩, lastHalfHour, 0⟩⟩ .close),
    .command 1 (.ask (some hourEast) .depth), .command 0 (.ask (some hourEast) .depth)]

/-- Only the copy sees the scope closed.  Its stack has another key than in a run alone. -/
theorem copy_closes_shared_scope_for_itself :
    copiedProcess.OfSession ∧ copiedProcess.contexts[1]? = some copiedContext ∧
    (copiedProcess.history 0 sharedTurns).map Entry.outcome =
      [.ok (.stack 2), .ok (.count 1)] ∧
    (copiedProcess.history 1 sharedTurns).map Entry.outcome =
      [.ok (.stack 3), .ok .nothing, .ok (.count 0)] ∧
    ((copiedProcess.view copiedContext).replay (copiedProcess.deeds 1 sharedTurns id)).1 =
      [.ok (.stack 2), .ok .nothing, .ok (.count 0)] ∧
    copiedProcess.SeesAsAlone 1 copiedContext sharedTurns := by
  have played : copiedProcess.OfSession := ⟨barePlan, _, rfl⟩
  have known : copiedProcess.contexts[1]? = some copiedContext := rfl
  exact ⟨played, known, rfl, rfl, rfl, (contexts_are_isolated played known sharedTurns).2.2.2⟩

end Process

end VirtualClock

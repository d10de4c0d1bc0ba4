import Mathlib.Algebra.Order.BigOperators.Group.List
import Mathlib.Algebra.Order.Group.Nat
import Mathlib.Logic.Equiv.Basic
import VirtualClock.Proofs.Isolation
import VirtualClock.Proofs.StackTables

/-!
# Stacks in the course of turns

The contexts of a session take turns, and each turn may work on any stack.  In
whatever order the turns come, the table of every context stays tidy, and a
command leaves all stacks but its own as they are.

A stack that is yet to be made has no entries anywhere.  So a context that makes
stacks, works on them alone and empties them again has its table back.
-/

namespace VirtualClock

open OverrideTable (Rewrites)
open Session (Memory)

variable {used : List StackKey}

/-! ## The stacks that a command works on -/

theorem TravelerCommand.perform_worksOn [Atlas] {traveler : Traveler} (member : traveler.stack ∈ used)
    (command : TravelerCommand) : Run.WorksOn used (command.perform traveler) := by
  cases command with
  | install anchor =>
      exact (Session.anchorOf_onlyReads anchor).worksOn.bind fun anchor =>
        (Traveler.install_worksOn member anchor).form _
  | depart departure uncallable =>
      cases uncallable with
      | none =>
          refine (Traveler.depart_worksOn member departure ?_).form _
          rintro _ ⟨⟩
      | some found =>
          refine (Traveler.depart_worksOn member departure ?_).form _
          rintro _ ⟨⟩
  | revert => exact (Traveler.revert_worksOn member).form _
  | travelBack =>
      exact ((Traveler.revert_worksOn member).form _).bind fun _ =>
        (Run.onlyReads_pure _).worksOn
  | reset => exact (Traveler.reset_worksOn member).form _
  | currentOverride => exact traveler.currentOverride_onlyReads.worksOn.form _
  | depth => exact traveler.depth_onlyReads.worksOn.form _
  | text => exact traveler.depth_onlyReads.worksOn.form _
  | instant => exact traveler.instant_onlyReads.worksOn.form _
  | realNow => exact traveler.realNow_onlyReads.worksOn.form _
  | current kind zone => exact (traveler.current_onlyReads kind zone).worksOn.form _

theorem ScopeCommand.perform_worksOn {scope : TravelScope}
    (member : scope.traveler.stack ∈ used) (command : ScopeCommand) :
    Run.WorksOn used (command.perform scope) := by
  cases command with
  | enter => exact scope.anchor_onlyReads.worksOn.form _
  | close =>
      exact (Traveler.release_worksOn member scope.override).bind fun _ =>
        (Run.onlyReads_pure _).worksOn
  | isActive => exact scope.isActive_onlyReads.worksOn.form _

theorem StackCommand.perform_worksOn {stack : StackKey} (member : stack ∈ used)
    (command : StackCommand) : Run.WorksOn used (command.perform stack) := by
  cases command with
  | push anchor =>
      exact (Session.anchorOf_onlyReads anchor).worksOn.bind fun anchor =>
        (Stack.push_worksOn member anchor).form _
  | pop => exact (Stack.pop_worksOn member).form _
  | truncate index => exact (Stack.truncate_worksOn member index).form _
  | peek => exact Run.OnlyReads.worksOn fun _ => rfl
  | snapshot => exact Run.OnlyReads.worksOn fun _ => rfl
  | depth => exact Run.OnlyReads.worksOn fun _ => rfl
  | contains override =>
      have asks : Run.OnlyReads (Stack.contains stack override : Session.Run Bool) :=
        fun _ => rfl
      exact asks.worksOn.form _

namespace Command

/-- The stacks that a command works on when it is given in the context. -/
def stacksAt (context : Context) : Command → List StackKey
  | .ask subject _ => [(subject.getD (context.ambient.getD Traveler.standard)).stack]
  | .use scope _ => [scope.traveler.stack]
  | .change stack _ => [stack]
  | .createStack | .makeOverride _ _ | .ambient | .bind _ | .restore _ => []

theorem perform_rewrites [Atlas] (command : Command) (world : World Memory) :
    Rewrites (command.stacksAt world.context) world.context.overrides
      (command.perform world).2.context.overrides := by
  cases command with
  | createStack => exact .refl
  | ask subject command =>
      cases subject with
      | some traveler =>
          exact command.perform_worksOn List.mem_cons_self world
      | none =>
          have member : (world.context.ambient.getD Traveler.standard).stack ∈
              (Command.ask none command).stacksAt world.context := List.mem_cons_self
          exact command.perform_worksOn member world
  | use scope command => exact command.perform_worksOn List.mem_cons_self world
  | change stack command => exact command.perform_worksOn List.mem_cons_self world
  | makeOverride anchor index => exact .refl
  | ambient => exact .refl
  | bind traveler => exact .refl
  | restore binding =>
      exact ((Ambient.restore_worksOn binding).bind fun _ =>
        (Run.onlyReads_pure Observation.nothing).worksOn) world

end Command

/-! ## Stacks that are yet to be made -/

theorem OverrideTable.exists_unused (table : OverrideTable) (bound : Nat) :
    ∃ key : Nat, bound ≤ key ∧ key ∉ table.keys := by
  refine ⟨bound + (table.keys : List Nat).sum + 1, by omega, fun member => ?_⟩
  have le : bound + (table.keys : List Nat).sum + 1 ≤ (table.keys : List Nat).sum :=
    List.le_sum_of_mem member
  omega

/-- Beyond the bound all stacks look the same, and so they look like one without a row. -/
theorem Context.KnowsBelow.entries_eq_nil {context : Context} {bound key : StackKey}
    (knows : context.KnowsBelow bound) (standard : Traveler.standard.stack < bound)
    (beyond : bound ≤ key) : context.entries key = [] := by
  obtain ⟨unused, further, missing⟩ := context.overrides.exists_unused bound
  have fixed : ∀ low < bound, Equiv.swap key unused low = low := fun low below =>
    Equiv.swap_apply_of_ne_of_ne (Nat.lt_of_lt_of_le below beyond).ne
      (Nat.lt_of_lt_of_le below further).ne
  have renames : RenamesStacks (Equiv.swap key unused) :=
    ⟨(Equiv.swap key unused).injective, fixed _ standard⟩
  have swapped := (knows renames fixed).entries unused
  rw [Equiv.swap_apply_right] at swapped
  rw [swapped]
  exact OverrideTable.entries_eq_nil_of_not_mem missing

namespace Process

/-! ## Turns -/

section

variable [Atlas]

def IsTidy (process : Process Memory) : Prop :=
  ∀ context ∈ process.contexts, context.overrides.IsTidy

theorem Turned.isTidy {process after : Process Memory} {turn : Turn}
    (turned : process.Turned turn after) (tidy : process.IsTidy) : after.IsTidy := by
  intro context member
  rcases turned.context_cases member with
    old | ⟨former, old, command, _, _, rfl⟩ | ⟨former, old, identity, rfl⟩ | ⟨identity, rfl⟩
  · exact tidy context old
  · exact (command.perform_rewrites (process.view former)).isTidy (tidy former old)
  · exact tidy former old
  · exact OverrideTable.isTidy_nil

theorem IsTidy.afterTurns {process : Process Memory} (tidy : process.IsTidy)
    (turns : List Turn) : (process.afterTurns turns).IsTidy := by
  induction turns generalizing process with
  | nil => exact tidy
  | cons turn rest inductionHypothesis =>
      exact inductionHypothesis ((process.turned turn).isTidy tidy)

theorem OfSession.isTidy {process : Process Memory} (played : process.OfSession) :
    process.IsTidy := by
  obtain ⟨plan, turns, rfl⟩ := played
  refine IsTidy.afterTurns (fun context member => ?_) turns
  rw [List.mem_singleton.mp member]
  exact OverrideTable.isTidy_nil

/-- In the course of some turns a context gives commands for none but the used stacks. -/
def KeepsTo (process : Process Memory) (index : Nat) (used : List StackKey) : List Turn → Prop
  | [] => True
  | turn :: rest =>
    (∀ context command, process.contexts[index]? = some context →
      turn = .command index command → command.stacksAt context ⊆ used) ∧
        (process.turn turn).KeepsTo index used rest

theorem Turned.exists_rewrites {process after : Process Memory} {turn : Turn} {index : Nat}
    {context : Context} (turned : process.Turned turn after)
    (known : process.contexts[index]? = some context)
    (keeps : ∀ command, turn = .command index command → command.stacksAt context ⊆ used) :
    ∃ later, after.contexts[index]? = some later ∧
      Rewrites used context.overrides later.overrides := by
  cases acted : process.entry index turn with
  | none => exact ⟨context, turned.context_of_idle known acted, .refl⟩
  | some entry =>
      cases turned with
      | refused refused => exact ⟨context, known, .refl⟩
      | @obeyed place command found there obeyed =>
          obtain ⟨rfl, _⟩ := Option.ite_none_right_eq_some.mp acted
          cases there.symm.trans known
          exact ⟨_, contexts_leave known _,
            (command.perform_rewrites (process.view context)).mono (keeps command rfl)⟩
      | unknown place => cases acted
      | copied found => cases acted
      | begun => cases acted
      | ticked clocks => cases acted

theorem exists_rewrites {process : Process Memory} {index : Nat} {context : Context}
    {turns : List Turn} (known : process.contexts[index]? = some context)
    (keeps : process.KeepsTo index used turns) :
    ∃ last, (process.afterTurns turns).contexts[index]? = some last ∧
      Rewrites used context.overrides last.overrides := by
  induction turns generalizing process context with
  | nil => exact ⟨context, known, .refl⟩
  | cons turn rest inductionHypothesis =>
      obtain ⟨now, later⟩ := keeps
      obtain ⟨next, reached, first⟩ :=
        (process.turned turn).exists_rewrites known fun command => now context command known
      obtain ⟨last, ended, further⟩ := inductionHypothesis reached later
      exact ⟨last, ended, first.trans further⟩

/-- A command leaves all stacks as they are but the one that it works on, and a travel with a body
leaves those as they are that neither its traveler nor its body works on.  The table has rows for
exactly the stacks with an entry.  A stack that is cleared loses its row, if it has one, without a
fault.  No stack has entries before it is made, and whatever is done with stacks that are empty
before and after, the table is left as it was. -/
theorem stacks_do_not_interfere {process : Process Memory} (played : process.OfSession)
    {index : Nat} {context : Context} (known : process.contexts[index]? = some context) :
    (∀ (command : Command), ∀ other ∉ command.stacksAt context,
      (command.perform (process.view context)).2.entries other = context.entries other) ∧
    (∀ (traveler : Traveler) (departure : Session.Departure) (used : List StackKey)
      (body : Session.Run Session.Result), Run.WorksOn used body →
      ∀ other ∉ traveler.stack :: used,
        (Session.depart traveler departure (.run body) (process.view context)).2.entries other =
          context.entries other) ∧
    (context.overrides.IsTidy ∧
      ∀ key, key ∈ context.overrides.keys ↔ context.entries key ≠ []) ∧
    (∀ (stack : StackKey) (entries : List Override),
      context.overrides.set? stack entries = some (context.overrides.set stack entries)) ∧
    (∀ stack : StackKey, ∃ left : World Memory,
      Stack.truncate stack 0 (process.view context) = (.ok (context.entries stack).length, left) ∧
        left.context.overrides = context.overrides.set stack []) ∧
    (∀ key, process.memory.nextStack ≤ key → context.entries key = []) ∧
    ∀ (used : List StackKey) (turns : List Turn), (∀ key ∈ used, context.entries key = []) →
      process.KeepsTo index used turns →
      ∃ last, (process.afterTurns turns).contexts[index]? = some last ∧
        ((∀ key ∈ used, last.entries key = []) → last.overrides = context.overrides) := by
  have member := List.mem_of_getElem? known
  have tidy : context.overrides.IsTidy := played.isTidy context member
  have knows := played.knowsStacks
  refine ⟨fun command other foreign => ?_, fun traveler departure used body works other foreign => ?_,
    ⟨tidy, fun key => tidy.mem_keys_iff⟩, context.overrides.set?_eq,
    fun stack => Stack.exists_truncate_zero stack tidy,
    fun key beyond => (knows.contexts context member).entries_eq_nil knows.standard beyond,
    fun used turns before keeps => ?_⟩
  · exact (command.perform_rewrites (process.view context)).entries_eq foreign
  · have travels : Run.WorksOn (traveler.stack :: used)
        (Session.depart traveler departure (.run body)) := by
      refine Traveler.depart_worksOn List.mem_cons_self departure ?_
      rintro action ⟨⟩
      exact works.mono (List.subset_cons_self _ _)
    exact (travels (process.view context)).entries_eq foreign
  · obtain ⟨last, reached, rewrites⟩ := exists_rewrites known keeps
    exact ⟨last, reached, rewrites.eq_of_empty tidy before⟩

end

/-! ### Two stacks that are made, used and emptied -/

/-- In a copied context two stacks are made and filled, one on top of the other, and emptied. -/
def fillingTurns : List Turn :=
  [.command 1 .createStack, .command 1 .createStack,
    .command 1 (.change 2 (.push (.moment lastHalfHour))),
    .command 1 (.change 3 (.push (.moment lastHalfHour)))]

def emptyingTurns : List Turn :=
  [.command 1 (.change 2 .pop), .command 1 (.change 3 (.truncate (-1)))]

/-- The stacks have rows of their own while they are in use.  In the end the only row is that of
the stack which the context had from the beginning. -/
theorem made_stacks_leave_no_row :
    copiedProcess.OfSession ∧ copiedProcess.contexts[1]? = some copiedContext ∧
    copiedProcess.KeepsTo 1 [2, 3] (fillingTurns ++ emptyingTurns) ∧
    (copiedProcess.afterTurns fillingTurns).contexts.map (fun context => context.overrides.keys) =
      [[1], [1, 2, 3]] ∧
    ∃ last, (copiedProcess.afterTurns (fillingTurns ++ emptyingTurns)).contexts[1]? = some last ∧
      last.overrides = copiedContext.overrides := by
  have played : copiedProcess.OfSession := ⟨barePlan, _, rfl⟩
  have known : copiedProcess.contexts[1]? = some copiedContext := rfl
  have keeps : copiedProcess.KeepsTo 1 [2, 3] (fillingTurns ++ emptyingTurns) := by
    simp [fillingTurns, emptyingTurns, KeepsTo, Command.stacksAt]
  have ⟨_, _, _, _, _, fresh, restored⟩ := stacks_do_not_interfere played known
  have unused : ∀ key ∈ [2, 3], copiedContext.entries key = [] :=
    fun key member => fresh key (List.forall_mem_cons.mpr ⟨by decide, by decide⟩ key member)
  obtain ⟨last, reached, same⟩ := restored [2, 3] _ unused keeps
  refine ⟨played, known, keeps, rfl, last, reached, same ?_⟩
  have emptied : last = { copiedContext with serial := 2 } := (Option.some.inj reached).symm
  rw [emptied]
  decide

end Process

end VirtualClock

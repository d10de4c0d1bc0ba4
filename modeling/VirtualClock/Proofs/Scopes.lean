import VirtualClock.Proofs.Processes

/-!
# What closing a scope restores

A scope finds its override by identity and index.  As the override rests on its
past wherever it is installed, closing the scope brings exactly that past back,
and once the override is gone closing the scope does nothing, whatever lies at
its index by then.
-/

namespace VirtualClock

open Session (Departure depart)

variable {Memory Result : Type}

/-! ## Finding the override -/

namespace Override

variable {past entries : List Override} {override : Override}

theorem isInstalled_of_restsOn (place : override.depth = past.length)
    (rests : override.RestsOn past entries) (installed : override.Installed entries) :
    override.isInstalled entries = .ok true := by
  obtain ⟨above, rfl⟩ := rests installed
  rw [isInstalled_of_nonneg _ (by omega), place, Int.toNat_natCast,
    List.getElem?_append_right (Nat.le_refl _), Nat.sub_self]
  simp

theorem isInstalled_of_not_installed (nonneg : 0 ≤ override.depth)
    (gone : ¬override.Installed entries) : override.isInstalled entries = .ok false := by
  rw [isInstalled_of_nonneg _ nonneg]
  cases there : entries[override.depth.toNat]? with
  | none => rfl
  | some entry =>
      have different : entry.identity ≠ override.identity :=
        fun same => gone ⟨entry, List.mem_of_getElem? there, same⟩
      simp [different]

end Override

/-! ## Closing -/

namespace TravelScope

variable {past : List Override} {world : World Memory} {scope : TravelScope}

/-- Closing a scope whose override is installed puts its past on the stack. -/
theorem close_of_installed (place : scope.override.depth = past.length)
    (rests : scope.override.RestsOn past (world.entries scope.traveler.stack))
    (installed : scope.override.Installed (world.entries scope.traveler.stack)) :
    scope.close world =
      (.ok (), (world.withContext (world.context.withEntries scope.traveler.stack past)).record
        scope.traveler.stack (.closed scope.override.anchor
          ((world.entries scope.traveler.stack).length - past.length))) := by
  have found := Override.isInstalled_of_restsOn place rests installed
  obtain ⟨above, split⟩ := rests installed
  have kept : (world.entries scope.traveler.stack).take past.length = past := by
    rw [split, List.take_left]
  have deeper : ¬(world.entries scope.traveler.stack).length ≤ scope.override.depth.toNat := by
    rw [split, place]
    simp
  show scope.traveler.release scope.override world = _
  rw [Traveler.release_apply, found]
  simp only [if_neg deeper]
  rw [place, Int.toNat_natCast, Context.cut, ← World.entries_eq, kept]

/-- Closing a scope whose override is gone does nothing at all. -/
theorem close_of_not_installed (nonneg : 0 ≤ scope.override.depth)
    (gone : ¬scope.override.Installed (world.entries scope.traveler.stack)) :
    scope.close world = (.ok (), world) := by
  show scope.traveler.release scope.override world = _
  rw [Traveler.release_apply, Override.isInstalled_of_not_installed nonneg gone]

/-- Closes a scope a number of times. -/
def closeTimes (scope : TravelScope) : Nat → Run Memory Unit
  | 0 => pure ()
  | times + 1 => do
    scope.close
    scope.closeTimes times

theorem closeTimes_of_not_installed (scope : TravelScope) (world : World Memory)
    (nonneg : 0 ≤ scope.override.depth)
    (gone : ¬scope.override.Installed (world.entries scope.traveler.stack)) (times : Nat) :
    scope.closeTimes times world = (.ok (), world) := by
  induction times with
  | zero => rfl
  | succ times inductionHypothesis =>
      rw [closeTimes, Run.bind_of_ok (close_of_not_installed nonneg gone), inductionHypothesis]

theorem entries_closed (world : World Memory) (stack other : StackKey) (past : List Override)
    (event : TravelEvent) :
    ((world.withContext (world.context.withEntries stack past)).record stack event).entries other =
      if other = stack then past else world.entries other := by
  rw [World.entries_record, World.entries_withContext, Context.entries_withEntries]
  rfl

/-- However often it is closed, a scope brings back its past and touches nothing else. -/
theorem closeTimes_of_installed (scope : TravelScope) (world : World Memory)
    (place : scope.override.depth = past.length)
    (unseen : ¬scope.override.Installed past)
    (rests : scope.override.RestsOn past (world.entries scope.traveler.stack))
    (installed : scope.override.Installed (world.entries scope.traveler.stack)) (times : Nat) :
    scope.closeTimes (times + 1) world =
      (.ok (), (world.withContext (world.context.withEntries scope.traveler.stack past)).record
        scope.traveler.stack (.closed scope.override.anchor
          ((world.entries scope.traveler.stack).length - past.length))) := by
  rw [closeTimes, Run.bind_of_ok (close_of_installed place rests installed)]
  refine scope.closeTimes_of_not_installed _ (by omega) ?_ times
  rw [entries_closed, if_pos rfl]
  exact unseen

/-- What closing a scope does, whether or not its override is installed. -/
theorem exists_close (scope : TravelScope) (place : scope.override.depth = past.length)
    (unseen : ¬scope.override.Installed past)
    (rests : scope.override.RestsOn past (world.entries scope.traveler.stack)) :
    ∃ after, scope.close world = (.ok (), after) ∧
      ¬scope.override.Installed (after.entries scope.traveler.stack) ∧
      (scope.override.Installed (world.entries scope.traveler.stack) →
        after.entries scope.traveler.stack = past ∧
        ∀ other, other ≠ scope.traveler.stack → after.entries other = world.entries other) ∧
      (¬scope.override.Installed (world.entries scope.traveler.stack) → after = world) := by
  by_cases installed : scope.override.Installed (world.entries scope.traveler.stack)
  · refine ⟨_, close_of_installed place rests installed, ?_, fun _ => ⟨?_, ?_⟩,
      fun gone => absurd installed gone⟩
    · rw [entries_closed, if_pos rfl]
      exact unseen
    · rw [entries_closed, if_pos rfl]
    · intro other different
      rw [entries_closed, if_neg different]
  · exact ⟨world, close_of_not_installed (by omega) installed, installed,
      fun found => absurd found installed, fun _ => rfl⟩

end TravelScope

/-! ## Scopes in a process -/

namespace Process

theorem operate_contexts {process : Process Memory} {index : Nat} {context : Context}
    (operation : Operation Memory) (known : process.contexts[index]? = some context) :
    (process.step (.operate index operation)).contexts =
      process.contexts.set index (operation.perform (process.view context)).2.context := by
  simp only [step, known]
  rfl

/-- From a push on, no event makes the override again or disturbs what it rests on. -/
theorem after_restOn (process : Process Memory) {past : List Override} {override : Override}
    {stack : StackKey} (events : List (Event Memory)) (unseen : ¬override.Installed past)
    (spent : Contexts.Spent process.contexts override.identity)
    (rest : Contexts.RestOn past override stack process.contexts) :
    Contexts.Spent (process.after events).contexts override.identity ∧
      Contexts.RestOn past override stack (process.after events).contexts :=
  after_induction
    (fun contexts =>
      Contexts.Spent contexts override.identity ∧ Contexts.RestOn past override stack contexts)
    (fun _ _ move held => ⟨move.spent held.1, move.restOn held.1 unseen held.2⟩)
    process events ⟨spent, rest⟩

theorem after_not_installed (process : Process Memory) {override : Override} {stack : StackKey}
    {place : Nat} (events : List (Event Memory)) (inside : place < process.contexts.length)
    (spent : Contexts.Spent process.contexts override.identity)
    (gone : ∀ context, process.contexts[place]? = some context →
      ¬override.Installed (context.entries stack)) :
    ∀ context, (process.after events).contexts[place]? = some context →
      ¬override.Installed (context.entries stack) := by
  have kept := after_induction
    (fun contexts => Contexts.Spent contexts override.identity ∧ place < contexts.length ∧
      ∀ context, contexts[place]? = some context →
        ¬override.Installed (context.entries stack))
    (fun _ _ move held => ⟨move.spent held.1, Nat.lt_of_lt_of_le held.2.1 move.length_le,
      fun _ found => move.not_installed held.1 held.2.1 held.2.2 found⟩)
    process events ⟨spent, inside, gone⟩
  exact kept.2.2

end Process

/-- Where the override of a push is still installed, the entries below it are those that it was
pushed onto, and closing its scope brings exactly these back, once and for all.  Where it is
gone it stays gone, and closing its scope never changes anything again. -/
theorem scope_restores_own_past {process : Process Memory} (reachable : process.Reachable)
    {index : Nat} {before : Context} (operation : Operation Memory) {stack : StackKey}
    {override : Override} (known : process.contexts[index]? = some before)
    (pushed : (operation.perform (process.view before)).2.entries stack =
      before.entries stack ++ [override])
    {later : Process Memory} (events : List (Process.Event Memory))
    (arrived : later = (process.step (.operate index operation)).after events)
    {place : Nat} {context : Context} (found : later.contexts[place]? = some context)
    {scope : TravelScope} (handles : scope.override = override)
    (works : scope.traveler.stack = stack) :
    (override.Installed (context.entries stack) →
      (∃ above, context.entries stack = before.entries stack ++ override :: above) ∧
      ∀ times, scope.closeTimes (times + 1) (later.view context) =
        (.ok (), (later.view (context.withEntries stack (before.entries stack))).record stack
          (.closed override.anchor
            ((context.entries stack).length - (before.entries stack).length)))) ∧
    (¬override.Installed (context.entries stack) →
      ∀ more now, (later.after more).contexts[place]? = some now →
        ¬override.Installed (now.entries stack) ∧
        ∀ times, scope.closeTimes times ((later.after more).view now) =
          (.ok (), (later.after more).view now)) := by
  subst handles works
  have contexts := process.operate_contexts operation known
  obtain ⟨depth, unseen, spent, rest⟩ := reachable.isSound.push known
    (operation.perform_changes (process.view before)) pushed
  rw [← contexts] at spent rest
  obtain ⟨spent, rest⟩ := Process.after_restOn _ events unseen spent rest
  rw [← arrived] at spent rest
  have rests := rest context (List.mem_of_getElem? found)
  constructor
  · intro installed
    refine ⟨rests installed, fun times => ?_⟩
    exact scope.closeTimes_of_installed (later.view context) depth unseen rests installed times
  · intro gone more now there
    obtain ⟨inside, _⟩ := List.getElem?_eq_some_iff.mp found
    have stays := later.after_not_installed more inside spent
      (fun other same => by rw [found] at same; cases same; exact gone) now there
    have nonneg : 0 ≤ scope.override.depth := by
      omega
    exact ⟨stays, scope.closeTimes_of_not_installed ((later.after more).view now) nonneg stays⟩

/-- In a copy of the context the override is reverted, and its anchor is installed once more. -/
def reinstalledInCopy : List (Process.Event Unit) :=
  [.copy 0, .operate 1 (.revert hourEast), .operate 1 (.install hourEast lastHalfHour)]

theorem stale_scope_spares_equal_override :
    ∃ (later : Process Unit) (context : Context) (stale newer : Override),
      later.contexts[1]? = some context ∧
      context.entries hourEast.stack = [newer] ∧
      stale.anchor = newer.anchor ∧ stale.depth = newer.depth ∧
      ¬stale.Installed (context.entries hourEast.stack) ∧
      (TravelScope.mk hourEast stale).closeTimes 3 (later.view context) =
        (.ok (), later.view context) := by
  let start : Process Unit := Process.start .utc [] ()
  let operation : Operation Unit := .install hourEast lastHalfHour
  let stale : Override := (Context.empty 0).minted lastHalfHour 0
  let newer : Override := (Context.empty 1).minted lastHalfHour 0
  obtain ⟨context, found, held⟩ : ∃ context,
      ((start.step (.operate 0 operation)).after reinstalledInCopy).contexts[1]? = some context ∧
        context.entries hourEast.stack = [newer] :=
    ⟨_, rfl, rfl⟩
  have gone : ¬stale.Installed (context.entries hourEast.stack) := by
    rw [held, Override.installed_singleton_iff]
    decide
  have reachable : start.Reachable := ⟨.utc, [], (), [], rfl⟩
  have known : start.contexts[0]? = some (Context.empty 0) := rfl
  have pushed : (operation.perform (start.view (Context.empty 0))).2.entries hourEast.stack =
      (Context.empty 0).entries hourEast.stack ++ [stale] :=
    rfl
  have handles : (TravelScope.mk hourEast stale).override = stale := rfl
  have works : (TravelScope.mk hourEast stale).traveler.stack = hourEast.stack := rfl
  have restored := scope_restores_own_past reachable operation known pushed reinstalledInCopy rfl
    found handles works
  have spared := (restored.2 gone [] context found).2 3
  exact ⟨_, context, stale, newer, found, held, rfl, rfl, gone, spared⟩

end VirtualClock

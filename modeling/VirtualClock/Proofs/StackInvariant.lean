import VirtualClock.Proofs.Records

/-!
# The invariant of stacks

On every stack, in every context, each override lies at the index it was given,
its anchor is in universal time, and no override lies there twice.  Whatever
happens in a process keeps to this.

For this reason an override is found at its index or nowhere: looking there once
is as good as searching the whole stack.
-/

namespace VirtualClock

open Session (Departure depart)

variable {Memory : Type}

/-! ## One stack -/

namespace Override

/-- How the entries of a stack lie on it. -/
structure WellStacked (entries : List Override) : Prop where
  placed : ∀ (index : Nat) (entry : Override), entries[index]? = some entry → entry.depth = index
  pinned : ∀ entry ∈ entries, entry.anchor.zone = some .utc
  distinct : (entries.map Override.identity).Nodup

variable {entries : List Override} {override added : Override}

theorem wellStacked_nil : WellStacked [] where
  placed := fun index entry there => by cases there
  pinned := fun entry member => by cases member
  distinct := List.nodup_nil

theorem WellStacked.take (stacked : WellStacked entries) (kept : Nat) :
    WellStacked (entries.take kept) where
  placed := by
    intro index entry there
    rw [List.getElem?_take] at there
    by_cases inside : index < kept
    · rw [if_pos inside] at there
      exact stacked.placed index entry there
    · rw [if_neg inside] at there
      cases there
  pinned := fun entry member => stacked.pinned entry (List.mem_of_mem_take member)
  distinct := by
    rw [List.map_take]
    exact stacked.distinct.take

theorem WellStacked.push (stacked : WellStacked entries)
    (place : added.depth = entries.length) (utc : added.anchor.zone = some .utc)
    (fresh : ¬added.Installed entries) : WellStacked (entries ++ [added]) where
  placed := by
    intro index entry there
    rw [List.getElem?_append] at there
    by_cases inside : index < entries.length
    · rw [if_pos inside] at there
      exact stacked.placed index entry there
    · rw [if_neg inside, List.getElem?_singleton] at there
      obtain ⟨top, same⟩ := Option.ite_none_right_eq_some.mp there
      rw [← Option.some.inj same, place]
      omega
  pinned := by
    intro entry member
    rcases List.mem_append.mp member with old | new
    · exact stacked.pinned entry old
    · rw [List.mem_singleton.mp new]
      exact utc
  distinct := by
    rw [List.map_append, List.map_singleton]
    refine List.nodup_append.mpr ⟨stacked.distinct, by simp, ?_⟩
    intro identity held other new same
    obtain ⟨entry, member, rfl⟩ := List.mem_map.mp held
    rw [List.mem_singleton.mp new] at same
    exact fresh ⟨entry, member, same⟩

/-- On a well kept stack the entry on top is the one whose index is one less than the depth. -/
theorem WellStacked.getLast? (stacked : WellStacked entries)
    (top : entries.getLast? = some override) : override.depth = (entries.length : Int) - 1 := by
  rw [List.getLast?_eq_getElem?] at top
  have place := stacked.placed _ override top
  obtain ⟨inside, _⟩ := List.getElem?_eq_some_iff.mp top
  omega

/-- The search of a whole stack for this very override. -/
def isFound (override : Override) (entries : List Override) : Bool :=
  entries.any fun entry => entry.identity == override.identity

theorem isFound_iff : override.isFound entries ↔ override.Installed entries := by
  simp [isFound, Installed]

/-- Where no other entry bears the identity of an override, its index settles the search. -/
theorem isInstalled_eq_isFound (stacked : WellStacked entries) (nonneg : 0 ≤ override.depth)
    (only : ∀ entry ∈ entries, entry.identity = override.identity → entry = override) :
    override.isInstalled entries = .ok (override.isFound entries) := by
  by_cases installed : override.Installed entries
  · obtain ⟨entry, member, same⟩ := installed
    obtain ⟨index, there⟩ := List.mem_iff_getElem?.mp member
    rw [only entry member same] at there
    have place := stacked.placed index override there
    have found : override.isFound entries = true := isFound_iff.mpr ⟨entry, member, same⟩
    rw [isInstalled_of_nonneg entries nonneg, place, Int.toNat_natCast, there, found]
    simp
  · have missed : override.isFound entries = false := by
      rw [← Bool.not_eq_true, isFound_iff]
      exact installed
    rw [isInstalled_of_not_installed nonneg installed, missed]

end Override

/-! ## One context -/

/-- A change keeps every stack in order, as what the context makes next lies on none of them. -/
theorem Context.Changes.wellStacked {before after : Context} (change : before.Changes after)
    (fresh : ∀ stack anchor depth, ¬(before.minted anchor depth).Installed (before.entries stack))
    (stacked : ∀ stack, Override.WellStacked (before.entries stack)) (stack : StackKey) :
    Override.WellStacked (after.entries stack) := by
  cases change with
  | still => exact stacked stack
  | count => exact stacked stack
  | bind ambient => exact stacked stack
  | cut other kept =>
      rw [entries_cut]
      by_cases same : stack = other
      · rw [if_pos same]
        exact (stacked other).take kept
      · rw [if_neg same]
        exact stacked stack
  | @push other anchor utc =>
      rw [entries_pushed]
      by_cases same : stack = other
      · rw [if_pos same]
        exact (stacked other).push rfl utc (fresh other anchor _)
      · rw [if_neg same]
        exact stacked stack

/-! ## All contexts -/

namespace Contexts

variable {before after : List Context}

/-- Every identity is spent, and every stack is in order. -/
structure WellKept (contexts : List Context) : Prop where
  sound : IsSound contexts
  stacked : ∀ context ∈ contexts, ∀ stack, Override.WellStacked (context.entries stack)

theorem wellKept_start : WellKept [Context.empty 0] where
  sound := isSound_start
  stacked := by
    intro context member stack
    rw [List.mem_singleton.mp member]
    exact Override.wellStacked_nil

theorem Moves.wellKept (move : Moves before after) (kept : WellKept before) : WellKept after where
  sound := move.isSound kept.sound
  stacked := by
    intro context member stack
    obtain ⟨index, found⟩ := List.mem_iff_getElem?.mp member
    rcases move.context_cases found with
      ⟨earlier, known, change⟩ | ⟨_, _, ⟨source, old, same⟩ | empty⟩
    · have old := List.mem_of_getElem? known
      exact change.wellStacked (kept.sound.not_installed old old) (kept.stacked earlier old) stack
    · rw [same]
      exact kept.stacked source old stack
    · rw [empty]
      exact Override.wellStacked_nil

/-- Nothing but the override itself bears its identity, on whatever stack. -/
def KnowOnly (override : Override) (contexts : List Context) : Prop :=
  ∀ context ∈ contexts, ∀ (stack : StackKey), ∀ entry ∈ context.entries stack,
    entry.identity = override.identity → entry = override

theorem Moves.knowOnly {override : Override} (move : Moves before after)
    (spent : Spent before override.identity) (only : KnowOnly override before) :
    KnowOnly override after := by
  intro context member stack entry held same
  obtain ⟨index, found⟩ := List.mem_iff_getElem?.mp member
  rcases move.context_cases found with
    ⟨earlier, known, change⟩ | ⟨_, _, ⟨source, old, equal⟩ | empty⟩
  · have old := List.mem_of_getElem? known
    rcases change.entry_cases held with kept | ⟨made, _⟩
    · exact only earlier old stack entry kept same
    -- a spent identity is not made again
    · have passed := spent.2 earlier old
      rw [← same, made] at passed
      exact absurd (passed rfl) (Nat.lt_irrefl _)
  · rw [equal] at held
    exact only source old stack entry held same
  · rw [empty] at held
    cases held

theorem IsSound.knowOnly_pushed {contexts : List Context} {index : Nat} {context : Context}
    (sound : IsSound contexts) (known : contexts[index]? = some context) (stack : StackKey)
    (anchor : Moment) :
    KnowOnly (context.minted anchor (context.entries stack).length)
      (contexts.set index (context.pushed stack anchor)) := by
  have member := List.mem_of_getElem? known
  have unseen : ∀ other ∈ contexts, ∀ key,
      ¬(context.minted anchor (context.entries stack).length).Installed (other.entries key) :=
    fun _ elsewhere key => sound.not_installed member elsewhere key anchor _
  intro other held key entry lies same
  rcases List.mem_or_eq_of_mem_set held with old | rfl
  · exact absurd ⟨entry, lies, same⟩ (unseen other old key)
  · rw [Context.entries_pushed] at lies
    by_cases own : key = stack
    · rw [if_pos own] at lies
      rcases List.mem_append.mp lies with old | new
      · exact absurd ⟨entry, old, same⟩ (unseen context member stack)
      · exact List.mem_singleton.mp new
    · rw [if_neg own] at lies
      exact absurd ⟨entry, lies, same⟩ (unseen context member key)

end Contexts

/-! ## Overrides that were given out -/

/-- The operation gives out the override of the anchor that it pins. -/
inductive Operation.Returns (world : World Memory) (override : Override) :
    Operation Memory → Prop
  | push {stack : StackKey} {anchor : Moment} :
      (Stack.push stack anchor world).1 = .ok override → Returns world override (.push stack anchor)
  | install {traveler : Traveler} {anchor : Moment} :
      (traveler.install anchor world).1 = .ok override →
      Returns world override (.install traveler anchor)
  | depart {traveler : Traveler} {departure : Departure} :
      (Session.depart traveler departure (.absent : TravelBody Memory Unit) world).1 =
        .ok (.opened ⟨traveler, override⟩) →
      Returns world override (.depart traveler departure)

theorem Stack.push_eq_ok {stack : StackKey} {anchor : Moment} {world after : World Memory}
    {override : Override} (ran : push stack anchor world = (.ok override, after)) :
    ∃ pinned, override = world.context.minted pinned (world.entries stack).length ∧
      after.context = world.context.pushed stack pinned := by
  rw [push_apply] at ran
  cases anchored : anchor.asAnchor world.system with
  | error fault =>
      rw [anchored] at ran
      cases ran
  | ok pinned =>
      rw [anchored] at ran
      cases ran
      exact ⟨pinned, rfl, rfl⟩

/-- Whatever gives out an override has pushed it. -/
theorem Operation.Returns.exists_pushed {operation : Operation Memory} {world : World Memory}
    {override : Override} (returned : operation.Returns world override) :
    ∃ stack anchor, (operation.perform world).2.context = world.context.pushed stack anchor ∧
      override = world.context.minted anchor (world.context.entries stack).length := by
  cases returned with
  | @push stack anchor returned =>
      obtain ⟨pinned, made, pushed⟩ := Stack.push_eq_ok (Prod.ext returned rfl)
      refine ⟨stack, pinned, ?_, made⟩
      rw [perform, Run.bind_pure_world, pushed]
  | @install traveler anchor returned =>
      obtain ⟨pinned, _, _, made, pushed⟩ := Traveler.install_eq_ok (Prod.ext returned rfl)
      refine ⟨traveler.stack, pinned, ?_, made⟩
      rw [perform, Run.bind_pure_world, pushed]
  | @depart traveler departure returned =>
      rw [Traveler.depart_absent_apply] at returned
      cases led : (traveler.destination departure world).1 with
      | error fault =>
          rw [led] at returned
          cases returned
      | ok anchor =>
          rw [led] at returned
          cases returned
          refine ⟨traveler.stack, anchor, ?_, rfl⟩
          rw [perform, Run.bind_pure_world, Traveler.depart_absent_apply, led]
          rfl

namespace Process

/-- At some moment of the past of the process an operation gave out the override. -/
def HasGivenOut (process : Process Memory) (override : Override) : Prop :=
  ∃ (earlier : Process Memory) (index : Nat) (context : Context) (operation : Operation Memory)
    (events : List (Event Memory)),
    earlier.Reachable ∧ earlier.contexts[index]? = some context ∧
      operation.Returns (earlier.view context) override ∧
      process = (earlier.step (.operate index operation)).after events

variable {process : Process Memory} {override : Override}

theorem Reachable.wellKept (reachable : process.Reachable) :
    Contexts.WellKept process.contexts := by
  obtain ⟨system, clocks, memory, events, rfl⟩ := reachable
  exact after_induction Contexts.WellKept (fun _ _ move kept => move.wellKept kept) _ events
    Contexts.wellKept_start

/-- An override that was given out has a place, and wherever its identity turns up it is this
very override. -/
theorem HasGivenOut.knowOnly (given : process.HasGivenOut override) :
    0 ≤ override.depth ∧ Contexts.KnowOnly override process.contexts := by
  obtain ⟨earlier, index, context, operation, events, reachable, known, returned, rfl⟩ := given
  obtain ⟨stack, anchor, after, rfl⟩ := returned.exists_pushed
  have pushed : (operation.perform (earlier.view context)).2.context =
      context.pushed stack anchor :=
    after
  have sound := reachable.isSound
  have change := operation.perform_changes (earlier.view context)
  have grown : (operation.perform (earlier.view context)).2.context.entries stack =
      context.entries stack ++ [context.minted anchor (context.entries stack).length] := by
    rw [pushed]
    exact context.entries_pushed_self stack anchor
  obtain ⟨_, _, spent, _⟩ := sound.push known change grown
  have only := sound.knowOnly_pushed known stack anchor
  have contexts := earlier.operate_contexts operation known
  rw [pushed] at contexts spent
  rw [← contexts] at only spent
  refine ⟨Int.natCast_nonneg _, (after_induction
    (fun contexts => Contexts.Spent contexts _ ∧ Contexts.KnowOnly _ contexts)
    (fun _ _ move held => ⟨move.spent held.1, move.knowOnly held.1 held.2⟩)
    _ events ⟨spent, only⟩).2⟩

end Process

theorem World.Reachable.wellStacked {world : World Memory} (reachable : world.Reachable)
    (stack : StackKey) : Override.WellStacked (world.entries stack) := by
  obtain ⟨process, context, reached, member, rfl⟩ := reachable
  exact reached.wellKept.stacked context member stack

/-! ## The law -/

/-- On every stack of every context that can be reached, each entry lies at its index and is
pinned in universal time, and none lies there twice.  Therefore the look at its index finds any
override that was ever given out exactly when a search of the whole stack does, and without a
fault; the depth counts the entries, and the one in force is the one at the last index. -/
theorem stack_keeps_its_representation {process : Process Memory} (reachable : process.Reachable)
    {context : Context} (member : context ∈ process.contexts) (stack : StackKey) :
    (∀ (index : Nat) (entry : Override), (context.entries stack)[index]? = some entry →
      entry.depth = index ∧ entry.anchor.isAware ∧ entry.anchor.offset? = some 0) ∧
    ((context.entries stack).map Override.identity).Nodup ∧
    (∀ override, process.HasGivenOut override →
      Stack.contains stack override (process.view context) =
        (.ok (override.isFound (context.entries stack)), process.view context)) ∧
    Stack.depth stack (process.view context) =
      (.ok (context.entries stack).length, process.view context) ∧
    ∃ top, Stack.peek stack (process.view context) = (.ok top, process.view context) ∧
      (∀ traveler : Traveler, traveler.stack = stack →
        traveler.currentOverride (process.view context) = (.ok top, process.view context)) ∧
      (top = none ↔ context.entries stack = []) ∧
      ∀ override, top = some override →
        override ∈ context.entries stack ∧
          override.depth = ((context.entries stack).length : Int) - 1 := by
  have kept := reachable.wellKept
  have stacked := kept.stacked context member stack
  refine ⟨?_, stacked.distinct, ?_, rfl, (context.entries stack).getLast?, rfl, ?_,
    List.getLast?_eq_none_iff, ?_⟩
  · intro index entry there
    have utc := stacked.pinned entry (List.mem_of_getElem? there)
    exact ⟨stacked.placed index entry there, Moment.isAware_of_utc utc,
      Moment.offset?_of_utc utc⟩
  · intro override given
    obtain ⟨nonneg, only⟩ := given.knowOnly
    have settled := Override.isInstalled_eq_isFound stacked nonneg (only context member stack)
    rw [Stack.contains_apply, ← settled]
    rfl
  · rintro traveler rfl
    rfl
  · intro override top
    exact ⟨List.mem_of_getLast? top, stacked.getLast? top⟩

/-- After the override was installed once more in a copy of its context, the index tells the
first one from the second one there. -/
theorem reinstalled_override_is_told_apart :
    ∃ (process : Process Unit) (context : Context) (stale newer : Override),
      process.Reachable ∧ context ∈ process.contexts ∧
      process.HasGivenOut stale ∧ process.HasGivenOut newer ∧
      stale.anchor = newer.anchor ∧ stale.depth = newer.depth ∧
      Stack.contains hourEast.stack stale (process.view context) =
        (.ok false, process.view context) ∧
      Stack.contains hourEast.stack newer (process.view context) =
        (.ok true, process.view context) := by
  let start : Process Unit := Process.start .utc [] ()
  let operation : Operation Unit := .install hourEast lastHalfHour
  let reverted : Process Unit :=
    (start.step (.operate 0 operation)).after [.copy 0, .operate 1 (.revert hourEast)]
  let process : Process Unit := reverted.step (.operate 1 operation)
  let stale : Override := (Context.empty 0).minted lastHalfHour 0
  let newer : Override := (Context.empty 1).minted lastHalfHour 0
  have started : start.Reachable := ⟨.utc, [], (), [], rfl⟩
  have reached : reverted.Reachable :=
    started.after [.operate 0 operation, .copy 0, .operate 1 (.revert hourEast)]
  have reachable : process.Reachable := reached.after [.operate 1 operation]
  have staleGiven : process.HasGivenOut stale :=
    ⟨start, 0, Context.empty 0, operation, reinstalledInCopy, started, rfl, .install rfl, rfl⟩
  obtain ⟨copied, known, empty⟩ : ∃ context,
      reverted.contexts[1]? = some context ∧ context = ⟨1, 0, [], none⟩ :=
    ⟨_, rfl, rfl⟩
  have newerGiven : process.HasGivenOut newer :=
    ⟨reverted, 1, copied, operation, [], reached, known, .install (by rw [empty]; rfl), rfl⟩
  obtain ⟨context, found, held⟩ : ∃ context,
      process.contexts[1]? = some context ∧ context.entries hourEast.stack = [newer] :=
    ⟨_, rfl, rfl⟩
  have member := List.mem_of_getElem? found
  have law := (stack_keeps_its_representation reachable member hourEast.stack).2.2.1
  rw [held] at law
  exact ⟨process, context, stale, newer, reachable, member, staleGiven, newerGiven, rfl, rfl,
    law stale staleGiven, law newer newerGiven⟩

end VirtualClock

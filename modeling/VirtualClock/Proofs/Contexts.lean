import VirtualClock.Proofs.Operations

/-!
# Contexts of one program

A program can have any number of contexts.  One of them changes at a time, as an
operation changes it, and a new one starts out empty or with what another one
holds.

No identity of an override is ever given out twice.  For this reason the entries
below an override stay what they were when it was pushed, in every context in
which it is still installed.
-/

namespace VirtualClock

/-! ## Overrides that rest on a past -/

namespace Override

/-- The stack holds this very override, whatever its anchor. -/
def Installed (override : Override) (entries : List Override) : Prop :=
  ∃ entry ∈ entries, entry.identity = override.identity

/-- Where the override is installed, the entries below it are the given ones. -/
def RestsOn (past : List Override) (override : Override) (entries : List Override) : Prop :=
  override.Installed entries → ∃ above, entries = past ++ override :: above

variable {past entries : List Override} {override added : Override}

theorem not_installed_nil (override : Override) : ¬override.Installed [] := by
  rintro ⟨entry, member, _⟩
  exact List.not_mem_nil member

theorem installed_append_iff :
    override.Installed (past ++ entries) ↔
      override.Installed past ∨ override.Installed entries := by
  simp only [Installed, List.mem_append, or_and_right, exists_or]

theorem installed_singleton_iff :
    override.Installed [added] ↔ added.identity = override.identity := by
  simp [Installed]

theorem Installed.of_take {kept : Nat} (installed : override.Installed (entries.take kept)) :
    override.Installed entries := by
  obtain ⟨entry, member, same⟩ := installed
  exact ⟨entry, List.mem_of_mem_take member, same⟩

theorem RestsOn.append (rests : RestsOn past override entries)
    (other : added.identity ≠ override.identity) :
    RestsOn past override (entries ++ [added]) := by
  intro installed
  rcases installed_append_iff.mp installed with earlier | last
  · obtain ⟨above, rfl⟩ := rests earlier
    exact ⟨above ++ [added], by simp⟩
  · exact absurd (installed_singleton_iff.mp last) other

/-- Cutting a stack either removes the override or leaves it on its past. -/
theorem RestsOn.take (rests : RestsOn past override entries)
    (unseen : ¬override.Installed past) (kept : Nat) :
    RestsOn past override (entries.take kept) := by
  intro installed
  obtain ⟨above, rfl⟩ := rests installed.of_take
  -- a cut within the past cannot leave the override, which is not in the past
  by_cases beyond : past.length < kept
  · refine ⟨above.take (kept - past.length - 1), ?_⟩
    obtain ⟨more, rfl⟩ : ∃ more, kept = past.length + (more + 1) :=
      ⟨kept - past.length - 1, by omega⟩
    rw [List.take_length_add_append, List.take_succ_cons]
    simp
  · rw [List.take_append_of_le_length (by omega)] at installed
    exact absurd installed.of_take unseen

theorem restsOn_take {index : Nat} (placed : entries[index]? = some override) :
    RestsOn (entries.take index) override entries := by
  obtain ⟨inside, rfl⟩ := List.getElem?_eq_some_iff.mp placed
  refine fun _ => ⟨entries.drop (index + 1), ?_⟩
  rw [List.getElem_cons_drop, List.take_append_drop]

theorem restsOn_self (past : List Override) (override : Override) :
    RestsOn past override (past ++ [override]) :=
  fun _ => ⟨[], rfl⟩

end Override

/-! ## Identities -/

namespace Context

variable {before after : Context}

/-- The context will not give the identity to an override any more. -/
def HasPassed (context : Context) (identity : OverrideIdentity) : Prop :=
  identity.context = context.identity → identity.serial < context.serial

theorem Changes.identity_eq (change : before.Changes after) :
    after.identity = before.identity := by
  cases change <;> rfl

theorem Changes.serial_le (change : before.Changes after) : before.serial ≤ after.serial := by
  cases change with
  | still => exact Nat.le_refl _
  | push stack zoned => exact Nat.le_succ _
  | cut stack kept => exact Nat.le_refl _
  | count => exact Nat.le_succ _
  | bind ambient => exact Nat.le_refl _

theorem Changes.hasPassed {identity : OverrideIdentity} (change : before.Changes after)
    (passed : before.HasPassed identity) : after.HasPassed identity := by
  intro own
  rw [change.identity_eq] at own
  exact Nat.lt_of_lt_of_le (passed own) change.serial_le

/-- An entry after a change was there before it, or it is the one that the change made. -/
theorem Changes.entry_cases {stack : StackKey} {entry : Override} (change : before.Changes after)
    (member : entry ∈ after.entries stack) :
    entry ∈ before.entries stack ∨
      entry.identity = ⟨before.identity, before.serial⟩ ∧ before.serial < after.serial := by
  cases change with
  | still => exact Or.inl member
  | count => exact Or.inl member
  | bind ambient => exact Or.inl member
  | cut other kept =>
      rw [entries_cut] at member
      by_cases same : stack = other
      · rw [if_pos same] at member
        exact Or.inl (same ▸ List.mem_of_mem_take member)
      · rw [if_neg same] at member
        exact Or.inl member
  | push other zoned =>
      rw [entries_pushed] at member
      by_cases same : stack = other
      · rw [if_pos same] at member
        rcases List.mem_append.mp member with old | new
        · exact Or.inl (same ▸ old)
        · rw [List.mem_singleton.mp new]
          exact Or.inr ⟨rfl, Nat.lt_succ_self _⟩
      · rw [if_neg same] at member
        exact Or.inl member

/-- Only a push lets a stack grow. -/
theorem Changes.exists_of_grown {stack : StackKey} {override : Override}
    (change : before.Changes after)
    (grown : after.entries stack = before.entries stack ++ [override]) :
    ∃ anchor, override = before.minted anchor (before.entries stack).length ∧
      before.serial < after.serial := by
  have longer : (after.entries stack).length = (before.entries stack).length + 1 := by
    rw [grown]
    simp
  cases change with
  | still => exact absurd longer (by omega)
  | count => exact absurd longer (Nat.ne_of_lt (Nat.lt_succ_self _))
  | bind ambient => exact absurd longer (Nat.ne_of_lt (Nat.lt_succ_self _))
  | cut other kept =>
      rw [entries_cut] at longer
      by_cases same : stack = other
      · rw [if_pos same, List.length_take, ← same] at longer
        omega
      · rw [if_neg same] at longer
        omega
  | @push other anchor zoned =>
      rw [entries_pushed] at longer grown
      by_cases same : stack = other
      · rw [if_pos same, ← same] at grown
        have last := List.append_cancel_left grown
        exact ⟨anchor, (List.singleton_inj.mp last).symm, Nat.lt_succ_self _⟩
      · rw [if_neg same] at longer
        omega

/-- A change in a context that will not make the override again leaves its past alone. -/
theorem Changes.restsOn {past : List Override} {override : Override} {stack : StackKey}
    (change : before.Changes after) (passed : before.HasPassed override.identity)
    (unseen : ¬override.Installed past)
    (rests : override.RestsOn past (before.entries stack)) :
    override.RestsOn past (after.entries stack) := by
  cases change with
  | still => exact rests
  | count => exact rests
  | bind ambient => exact rests
  | cut other kept =>
      rw [entries_cut]
      by_cases same : stack = other
      · rw [if_pos same, ← same]
        exact rests.take unseen kept
      · rw [if_neg same]
        exact rests
  | push other zoned =>
      rw [entries_pushed]
      by_cases same : stack = other
      · rw [if_pos same, ← same]
        refine rests.append fun equal => ?_
        rw [← equal] at passed
        exact absurd (passed rfl) (Nat.lt_irrefl _)
      · rw [if_neg same]
        exact rests

end Context

/-! ## Moves of all contexts -/

/-- How the contexts of a program can change in one stroke. -/
inductive Contexts.Moves (contexts : List Context) : List Context → Prop
  | still : Moves contexts contexts
  | change {index : Nat} {before after : Context} :
      contexts[index]? = some before → before.Changes after →
      Moves contexts (contexts.set index after)
  | copy {source : Context} :
      source ∈ contexts → Moves contexts (contexts ++ [source.copy contexts.length])
  | thread : Moves contexts (contexts ++ [Context.empty contexts.length])

namespace Contexts

variable {before after : List Context} {identity : OverrideIdentity}

/-- Every context bears its own number. -/
def Numbered (contexts : List Context) : Prop :=
  ∀ (index : Nat) (context : Context), contexts[index]? = some context → context.identity = index

/-- The identity was given out, and no context, present or future, gives it out again. -/
def Spent (contexts : List Context) (identity : OverrideIdentity) : Prop :=
  identity.context < contexts.length ∧ ∀ context ∈ contexts, context.HasPassed identity

theorem concat_cases {contexts : List Context} {last context : Context} {index : Nat}
    (found : (contexts ++ [last])[index]? = some context) :
    contexts[index]? = some context ∨ index = contexts.length ∧ last = context := by
  rw [List.getElem?_append] at found
  by_cases inside : index < contexts.length
  · rw [if_pos inside] at found
    exact Or.inl found
  · rw [if_neg inside, List.getElem?_singleton] at found
    obtain ⟨place, same⟩ := Option.ite_none_right_eq_some.mp found
    exact Or.inr ⟨by omega, Option.some.inj same⟩

/-- A context after a move comes from one that was there, or it is a new one with the next
number that holds nothing but what some context held. -/
theorem Moves.context_cases {index : Nat} {context : Context} (move : Moves before after)
    (found : after[index]? = some context) :
    (∃ earlier, before[index]? = some earlier ∧ earlier.Changes context) ∨
      index = before.length ∧ context.identity = before.length ∧
        ((∃ source ∈ before, ∀ stack, context.entries stack = source.entries stack) ∨
          ∀ stack, context.entries stack = []) := by
  cases move with
  | still => exact Or.inl ⟨context, found, .still context⟩
  | @change changed earlier later known change =>
      rw [List.getElem?_set] at found
      by_cases same : changed = index
      · subst same
        obtain ⟨inside, _⟩ := List.getElem?_eq_some_iff.mp known
        rw [if_pos rfl, if_pos inside] at found
        cases found
        exact Or.inl ⟨earlier, known, change⟩
      · rw [if_neg same] at found
        exact Or.inl ⟨context, found, .still context⟩
  | @copy source member =>
      rcases concat_cases found with old | ⟨place, rfl⟩
      · exact Or.inl ⟨context, old, .still context⟩
      · exact Or.inr ⟨place, rfl, Or.inl ⟨source, member, fun stack => rfl⟩⟩
  | thread =>
      rcases concat_cases found with old | ⟨place, rfl⟩
      · exact Or.inl ⟨context, old, .still context⟩
      · exact Or.inr ⟨place, rfl, Or.inr fun stack => rfl⟩

theorem Moves.length_le (move : Moves before after) : before.length ≤ after.length := by
  cases move with
  | still => exact Nat.le_refl _
  | change known change => exact Nat.le_of_eq List.length_set.symm
  | copy member => simp
  | thread => simp

theorem Moves.numbered (move : Moves before after) (numbered : Numbered before) :
    Numbered after := by
  intro index context found
  rcases move.context_cases found with ⟨earlier, known, change⟩ | ⟨rfl, own, _⟩
  · rw [change.identity_eq, numbered index earlier known]
  · exact own

theorem Moves.spent (move : Moves before after) (spent : Spent before identity) :
    Spent after identity := by
  refine ⟨Nat.lt_of_lt_of_le spent.1 move.length_le, fun context member => ?_⟩
  obtain ⟨index, found⟩ := List.mem_iff_getElem?.mp member
  rcases move.context_cases found with ⟨earlier, known, change⟩ | ⟨_, own, _⟩
  · exact change.hasPassed (spent.2 earlier (List.mem_of_getElem? known))
  · intro same
    rw [own] at same
    exact absurd spent.1 (by omega)

/-- Every installed override bears a spent identity. -/
structure IsSound (contexts : List Context) : Prop where
  numbered : Numbered contexts
  spent : ∀ context ∈ contexts, ∀ (stack : StackKey), ∀ entry ∈ context.entries stack,
    Spent contexts entry.identity

theorem isSound_start : IsSound [Context.empty 0] := by
  constructor
  · intro index context found
    cases index with
    | zero => exact (Option.some.inj found) ▸ rfl
    | succ index => cases found
  · intro context member stack entry held
    rw [List.mem_singleton.mp member] at held
    cases held

/-- What a changed context makes is spent at once. -/
theorem spent_of_made {index : Nat} {earlier context : Context} (move : Moves before after)
    (numbered : Numbered before) (known : before[index]? = some earlier)
    (found : after[index]? = some context) (made : earlier.serial < context.serial) :
    Spent after ⟨earlier.identity, earlier.serial⟩ := by
  obtain ⟨inside, _⟩ := List.getElem?_eq_some_iff.mp known
  refine ⟨?_, fun other member => ?_⟩
  · rw [numbered index earlier known]
    exact Nat.lt_of_lt_of_le inside move.length_le
  · intro own
    obtain ⟨place, there⟩ := List.mem_iff_getElem?.mp member
    -- contexts bear their places as numbers, so the one with this number is the changed one
    have same : place = index := by
      rw [← move.numbered numbered place other there, ← own]
      exact numbered index earlier known
    rw [same, found] at there
    cases there
    exact made

theorem Moves.isSound (move : Moves before after) (sound : IsSound before) : IsSound after := by
  refine ⟨move.numbered sound.numbered, fun context member stack entry held => ?_⟩
  obtain ⟨index, found⟩ := List.mem_iff_getElem?.mp member
  rcases move.context_cases found with ⟨earlier, known, change⟩ | ⟨_, _, ⟨source, old, same⟩ | empty⟩
  -- the only entry that can be new is the one that the change itself has made
  · rcases change.entry_cases held with kept | ⟨made, grown⟩
    · exact move.spent (sound.spent earlier (List.mem_of_getElem? known) stack entry kept)
    · rw [made]
      exact spent_of_made move sound.numbered known found grown
  · rw [same] at held
    exact move.spent (sound.spent source old stack entry held)
  · rw [empty] at held
    cases held

/-- What a context has yet to make is installed nowhere. -/
theorem IsSound.not_installed {contexts : List Context} {context other : Context}
    (sound : IsSound contexts) (member : context ∈ contexts) (elsewhere : other ∈ contexts)
    (stack : StackKey) (anchor : Moment) (depth : Int) :
    ¬(context.minted anchor depth).Installed (other.entries stack) := by
  rintro ⟨entry, held, same⟩
  have passed := (sound.spent other elsewhere stack entry held).2 context member
  rw [same] at passed
  exact absurd (passed rfl) (Nat.lt_irrefl _)

/-- In every context the override rests on its past. -/
def RestOn (past : List Override) (override : Override) (stack : StackKey)
    (contexts : List Context) : Prop :=
  ∀ context ∈ contexts, override.RestsOn past (context.entries stack)

theorem Moves.restOn {past : List Override} {override : Override} {stack : StackKey}
    (move : Moves before after) (spent : Spent before override.identity)
    (unseen : ¬override.Installed past) (rest : RestOn past override stack before) :
    RestOn past override stack after := by
  intro context member
  obtain ⟨index, found⟩ := List.mem_iff_getElem?.mp member
  rcases move.context_cases found with ⟨earlier, known, change⟩ | ⟨_, _, ⟨source, old, same⟩ | empty⟩
  · have old := List.mem_of_getElem? known
    exact change.restsOn (spent.2 earlier old) unseen (rest earlier old)
  · rw [same]
    exact rest source old
  · rw [empty]
    exact fun installed => absurd installed override.not_installed_nil

/-- What a push leaves behind: its override will not be made again and rests, wherever it is
installed, on the entries that it was pushed onto. -/
theorem IsSound.push {contexts : List Context} {index : Nat} {earlier later : Context}
    {stack : StackKey} {override : Override} (sound : IsSound contexts)
    (known : contexts[index]? = some earlier) (change : earlier.Changes later)
    (grown : later.entries stack = earlier.entries stack ++ [override]) :
    override.depth = (earlier.entries stack).length ∧
      ¬override.Installed (earlier.entries stack) ∧
      Spent (contexts.set index later) override.identity ∧
      RestOn (earlier.entries stack) override stack (contexts.set index later) := by
  obtain ⟨inside, _⟩ := List.getElem?_eq_some_iff.mp known
  have member := List.mem_of_getElem? known
  have found : (contexts.set index later)[index]? = some later :=
    List.getElem?_set_self inside
  obtain ⟨anchor, made, counted⟩ := change.exists_of_grown grown
  have unseen : ∀ other ∈ contexts, ¬override.Installed (other.entries stack) := by
    intro other elsewhere
    rw [made]
    exact sound.not_installed member elsewhere stack anchor _
  refine ⟨by rw [made]; rfl, unseen earlier member, ?_, ?_⟩
  · rw [made]
    exact spent_of_made (.change known change) sound.numbered known found counted
  · intro context held
    rcases List.mem_or_eq_of_mem_set held with old | rfl
    · exact fun installed => absurd installed (unseen context old)
    · rw [grown]
      exact Override.restsOn_self _ _

/-- An override that is gone from a context stays gone from it. -/
theorem Moves.not_installed {override : Override} {stack : StackKey} {index : Nat}
    (move : Moves before after) (spent : Spent before override.identity)
    (inside : index < before.length)
    (gone : ∀ context, before[index]? = some context →
      ¬override.Installed (context.entries stack))
    {context : Context} (found : after[index]? = some context) :
    ¬override.Installed (context.entries stack) := by
  rcases move.context_cases found with ⟨earlier, known, change⟩ | ⟨last, _⟩
  · rintro ⟨entry, held, same⟩
    rcases change.entry_cases held with kept | ⟨made, _⟩
    · exact gone earlier known ⟨entry, kept, same⟩
    · have passed := spent.2 earlier (List.mem_of_getElem? known)
      rw [← same, made] at passed
      exact absurd (passed rfl) (Nat.lt_irrefl _)
  · exact absurd last (Nat.ne_of_lt inside)

end Contexts

end VirtualClock

import VirtualClock.World

/-!
# How operations on the world compose

An operation is a function of the world, and a sequence of operations stops at
the first fault.  The equations here open a sequence one operation at a time,
and a computation that can fail one step at a time.
An operation that only reads the world hands on the very world it was given.
-/

namespace VirtualClock

variable {Memory First Second : Type}

/-! ## Outcomes -/

namespace Outcome

variable {Failure : Type}

theorem bind_eq_ok_iff {outcome : Except Failure First} {next : First → Except Failure Second}
    {result : Second} :
    (outcome >>= next) = .ok result ↔ ∃ first, outcome = .ok first ∧ next first = .ok result := by
  cases outcome with
  | error failure => simp [bind, Except.bind]
  | ok first => simp [bind, Except.bind]

theorem bind_eq_error_iff {outcome : Except Failure First} {next : First → Except Failure Second}
    {failure : Failure} :
    (outcome >>= next) = .error failure ↔
      outcome = .error failure ∨ ∃ first, outcome = .ok first ∧ next first = .error failure := by
  cases outcome with
  | error reason => simp [bind, Except.bind]
  | ok first => simp [bind, Except.bind]

theorem map_eq_ok_iff {outcome : Except Failure First} {change : First → Second}
    {result : Second} :
    outcome.map change = .ok result ↔ ∃ first, outcome = .ok first ∧ change first = result := by
  cases outcome with
  | error failure => simp [Except.map]
  | ok first => simp [Except.map]

theorem map_eq_error_iff {outcome : Except Failure First} {change : First → Second}
    {failure : Failure} : outcome.map change = .error failure ↔ outcome = .error failure := by
  cases outcome with
  | error reason => simp [Except.map]
  | ok first => simp [Except.map]

theorem mapError_eq_ok_iff {Other : Type} {outcome : Except Failure First}
    {change : Failure → Other} {result : First} :
    outcome.mapError change = .ok result ↔ outcome = .ok result := by
  cases outcome with
  | error failure => exact ⟨nofun, nofun⟩
  | ok first =>
    constructor
    · exact fun same => congrArg Except.ok (Except.ok.inj same)
    · exact fun same => congrArg Except.ok (Except.ok.inj same)

theorem mapError_eq_error_iff {Other : Type} {outcome : Except Failure First}
    {change : Failure → Other} {failure : Other} :
    outcome.mapError change = .error failure ↔
      ∃ reason, outcome = .error reason ∧ failure = change reason := by
  cases outcome with
  | error reason =>
    constructor
    · exact fun same => ⟨reason, rfl, (Except.error.inj same).symm⟩
    · rintro ⟨other, same, rfl⟩
      cases same
      rfl
  | ok first => exact ⟨nofun, nofun⟩

end Outcome

namespace Run

/-! ## Sequences -/

@[simp]
theorem pure_apply (result : First) (world : World Memory) :
    (pure result : Run Memory First) world = (.ok result, world) :=
  rfl

@[simp]
theorem fail_apply (fault : Fault) (world : World Memory) :
    (fail fault : Run Memory First) world = (.error fault, world) :=
  rfl

@[simp]
theorem ofExcept_apply (outcome : Except Fault First) (world : World Memory) :
    (ofExcept outcome : Run Memory First) world = (outcome, world) :=
  rfl

@[simp]
theorem modifyWorld_apply (change : World Memory → World Memory) (world : World Memory) :
    modifyWorld change world = (.ok (), change world) :=
  rfl

theorem bind_of_ok {action : Run Memory First} {next : First → Run Memory Second}
    {world after : World Memory} {result : First}
    (ran : action world = (.ok result, after)) :
    (action >>= next) world = next result after := by
  simp only [bind, ExceptT.bind, ExceptT.mk, StateT.bind, ran, ExceptT.bindCont]

theorem bind_of_error {action : Run Memory First} {next : First → Run Memory Second}
    {world after : World Memory} {fault : Fault}
    (ran : action world = (.error fault, after)) :
    (action >>= next) world = (.error fault, after) := by
  simp only [bind, ExceptT.bind, ExceptT.mk, StateT.bind, ran, ExceptT.bindCont]
  rfl

@[simp]
theorem world_bind (next : World Memory → Run Memory Second) (world : World Memory) :
    (Run.world >>= next) world = next world world :=
  rfl

@[simp]
theorem modifyWorld_bind (change : World Memory → World Memory)
    (next : Unit → Run Memory Second) (world : World Memory) :
    (modifyWorld change >>= next) world = next () (change world) :=
  rfl

@[simp]
theorem ofExcept_bind (outcome : Except Fault First) (next : First → Run Memory Second)
    (world : World Memory) :
    (ofExcept outcome >>= next) world =
      match outcome with
      | .ok result => next result world
      | .error fault => (.error fault, world) := by
  cases outcome <;> rfl

/-- A result that is only put into another form. -/
theorem bind_pure_apply (action : Run Memory First) (form : First → Second)
    (world : World Memory) :
    (action >>= fun first => pure (form first)) world =
      ((action world).1.map form, (action world).2) := by
  rcases ran : action world with ⟨fault | first, after⟩
  · exact bind_of_error ran
  · exact bind_of_ok ran

theorem attempt_apply (action : Run Memory First) (world : World Memory) :
    attempt action world = (.ok (action world).1, (action world).2) :=
  rfl

/-- A cleanup that meets no fault leaves the outcome of the action as it was. -/
theorem ensuring_of_ok {action : Run Memory First} {cleanup : Run Memory Unit}
    {world left after : World Memory} {outcome : Except Fault First}
    (ran : action world = (outcome, left)) (cleaned : cleanup left = (.ok (), after)) :
    ensuring action cleanup world = (outcome, after) := by
  have attempted : attempt action world = (.ok outcome, left) := by
    rw [attempt_apply, ran]
  unfold ensuring
  rw [bind_of_ok attempted, bind_of_ok cleaned, ofExcept_apply]

/-- Whatever the outcome, the cleanup starts in the world that the action left. -/
theorem ensuring_world (action : Run Memory First) (cleanup : Run Memory Unit)
    (world : World Memory) :
    (ensuring action cleanup world).2 = (cleanup (action world).2).2 := by
  unfold ensuring
  rw [bind_of_ok (attempt_apply action world)]
  rcases cleaned : cleanup (action world).2 with ⟨fault | result, after⟩
  · rw [bind_of_error cleaned]
  · rw [bind_of_ok cleaned, ofExcept_apply]

/-! ## Reading -/

/-- The action leaves every world as it finds it. -/
def OnlyReads (action : Run Memory First) : Prop :=
  ∀ world, (action world).2 = world

theorem onlyReads_pure (result : First) : OnlyReads (pure result : Run Memory First) :=
  fun _ => rfl

theorem onlyReads_ofExcept (outcome : Except Fault First) :
    OnlyReads (ofExcept outcome : Run Memory First) :=
  fun _ => rfl

theorem onlyReads_world : OnlyReads (Run.world : Run Memory (World Memory)) :=
  fun _ => rfl

theorem OnlyReads.bind {action : Run Memory First} {next : First → Run Memory Second}
    (reads : OnlyReads action) (nextReads : ∀ result, OnlyReads (next result)) :
    OnlyReads (action >>= next) := by
  intro world
  have same := reads world
  rcases ran : action world with ⟨fault | result, after⟩
  · rw [bind_of_error ran]
    simpa only [ran] using same
  · rw [bind_of_ok ran, nextReads result]
    simpa only [ran] using same

/-- What a reading action gives, with the world it leaves. -/
theorem OnlyReads.apply {action : Run Memory First} (reads : OnlyReads action)
    (world : World Memory) : action world = ((action world).1, world) :=
  Prod.ext rfl (reads world)

end Run

end VirtualClock

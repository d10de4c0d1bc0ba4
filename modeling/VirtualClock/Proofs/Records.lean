import Mathlib.Data.List.TakeWhile
import VirtualClock.Proofs.Courses

/-!
# The record of a run

Throughout a run the numbers that stand on a stack stand for its entries, place
by place.  Each act keeps the record in step with the stacks, and a region comes
to the same as its acts one by one.
-/

namespace VirtualClock

open Session (Departure depart)

variable {Memory Result : Type}

/-! ## What the acts change -/

/-- One stack is cut down to its lowest entries, and all else in the context is kept. -/
structure Context.Trims (before : Context) (stack : StackKey) (kept : Nat) (after : Context) :
    Prop where
  identity : after.identity = before.identity
  serial : after.serial = before.serial
  entries : ∀ other, after.entries other =
    if other = stack then (before.entries stack).take kept else before.entries other

namespace Context

theorem trims_self (context : Context) (stack : StackKey) {kept : Nat}
    (all : (context.entries stack).length ≤ kept) : context.Trims stack kept context := by
  refine ⟨rfl, rfl, fun other => ?_⟩
  by_cases same : other = stack
  · rw [if_pos same, same, List.take_of_length_le all]
  · rw [if_neg same]

theorem trims_cut (context : Context) (stack : StackKey) (kept : Nat) :
    context.Trims stack kept (context.cut stack kept) :=
  ⟨rfl, rfl, fun other => context.entries_cut stack other kept⟩

end Context

namespace Traveler

theorem revert_trims (traveler : Traveler) (world : World Memory) :
    world.context.Trims traveler.stack ((world.entries traveler.stack).length - 1)
      (traveler.revert world).2.context := by
  rw [revert_apply]
  cases top : (world.entries traveler.stack).getLast? with
  | none =>
      have empty : world.context.entries traveler.stack = [] := List.getLast?_eq_none_iff.mp top
      refine world.context.trims_self traveler.stack ?_
      rw [empty]
      exact Nat.zero_le _
  | some override => exact world.context.trims_cut traveler.stack _

theorem reset_trims (traveler : Traveler) (world : World Memory) :
    world.context.Trims traveler.stack 0 (traveler.reset world).2.context := by
  rw [reset_apply]
  by_cases empty : world.entries traveler.stack = []
  · rw [if_pos empty]
    refine world.context.trims_self traveler.stack ?_
    rw [← World.entries_eq, empty]
    exact Nat.le_refl _
  · rw [if_neg empty]
    exact world.context.trims_cut traveler.stack 0

/-- What an installation that succeeds has done. -/
theorem install_eq_ok {traveler : Traveler} {anchor : Moment} {world after : World Memory}
    {override : Override} (ran : traveler.install anchor world = (.ok override, after)) :
    ∃ pinned, anchor.isAware ∧ anchor.inUtc world.system = .ok pinned ∧
      override = world.context.minted pinned (world.entries traveler.stack).length ∧
        after.context = world.context.pushed traveler.stack pinned := by
  rw [install_apply] at ran
  cases anchored : anchor.asAnchor world.system with
  | error fault =>
      rw [anchored] at ran
      cases ran
  | ok pinned =>
      rw [anchored] at ran
      cases ran
      obtain ⟨aware, converted⟩ := Moment.asAnchor_eq_ok anchored
      exact ⟨pinned, aware, converted, rfl, rfl⟩

theorem install_eq_error {traveler : Traveler} {anchor : Moment} {world after : World Memory}
    {fault : Fault} (ran : traveler.install anchor world = (.error fault, after)) :
    after = world := by
  rw [install_apply] at ran
  cases anchored : anchor.asAnchor world.system with
  | error reason =>
      rw [anchored] at ran
      cases ran
      rfl
  | ok pinned =>
      rw [anchored] at ran
      cases ran

end Traveler

/-! ## The record of a run -/

/-- The record fits the context: the numbers are the serial numbers of the overrides, they stand
for the entries of every stack, and every anchor is what its cause fixed. -/
structure Records (installs : List (Installation Memory)) (standing : StackKey → List Nat)
    (context : Context) : Prop where
  counted : context.serial = installs.length
  numbered : ∀ (number : Nat) (install : Installation Memory), installs[number]? = some install →
    install.scope.override.identity = ⟨context.identity, number⟩ ∧
      0 ≤ install.scope.override.depth
  stands : ∀ stack, Stands installs stack (standing stack) (context.entries stack)
  fixed : ∀ install ∈ installs,
    install.cause.Fixes install.scope.traveler install.call install.scope.override.anchor

namespace Records

variable {installs : List (Installation Memory)} {standing : StackKey → List Nat}
  {before after : Context} {stack : StackKey}

theorem trim {kept : Nat} (records : Records installs standing before)
    (trims : before.Trims stack kept after) :
    Records installs
      (fun other => if other = stack then (standing stack).take kept else standing other)
      after := by
  refine ⟨trims.serial.trans records.counted, ?_, fun other => ?_, records.fixed⟩
  · rw [trims.identity]
    exact records.numbered
  · rw [trims.entries]
    by_cases same : other = stack
    · rw [if_pos same, if_pos same, same]
      exact (records.stands stack).take kept
    · rw [if_neg same, if_neg same]
      exact records.stands other

theorem push {anchor : Moment} (records : Records installs standing before)
    (install : Installation Memory)
    (made : install.scope.override = before.minted anchor (before.entries stack).length)
    (own : install.scope.traveler.stack = stack)
    (fixes : install.cause.Fixes install.scope.traveler install.call
      install.scope.override.anchor) :
    Records (installs ++ [install])
      (fun other =>
        if other = stack then standing stack ++ [installs.length] else standing other)
      (before.pushed stack anchor) := by
  refine ⟨?_, fun number later known => ?_, fun other => ?_, fun later member => ?_⟩
  · rw [List.length_append, List.length_singleton, ← records.counted]
    rfl
  · rw [List.getElem?_append] at known
    by_cases inside : number < installs.length
    · rw [if_pos inside] at known
      exact records.numbered number later known
    · rw [if_neg inside, List.getElem?_singleton] at known
      obtain ⟨top, same⟩ := Option.ite_none_right_eq_some.mp known
      have next : number = before.serial := by
        have count := records.counted
        omega
      rw [← Option.some.inj same, made, next]
      exact ⟨rfl, Int.natCast_nonneg _⟩
  · rw [Context.entries_pushed]
    by_cases same : other = stack
    · rw [if_pos same, if_pos same, same, ← made]
      exact (records.stands stack).push (by rw [made]; rfl) own
    · rw [if_neg same, if_neg same]
      exact (records.stands other).grow install
  · rcases List.mem_append.mp member with old | new
    · exact records.fixed later old
    · rw [List.mem_singleton.mp new]
      exact fixes

theorem takeWhile_of_not_mem {numbers : List Nat} {number : Nat} (absent : number ∉ numbers) :
    (numbers.takeWhile fun standing => standing != number) = numbers := by
  refine List.takeWhile_eq_self_iff.mpr fun standing member => ?_
  simpa using ne_of_mem_of_not_mem member absent

theorem takeWhile_of_mem {past above : List Nat} {number : Nat} (absent : number ∉ past) :
    ((past ++ number :: above).takeWhile fun standing => standing != number) = past := by
  rw [List.takeWhile_append_of_pos fun standing member => by
    simpa using ne_of_mem_of_not_mem member absent]
  simp

/-- A number stands on no stack but that of its installation. -/
theorem own_stack {number : Nat} {install : Installation Memory}
    (records : Records installs standing before) (known : installs[number]? = some install)
    (member : number ∈ standing stack) : install.scope.traveler.stack = stack := by
  obtain ⟨index, there⟩ := List.mem_iff_getElem?.mp member
  obtain ⟨same, found, _, _, own⟩ := (records.stands stack).2 index number there
  rw [known] at found
  cases found
  exact own

/-- An installation whose number does not stand any more is not installed. -/
theorem not_installed {number : Nat} {install : Installation Memory}
    (records : Records installs standing before) (known : installs[number]? = some install)
    (absent : number ∉ standing stack) :
    ¬install.scope.override.Installed (before.entries stack) := by
  rintro ⟨entry, member, same⟩
  obtain ⟨index, held⟩ := List.mem_iff_getElem?.mp member
  obtain ⟨inside, _⟩ := List.getElem?_eq_some_iff.mp held
  rw [← (records.stands stack).1] at inside
  obtain ⟨other, found, placed, _⟩ :=
    (records.stands stack).2 index _ (List.getElem?_eq_getElem inside)
  rw [placed] at held
  cases held
  have equal := same
  rw [(records.numbered _ other found).1, (records.numbered number install known).1] at equal
  injection equal with _ numbers
  exact absent (numbers ▸ List.getElem_mem inside)

/-- Closing a scope cuts its stack to what stands below its number, and keeps everything when
the number stands no more. -/
theorem exists_close_trims {world : World Memory} {number : Nat} {install : Installation Memory}
    (records : Records installs standing world.context)
    (known : installs[number]? = some install) (own : install.scope.traveler.stack = stack) :
    ∃ kept, world.context.Trims stack kept (install.scope.close world).2.context ∧
      (standing stack).takeWhile (fun other => other != number) = (standing stack).take kept := by
  subst own
  by_cases member : number ∈ standing install.scope.traveler.stack
  -- the first place of the number is the index of its override, which closing looks at
  · obtain ⟨past, above, split, absent⟩ := List.eq_append_cons_of_mem member
    have there : (standing install.scope.traveler.stack)[past.length]? = some number := by
      rw [split]
      simp
    obtain ⟨_, found, placed, depth, _⟩ :=
      (records.stands install.scope.traveler.stack).2 past.length number there
    rw [known] at found
    cases found
    rw [← World.entries_eq] at placed
    obtain ⟨inside, _⟩ := List.getElem?_eq_some_iff.mp placed
    have below : install.scope.override.depth =
        ((world.entries install.scope.traveler.stack).take past.length).length := by
      rw [depth, List.length_take, Nat.min_eq_left (Nat.le_of_lt inside)]
    have installed : install.scope.override.Installed
        (world.entries install.scope.traveler.stack) :=
      ⟨_, List.mem_of_getElem? placed, rfl⟩
    refine ⟨past.length, ?_, ?_⟩
    · rw [TravelScope.close_of_installed below (Override.restsOn_take placed) installed]
      exact world.context.trims_cut install.scope.traveler.stack past.length
    · rw [split, List.take_left, takeWhile_of_mem absent]
  -- a number that stands no more may leave its index to another override
  · have gone := records.not_installed known member
    have nonneg := (records.numbered number install known).2
    refine ⟨(world.entries install.scope.traveler.stack).length, ?_, ?_⟩
    · rw [TravelScope.close_of_not_installed nonneg gone]
      exact world.context.trims_self install.scope.traveler.stack (Nat.le_refl _)
    · rw [takeWhile_of_not_mem member, World.entries_eq,
        ← (records.stands install.scope.traveler.stack).1, List.take_length]

theorem close {world : World Memory} {number : Nat} {install : Installation Memory}
    (records : Records installs standing world.context)
    (known : installs[number]? = some install) :
    Records installs (fun stack => (standing stack).takeWhile fun other => other != number)
      (install.scope.close world).2.context := by
  obtain ⟨kept, trims, cut⟩ := records.exists_close_trims known rfl
  have same : (fun stack => (standing stack).takeWhile fun other => other != number) =
      fun other => if other = install.scope.traveler.stack then
        (standing install.scope.traveler.stack).take kept else standing other := by
    funext other
    by_cases own : other = install.scope.traveler.stack
    · rw [if_pos own, own, cut]
    · rw [if_neg own]
      exact takeWhile_of_not_mem fun member => own (records.own_stack known member).symm
  rw [same]
  exact records.trim trims

end Records

namespace Course

def Faithful (course : Course Memory) : Prop :=
  Records course.installs course.standing course.world.context

theorem start_faithful (world : World Memory) : (start world).Faithful := by
  refine ⟨rfl, fun number install known => ?_, fun stack => Stands.nil [] stack,
    fun install member => ?_⟩
  · cases known
  · cases member

variable {course : Course Memory}

theorem step_depart_of_ok {traveler : Traveler} {departure : Departure} {anchor : Moment}
    (led : (traveler.destination departure course.world).1 = .ok anchor) :
    course.step (.depart traveler departure) =
      course.installed (traveler.nextScope anchor course.world) (.departure departure)
        (traveler.pinned anchor course.world) := by
  have departed : depart traveler departure (.absent : TravelBody Memory Unit) course.world =
      (.ok (.opened (traveler.nextScope anchor course.world)),
        traveler.pinned anchor course.world) := by
    rw [Traveler.depart_absent_apply, led]
  simp only [step, departed]

theorem step_depart_of_error {traveler : Traveler} {departure : Departure} {fault : Fault}
    (led : (traveler.destination departure course.world).1 = .error fault) :
    course.step (.depart traveler departure) = course := by
  have departed : depart traveler departure (.absent : TravelBody Memory Unit) course.world =
      (.error fault, course.world) := by
    rw [Traveler.depart_absent_apply, led]
  simp only [step, departed]
  rfl

theorem Faithful.installed {scope : TravelScope} {cause : Cause} {world : World Memory}
    {anchor : Moment} (faithful : course.Faithful)
    (made : scope.override = course.world.context.minted anchor
      (course.world.entries scope.traveler.stack).length)
    (pushed : world.context = course.world.context.pushed scope.traveler.stack anchor)
    (fixes : cause.Fixes scope.traveler course.world scope.override.anchor) :
    (course.installed scope cause world).Faithful := by
  have recorded := Records.push faithful ⟨scope, cause, course.world⟩ made rfl fixes
  rw [← pushed] at recorded
  exact recorded

theorem Faithful.reverted {stack : StackKey} {world : World Memory} (faithful : course.Faithful)
    (trims : course.world.context.Trims stack ((course.world.entries stack).length - 1)
      world.context) : (course.reverted stack world).Faithful := by
  have trimmed := Records.trim faithful trims
  rw [World.entries_eq, ← (faithful.stands stack).1, ← List.dropLast_eq_take] at trimmed
  exact trimmed

/-- One act keeps the record in step with the stacks. -/
theorem Faithful.step (faithful : course.Faithful) (act : Act Memory) :
    (course.step act).Faithful := by
  cases act with
  | install traveler anchor =>
      rcases ran : traveler.install anchor course.world with ⟨fault | override, world⟩
      · simp only [Course.step, ran, Traveler.install_eq_error ran]
        exact faithful
      · obtain ⟨pinned, aware, converted, made, pushed⟩ := Traveler.install_eq_ok ran
        simp only [Course.step, ran]
        refine faithful.installed made pushed ?_
        subst made
        exact Cause.given_fixes aware converted
  | depart traveler departure =>
      cases led : (traveler.destination departure course.world).1 with
      | error fault =>
          rw [step_depart_of_error led]
          exact faithful
      | ok anchor =>
          rw [step_depart_of_ok led]
          exact faithful.installed rfl rfl (Cause.departure_fixes led)
  | revert traveler => exact faithful.reverted (traveler.revert_trims course.world)
  | travelBack traveler =>
      refine faithful.reverted ?_
      rw [Traveler.travelBack, Run.bind_pure_world]
      exact traveler.revert_trims course.world
  | reset traveler =>
      have trimmed := Records.trim faithful (traveler.reset_trims course.world)
      rw [List.take_zero] at trimmed
      exact trimmed
  | close number =>
      cases known : course.installs[number]? with
      | none =>
          simp only [Course.step, known]
          exact faithful
      | some install =>
          simp only [Course.step, known]
          exact Records.close faithful known
  | setClock clock reading =>
      show Records _ _ (Clock.set clock reading course.world).2.context
      rw [Clock.set_context]
      exact faithful
  | advanceClock clock amount =>
      show Records _ _ (Clock.advance clock amount course.world).2.context
      rw [Clock.advance_context]
      exact faithful
  | elsewhere change => exact faithful

/-- Nothing is struck off the record of what was installed. -/
theorem installs_prefix_step (course : Course Memory) (act : Act Memory) :
    course.installs <+: (course.step act).installs := by
  cases act with
  | install traveler anchor =>
      rcases ran : traveler.install anchor course.world with ⟨fault | override, world⟩
      · simp only [step, ran]
        exact List.prefix_refl _
      · simp only [step, ran]
        exact List.prefix_append _ _
  | depart traveler departure =>
      cases led : (traveler.destination departure course.world).1 with
      | error fault => simp only [step_depart_of_error led, List.prefix_refl]
      | ok anchor =>
          rw [step_depart_of_ok led]
          exact List.prefix_append _ _
  | close number =>
      cases known : course.installs[number]? with
      | none => simp only [step, known, List.prefix_refl]
      | some install =>
          simp only [step, known]
          exact List.prefix_refl _
  | _ => exact List.prefix_refl _

/-! ### Regions within a run

A region comes to the same as its acts one by one: the explicit travel, what the body does, and
the closing of the scope. -/

theorem goOn_of_eq {world : World Memory} (same : world = course.world) :
    course.goOn world = course := by
  rw [same]
  rfl

theorem step_close_of_known {number : Nat} {install : Installation Memory}
    (known : course.installs[number]? = some install) :
    (course.step (.close number)).world = (install.scope.close course.world).2 := by
  simp only [step, known]
  rfl

theorem getElem?_later {earlier later : Course Memory} {number : Nat}
    {install : Installation Memory} (further : earlier.installs <+: later.installs)
    (known : earlier.installs[number]? = some install) :
    later.installs[number]? = some install := by
  obtain ⟨more, grown⟩ := further
  obtain ⟨inside, _⟩ := List.getElem?_eq_some_iff.mp known
  rw [← grown, List.getElem?_append_left inside, known]

theorem call_eq {now left : Course Memory} {traveler : Traveler} {departure : Departure}
    {opened : TravelScope × Moment} {body : Run Memory Result}
    (began : (traveler.opening departure now.world).1 = .ok opened)
    (further : (now.step (.depart traveler departure)).installs <+: left.installs)
    (ran : left.world = (body (now.step (.depart traveler departure)).world).2) :
    (left.step (.close now.installs.length)).goOn
        (depart traveler departure (.run body) now.world).2 =
      left.step (.close now.installs.length) := by
  have whole : traveler.opening departure now.world =
      (.ok (opened.1, opened.2), (traveler.opening departure now.world).2) :=
    Prod.ext began rfl
  obtain ⟨anchor, led, scope, entered⟩ := Traveler.opening_eq_ok whole
  rw [step_depart_of_ok led] at further ran
  have known : left.installs[now.installs.length]? =
      some ⟨opened.1, .departure departure, now.world⟩ := by
    rw [scope]
    exact getElem?_later further List.getElem?_concat_length
  refine goOn_of_eq ?_
  rw [step_close_of_known known, ran, traveler.depart_run_eq, Run.bind_of_ok whole,
    Run.bind_pure_world, Run.ensuring_world, entered]
  rfl

theorem refusedCall_eq {now : Course Memory} {traveler : Traveler} {departure : Departure}
    {fault : Fault} (body : Run Memory Result)
    (refused : (traveler.opening departure now.world).1 = .error fault) :
    (now.step (.depart traveler departure)).goOn
        (depart traveler departure (.run body) now.world).2 =
      now.step (.depart traveler departure) := by
  have whole : traveler.opening departure now.world =
      (.error fault, (traveler.opening departure now.world).2) :=
    Prod.ext refused rfl
  refine goOn_of_eq ?_
  rw [traveler.depart_run_eq, Run.bind_of_error whole]
  cases led : (traveler.destination departure now.world).1 with
  | error reason =>
      rw [step_depart_of_error led]
      exact congrArg Prod.snd (Run.bind_of_error (Traveler.destination_apply led))
  | ok anchor =>
      rw [step_depart_of_ok led, Traveler.opening_of_destination led]
      rfl

theorem block_eq {now left : Course Memory} {number : Nat} {install : Installation Memory}
    {shown : Moment} {block : Moment → Run Memory Result}
    (known : now.installs[number]? = some install)
    (began : (install.scope.anchor now.world).1 = .ok shown)
    (further : now.installs <+: left.installs) (ran : left.world = (block shown now.world).2) :
    (left.step (.close number)).goOn (install.scope.within block now.world).2 =
      left.step (.close number) := by
  have whole := install.scope.anchor_onlyReads.apply now.world
  rw [began] at whole
  refine goOn_of_eq ?_
  rw [step_close_of_known (getElem?_later further known), ran, TravelScope.within,
    Run.bind_of_ok whole, Run.ensuring_world]

theorem refusedBlock_eq {now : Course Memory} {install : Installation Memory} {fault : Fault}
    (block : Moment → Run Memory Result)
    (refused : (install.scope.anchor now.world).1 = .error fault) :
    now.goOn (install.scope.within block now.world).2 = now := by
  have whole := install.scope.anchor_onlyReads.apply now.world
  rw [refused] at whole
  refine goOn_of_eq ?_
  rw [TravelScope.within, Run.bind_of_error whole]

/-- A run keeps the record in step with the stacks and strikes nothing off it. -/
theorem Leads.faithful {start course : Course Memory} (run : start.Leads course)
    (faithful : start.Faithful) : course.Faithful ∧ start.installs <+: course.installs := by
  -- a region has a run of its own inside, hence the second hypothesis of `call` and `block`
  induction run with
  | still course => exact ⟨faithful, List.prefix_refl _⟩
  | act act run inductionHypothesis =>
      obtain ⟨fits, further⟩ := inductionHypothesis faithful
      exact ⟨fits.step act, further.trans (installs_prefix_step _ act)⟩
  | call body run began inner ran inductionHypothesis innerHypothesis =>
      obtain ⟨fits, further⟩ := inductionHypothesis faithful
      obtain ⟨left, onward⟩ := innerHypothesis (fits.step _)
      rw [call_eq began onward ran]
      exact ⟨left.step _, further.trans ((installs_prefix_step _ _).trans
        (onward.trans (installs_prefix_step _ _)))⟩
  | refusedCall body run refused inductionHypothesis =>
      obtain ⟨fits, further⟩ := inductionHypothesis faithful
      rw [refusedCall_eq body refused]
      exact ⟨fits.step _, further.trans (installs_prefix_step _ _)⟩
  | block block run known began inner ran inductionHypothesis innerHypothesis =>
      obtain ⟨fits, further⟩ := inductionHypothesis faithful
      obtain ⟨left, onward⟩ := innerHypothesis fits
      rw [block_eq known began onward ran]
      exact ⟨left.step _, further.trans (onward.trans (installs_prefix_step _ _))⟩
  | refusedBlock block run known refused inductionHypothesis =>
      rw [refusedBlock_eq block refused]
      exact inductionHypothesis faithful

end Course

end VirtualClock

import VirtualClock.Proofs.Records

/-!
# The effective instant

The instant of a traveler is the anchor of the last installation on its stack
that nothing has removed, and that anchor is what its cause settled when it was
installed.
-/

namespace VirtualClock

variable {Memory : Type}

namespace Traveler

/-- The instant of a traveler is the anchor on top of its stack. -/
theorem instant_of_getLast? {traveler : Traveler} {world : World Memory} {override : Override}
    (top : (world.entries traveler.stack).getLast? = some override) :
    traveler.instant world = (.ok override.anchor, world) := by
  have peeked := Stack.peek_apply traveler.stack world
  rw [top] at peeked
  exact Run.bind_of_ok peeked

/-- With nothing on its stack it is the real time. -/
theorem instant_of_empty {traveler : Traveler} {world : World Memory}
    (empty : world.entries traveler.stack = []) :
    traveler.instant world = traveler.realNow world := by
  have peeked := Stack.peek_apply traveler.stack world
  rw [empty] at peeked
  exact Run.bind_of_ok peeked

end Traveler

/-! ## The law -/

/-- After any run the instant of a traveler is the anchor of the installation that stands on top
of its stack, as the cause fixed it in the world of the call; and it is the real time when
nothing stands there. -/
theorem effective_instant_of_run (world : World Memory) {course : Course Memory}
    (run : (Course.start world).Leads course) (traveler : Traveler) :
    match (course.standing traveler.stack).getLast? with
    | none =>
      course.world.entries traveler.stack = [] ∧
        traveler.instant course.world = traveler.realNow course.world
    | some number =>
      ∃ install, course.installs[number]? = some install ∧
        install.scope.traveler.stack = traveler.stack ∧
        (course.world.entries traveler.stack).getLast? = some install.scope.override ∧
        traveler.instant course.world = (.ok install.scope.override.anchor, course.world) ∧
        install.cause.Fixes install.scope.traveler install.call
          install.scope.override.anchor := by
  obtain ⟨faithful, _⟩ := run.faithful (Course.start_faithful world)
  have stands := faithful.stands traveler.stack
  cases top : (course.standing traveler.stack).getLast? with
  | none =>
      have empty : course.world.entries traveler.stack = [] := by
        rw [World.entries_eq, ← List.length_eq_zero_iff, ← stands.1,
          List.getLast?_eq_none_iff.mp top, List.length_nil]
      exact ⟨empty, Traveler.instant_of_empty empty⟩
  | some number =>
      obtain ⟨install, known, held, own⟩ := stands.getLast? top
      exact ⟨install, known, own, held, Traveler.instant_of_getLast? held,
        faithful.fixed install (List.mem_of_getElem? known)⟩

/-- The time is stopped, and the clock is moved on by an hour within a travel of a day. -/
def stoppedCourse : Course Unit :=
  let stopped := (Course.start (World.start .utc [] ())).step (.depart hourEast .stop)
  let moved := (stopped.step (.depart hourEast (.by (.whole 86400)))).step
    (.advanceClock hourEast.clock (.whole 3600))
  moved.step (.close 1)

theorem stoppedCourse_leads :
    (Course.start (World.start .utc [] () : World Unit)).Leads stoppedCourse := by
  let stopped := (Course.start (World.start .utc [] () : World Unit)).step
    (.depart hourEast .stop)
  have inside : (stopped.step (.depart hourEast (.by (.whole 86400)))).Leads
      ((stopped.step (.depart hourEast (.by (.whole 86400)))).step
        (.advanceClock hourEast.clock (.whole 3600))) :=
    .act _ (.still _)
  have began : ∃ opened, (hourEast.opening (.by (.whole 86400)) stopped.world).1 = .ok opened :=
    ⟨_, rfl⟩
  obtain ⟨opened, began⟩ := began
  have ran : ((stopped.step (.depart hourEast (.by (.whole 86400)))).step
        (.advanceClock hourEast.clock (.whole 3600))).world =
      (Clock.advance hourEast.clock (.whole 3600)
        (stopped.step (.depart hourEast (.by (.whole 86400)))).world).2 :=
    rfl
  have called := Course.Leads.call _ (.act _ (.still _)) began inside ran
  rw [Course.call_eq began (Course.installs_prefix_step _ _) ran] at called
  exact called

theorem stopped_instant_outlasts_the_clock :
    (Course.start (World.start .utc [] () : World Unit)).Leads stoppedCourse ∧
    hourEast.instant stoppedCourse.world =
      (.ok defaultReading.wholeSecond, stoppedCourse.world) ∧
    (hourEast.realNow stoppedCourse.world).1 = defaultReading.shift ⟨3600000000⟩ := by
  have law := effective_instant_of_run (World.start .utc [] ()) stoppedCourse_leads hourEast
  have top : (stoppedCourse.standing hourEast.stack).getLast? = some 0 := rfl
  rw [top] at law
  obtain ⟨install, known, _, _, instant, _⟩ := law
  cases known
  exact ⟨stoppedCourse_leads, instant, rfl⟩

end VirtualClock

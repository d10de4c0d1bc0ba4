import VirtualClock.Proofs.Destinations
import VirtualClock.Proofs.Scopes

/-!
# The course of a run

A run in one context is followed with a record of what was installed: every
override gets a number in the order of installing, together with its cause and
the world of the call.  Beside it, and without a look at the stacks, goes an
account of the numbers that still stand on each stack.

Acts follow each other in any order, over any number of travelers.  A travel
with a body and a block within a scope contain a course of their own, and the
travelers act through the very calls that a program makes.
-/

namespace VirtualClock

open Session (Departure depart)

variable {Memory : Type}

/-- An override that was installed, with what it was installed for. -/
structure Installation (Memory : Type) where
  scope : TravelScope
  cause : Cause
  /-- The world as the call found it. -/
  call : World Memory

/-- Where a run has come to. -/
structure Course (Memory : Type) where
  world : World Memory
  /-- What was installed so far, in order. -/
  installs : List (Installation Memory)
  /-- The numbers of the installations that stand on a stack, from its bottom to its top. -/
  standing : StackKey → List Nat

/-- What a run does in one stroke. -/
inductive Act (Memory : Type) where
  | install (traveler : Traveler) (anchor : Moment)
  /-- An explicit travel. -/
  | depart (traveler : Traveler) (departure : Departure)
  | revert (traveler : Traveler)
  | travelBack (traveler : Traveler)
  | reset (traveler : Traveler)
  /-- Closes the scope of the installation with a number. -/
  | close (number : Nat)
  | setClock (clock : ClockKey) (reading : Value)
  | advanceClock (clock : ClockKey) (amount : Value)
  /-- Whatever leaves the context alone, such as time going by. -/
  | elsewhere (change : World Memory → World Memory)

namespace Course

/-- The beginning of a run in a context that is still empty. -/
def start (world : World Memory) : Course Memory :=
  ⟨world.withContext (Context.empty world.context.identity), [], fun _ => []⟩

/-- The run goes on in a world, with nothing installed or removed. -/
def goOn (course : Course Memory) (world : World Memory) : Course Memory := { course with world }

/-- An installation gets the next number, which stands on top of its stack. -/
def installed (course : Course Memory) (scope : TravelScope) (cause : Cause)
    (world : World Memory) : Course Memory where
  world
  installs := course.installs ++ [⟨scope, cause, course.world⟩]
  standing other :=
    if other = scope.traveler.stack then
      course.standing scope.traveler.stack ++ [course.installs.length]
    else course.standing other

def reverted (course : Course Memory) (stack : StackKey) (world : World Memory) :
    Course Memory where
  world
  installs := course.installs
  standing other :=
    if other = stack then (course.standing stack).dropLast else course.standing other

def cleared (course : Course Memory) (stack : StackKey) (world : World Memory) :
    Course Memory where
  world
  installs := course.installs
  standing other := if other = stack then [] else course.standing other

/-- On its stack a number goes, and with it all that stand above it. -/
def closed (course : Course Memory) (number : Nat) (world : World Memory) : Course Memory where
  world
  installs := course.installs
  standing stack := (course.standing stack).takeWhile fun standing => standing != number

def step (course : Course Memory) : Act Memory → Course Memory
  | .install traveler anchor =>
    match traveler.install anchor course.world with
    | (.ok override, world) => course.installed ⟨traveler, override⟩ (.given anchor) world
    | (.error _, world) => course.goOn world
  | .depart traveler departure =>
    match Session.depart traveler departure (.absent : TravelBody Memory Unit) course.world with
    | (.ok (.opened scope), world) => course.installed scope (.departure departure) world
    | (_, world) => course.goOn world
  | .revert traveler => course.reverted traveler.stack (traveler.revert course.world).2
  | .travelBack traveler => course.reverted traveler.stack (traveler.travelBack course.world).2
  | .reset traveler => course.cleared traveler.stack (traveler.reset course.world).2
  | .close number =>
    match course.installs[number]? with
    | some install => course.closed number (install.scope.close course.world).2
    | none => course
  | .setClock clock reading => course.goOn (Clock.set clock reading course.world).2
  | .advanceClock clock amount => course.goOn (Clock.advance clock amount course.world).2
  | .elsewhere change => course.goOn ((change course.world).withContext course.world.context)

/-- A run leads from one course to another. -/
inductive Leads : Course Memory → Course Memory → Prop
  | still (course : Course Memory) : Leads course course
  | act {start now : Course Memory} (act : Act Memory) :
      Leads start now → Leads start (now.step act)
  /-- A travel with a body: the body leads on from the open region, which is closed after it. -/
  | call {start now left : Course Memory} {traveler : Traveler} {departure : Departure}
      {opened : TravelScope × Moment} {Result : Type} (body : Run Memory Result) :
      Leads start now → (traveler.opening departure now.world).1 = .ok opened →
      Leads (now.step (.depart traveler departure)) left →
      left.world = (body (now.step (.depart traveler departure)).world).2 →
      Leads start ((left.step (.close now.installs.length)).goOn
        (depart traveler departure (.run body) now.world).2)
  /-- A travel whose body does not begin. -/
  | refusedCall {start now : Course Memory} {traveler : Traveler} {departure : Departure}
      {fault : Fault} {Result : Type} (body : Run Memory Result) :
      Leads start now → (traveler.opening departure now.world).1 = .error fault →
      Leads start ((now.step (.depart traveler departure)).goOn
        (depart traveler departure (.run body) now.world).2)
  /-- A block within a scope, which is closed after it. -/
  | block {start now left : Course Memory} {number : Nat} {install : Installation Memory}
      {shown : Moment} {Result : Type} (block : Moment → Run Memory Result) :
      Leads start now → now.installs[number]? = some install →
      (install.scope.anchor now.world).1 = .ok shown → Leads now left →
      left.world = (block shown now.world).2 →
      Leads start ((left.step (.close number)).goOn (install.scope.within block now.world).2)
  /-- A block that does not begin. -/
  | refusedBlock {start now : Course Memory} {number : Nat} {install : Installation Memory}
      {fault : Fault} {Result : Type} (block : Moment → Run Memory Result) :
      Leads start now → now.installs[number]? = some install →
      (install.scope.anchor now.world).1 = .error fault →
      Leads start (now.goOn (install.scope.within block now.world).2)

end Course

/-! ## Numbers that stand for entries -/

/-- The numbers stand, place by place, for the entries of a stack. -/
def Stands (installs : List (Installation Memory)) (stack : StackKey) (numbers : List Nat)
    (entries : List Override) : Prop :=
  numbers.length = entries.length ∧
    ∀ (index number : Nat), numbers[index]? = some number →
      ∃ install, installs[number]? = some install ∧
        entries[index]? = some install.scope.override ∧
        install.scope.override.depth = index ∧ install.scope.traveler.stack = stack

namespace Stands

variable {installs : List (Installation Memory)} {stack : StackKey} {numbers : List Nat}
  {entries : List Override}

theorem nil (installs : List (Installation Memory)) (stack : StackKey) :
    Stands installs stack [] [] :=
  ⟨rfl, fun index number there => by cases there⟩

theorem take (stands : Stands installs stack numbers entries) (kept : Nat) :
    Stands installs stack (numbers.take kept) (entries.take kept) := by
  refine ⟨by simp only [List.length_take, stands.1], fun index number there => ?_⟩
  rw [List.getElem?_take] at there ⊢
  by_cases inside : index < kept
  · rw [if_pos inside] at there ⊢
    exact stands.2 index number there
  · rw [if_neg inside] at there
    cases there

/-- Later installations change nothing about earlier ones. -/
theorem grow (stands : Stands installs stack numbers entries) (later : Installation Memory) :
    Stands (installs ++ [later]) stack numbers entries := by
  refine ⟨stands.1, fun index number there => ?_⟩
  obtain ⟨install, known, rest⟩ := stands.2 index number there
  obtain ⟨inside, _⟩ := List.getElem?_eq_some_iff.mp known
  exact ⟨install, (List.getElem?_append_left inside).trans known, rest⟩

theorem push (stands : Stands installs stack numbers entries) {later : Installation Memory}
    (depth : later.scope.override.depth = entries.length)
    (own : later.scope.traveler.stack = stack) :
    Stands (installs ++ [later]) stack (numbers ++ [installs.length])
      (entries ++ [later.scope.override]) := by
  have grown := stands.grow later
  refine ⟨by simp only [List.length_append, stands.1, List.length_singleton], ?_⟩
  intro index number there
  rw [List.getElem?_append] at there
  by_cases inside : index < numbers.length
  · rw [if_pos inside] at there
    obtain ⟨install, known, placed, rest⟩ := grown.2 index number there
    have covered : index < entries.length := stands.1 ▸ inside
    exact ⟨install, known, (List.getElem?_append_left covered).trans placed, rest⟩
  · rw [if_neg inside, List.getElem?_singleton] at there
    obtain ⟨top, same⟩ := Option.ite_none_right_eq_some.mp there
    have last : index = entries.length := by
      have covering := stands.1
      omega
    rw [← Option.some.inj same, last]
    exact ⟨later, List.getElem?_concat_length, List.getElem?_concat_length, depth, own⟩

/-- The entry on top is the installation whose number stands on top. -/
theorem getLast? (stands : Stands installs stack numbers entries) {number : Nat}
    (top : numbers.getLast? = some number) :
    ∃ install, installs[number]? = some install ∧
      entries.getLast? = some install.scope.override ∧ install.scope.traveler.stack = stack := by
  rw [List.getLast?_eq_getElem?] at top ⊢
  obtain ⟨install, known, placed, _, own⟩ := stands.2 _ number top
  rw [stands.1] at placed
  exact ⟨install, known, placed, own⟩

end Stands

end VirtualClock

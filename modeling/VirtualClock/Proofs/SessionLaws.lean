import VirtualClock.Proofs.Readings
import VirtualClock.Proofs.Regions
import VirtualClock.Session.Play

/-!
# Laws of sessions

A law relates the world before to the world after.  When every single operation
of a session obeys it, and bindings and other contexts obey it whenever the
blocks inside them do, then so does a session as a whole: every step and every
block, however deeply they nest and however they end.
-/

namespace VirtualClock

open Session (Departure depart)

variable {Store First Second Outcome : Type}

namespace Run

/-- From every world the action leads to one that the law relates to it. -/
def Obeys (law : World Store → World Store → Prop) (action : Run Store Outcome) : Prop :=
  ∀ world, law world (action world).2

theorem Obeys.attempt {law : World Store → World Store → Prop} {action : Run Store Outcome}
    (obeys : Obeys law action) : Obeys law (attempt action) :=
  obeys

end Run

namespace Session

/-- A law that all operations of a session obey.  What is remembered may be anything but the state
of the test case. -/
structure IsLaw (law : World Memory → World Memory → Prop) : Prop where
  refl : ∀ world, law world world
  trans : ∀ {first second third}, law first second → law second third → law first third
  push : ∀ stack anchor, Run.Obeys law (Stack.push stack anchor)
  pop : ∀ stack, Run.Obeys law (Stack.pop stack)
  truncate : ∀ stack depth, Run.Obeys law (Stack.truncate stack depth)
  mint : ∀ anchor depth, Run.Obeys law (Stack.mint anchor depth)
  record : ∀ (traveler : Traveler) event, Run.Obeys law (traveler.record event)
  setClock : ∀ clock reading, Run.Obeys law (Clock.set clock reading)
  advanceClock : ∀ clock amount, Run.Obeys law (Clock.advance clock amount)
  remember : ∀ change : Memory → Memory,
    (∀ memory, (change memory).testCase = memory.testCase) → Run.Obeys law (modifyMemory change)
  testCaseTraveler : Run.Obeys law testCaseTraveler
  during : ∀ traveler {block : Run BlockRun}, Run.Obeys law block →
    Run.Obeys law (Ambient.during traveler block)
  inside : ∀ context {block : Run BlockRun}, Run.Obeys law block →
    Run.Obeys law (inside context block)

variable {law : World Memory → World Memory → Prop}

namespace IsLaw

/-! ## Sequences -/

theorem reads (lawful : IsLaw law) {action : Run Outcome} (reads : Run.OnlyReads action) :
    Run.Obeys law action := by
  intro world
  rw [reads world]
  exact lawful.refl world

theorem bind (lawful : IsLaw law) {action : Run First} {next : First → Run Second}
    (obeys : Run.Obeys law action) (continues : ∀ first, Run.Obeys law (next first)) :
    Run.Obeys law (action >>= next) := by
  intro world
  have begun := obeys world
  rcases ran : action world with ⟨fault | first, after⟩
  · rw [ran] at begun
    rw [Run.bind_of_error ran]
    exact begun
  · rw [ran] at begun
    rw [Run.bind_of_ok ran]
    exact lawful.trans begun (continues first after)

theorem ensuring (lawful : IsLaw law) {action : Run Outcome} {cleanup : Run Unit}
    (obeys : Run.Obeys law action) (cleans : Run.Obeys law cleanup) :
    Run.Obeys law (Run.ensuring action cleanup) :=
  lawful.bind obeys.attempt fun _ => lawful.bind cleans fun _ =>
    lawful.reads (Run.onlyReads_ofExcept _)

theorem gives (lawful : IsLaw law) (outcome : Outcome) :
    Run.Obeys law (pure outcome : Run Outcome) :=
  lawful.reads (Run.onlyReads_pure outcome)

theorem fails (lawful : IsLaw law) (fault : Fault) :
    Run.Obeys law (Run.fail fault : Run Outcome) :=
  lawful.reads (Run.onlyReads_ofExcept _)

/-! ## Travelers -/

theorem install (lawful : IsLaw law) (traveler : Traveler) (anchor : Moment) :
    Run.Obeys law (traveler.install anchor) :=
  lawful.bind (lawful.push traveler.stack anchor) fun override =>
    lawful.bind (lawful.record traveler _) fun _ => lawful.gives override

theorem revert (lawful : IsLaw law) (traveler : Traveler) : Run.Obeys law traveler.revert := by
  refine lawful.bind (lawful.pop traveler.stack) fun top => ?_
  cases top with
  | none => exact lawful.bind (lawful.record traveler _) fun _ => lawful.gives _
  | some override =>
      exact lawful.bind (lawful.reads traveler.depth_onlyReads) fun _ =>
        lawful.bind (lawful.record traveler _) fun _ => lawful.gives _

theorem travelBack (lawful : IsLaw law) (traveler : Traveler) :
    Run.Obeys law traveler.travelBack :=
  lawful.bind (lawful.revert traveler) fun _ => lawful.gives _

theorem reset (lawful : IsLaw law) (traveler : Traveler) : Run.Obeys law traveler.reset := by
  refine lawful.bind (lawful.truncate traveler.stack 0) fun removed => ?_
  by_cases none : removed = 0
  · simp only [if_pos none]
    exact lawful.gives _
  · simp only [if_neg none]
    exact lawful.bind (lawful.record traveler _) fun _ => lawful.gives _

theorem close (lawful : IsLaw law) (scope : TravelScope) : Run.Obeys law scope.close := by
  have reads : Run.OnlyReads (Stack.contains scope.traveler.stack scope.override : Run Bool) :=
    fun _ => rfl
  refine lawful.bind (lawful.reads reads) fun found => ?_
  cases found with
  | false => exact lawful.gives _
  | true =>
      exact lawful.bind (lawful.truncate scope.traveler.stack _) fun _ =>
        lawful.record scope.traveler _

theorem opening (lawful : IsLaw law) (traveler : Traveler) (departure : Departure) :
    Run.Obeys law (traveler.opening departure) := by
  refine lawful.bind (lawful.reads (traveler.destination_onlyReads departure)) fun anchor => ?_
  refine lawful.bind (lawful.install traveler anchor) fun override => ?_
  exact lawful.bind (lawful.reads (TravelScope.anchor_onlyReads ⟨traveler, override⟩)) fun _ =>
    lawful.gives _

/-- A travel obeys a law when its body does, and so travels nest. -/
theorem depart (lawful : IsLaw law) (traveler : Traveler) (departure : Departure)
    {body : TravelBody Memory Outcome}
    (obeys : ∀ action, body = .run action → Run.Obeys law action) :
    Run.Obeys law (depart traveler departure body) := by
  cases body with
  | absent =>
      rw [Traveler.depart_eq]
      refine lawful.bind (lawful.reads (traveler.destination_onlyReads departure)) fun anchor => ?_
      exact lawful.bind (lawful.install traveler anchor) fun override => lawful.gives _
  | notCallable found =>
      rw [Traveler.depart_eq]
      exact lawful.bind (lawful.reads (traveler.destination_onlyReads departure)) fun anchor =>
        lawful.fails _
  | run action =>
      rw [Traveler.depart_run_eq]
      refine lawful.bind (lawful.opening traveler departure) fun opened => ?_
      exact lawful.bind (lawful.ensuring (obeys action rfl) (lawful.close opened.1)) fun _ =>
        lawful.gives _

theorem within (lawful : IsLaw law) (scope : TravelScope) {block : Moment → Run Outcome}
    (obeys : ∀ entered, Run.Obeys law (block entered)) : Run.Obeys law (scope.within block) :=
  lawful.bind (lawful.reads scope.anchor_onlyReads) fun entered =>
    lawful.ensuring (obeys entered) (lawful.close scope)

end IsLaw

/-! ## The memory -/

theorem currentMemory_onlyReads : Run.OnlyReads currentMemory :=
  fun _ => rfl

theorem getNamed_onlyReads {Content : Type} (name : String) (contents : List (String × Content)) :
    Run.OnlyReads (getNamed name contents) := by
  unfold getNamed
  cases contents.lookup name with
  | none => exact Run.onlyReads_ofExcept _
  | some content => exact Run.onlyReads_pure _

theorem keptScope_onlyReads (label member : String) :
    Run.OnlyReads (keptScope label member) := by
  refine currentMemory_onlyReads.bind fun memory => ?_
  refine (getNamed_onlyReads label memory.kept).bind fun kept => ?_
  cases kept with
  | scope content => exact Run.onlyReads_pure _
  | override content => exact Run.onlyReads_ofExcept _

theorem keptOverride_onlyReads (label member : String) :
    Run.OnlyReads (keptOverride label member) := by
  refine currentMemory_onlyReads.bind fun memory => ?_
  refine (getNamed_onlyReads label memory.kept).bind fun kept => ?_
  cases kept with
  | scope content => exact Run.onlyReads_ofExcept _
  | override content => exact Run.onlyReads_pure _

theorem record_onlyReads (name : String) : Run.OnlyReads (record name) :=
  currentMemory_onlyReads.bind fun memory => getNamed_onlyReads name memory.records

namespace IsLaw

theorem keep (lawful : IsLaw law) (label : Option String) (content : Kept) :
    Run.Obeys law (keep label content) := by
  cases label with
  | none => exact lawful.gives _
  | some label => exact lawful.remember _ fun _ => rfl

theorem stackNamed (lawful : IsLaw law) (name : String) : Run.Obeys law (stackNamed name) := by
  refine lawful.bind (lawful.reads currentMemory_onlyReads) fun memory => ?_
  cases memory.stackKeys.lookup name with
  | none => exact lawful.bind (lawful.remember _ fun _ => rfl) fun _ => lawful.gives _
  | some stack => exact lawful.gives _

theorem setRecord (lawful : IsLaw law) (name : String) (content : Record) :
    Run.Obeys law (setRecord name content) :=
  lawful.remember _ fun _ => rfl

theorem subjectTraveler (lawful : IsLaw law) (subject : Subject) :
    Run.Obeys law (subjectTraveler subject) := by
  cases subject with
  | nobody => exact lawful.gives _
  | ambient => exact lawful.reads (Ambient.traveler_onlyReads.bind fun _ => Run.onlyReads_pure _)
  | testCase => exact lawful.bind lawful.testCaseTraveler fun _ => lawful.gives _
  | named name =>
      exact lawful.reads (currentMemory_onlyReads.bind fun memory =>
        (getNamed_onlyReads name memory.travelers).bind fun _ => Run.onlyReads_pure _)

end IsLaw

/-! ## Actions -/

theorem anchorOf_onlyReads (anchor : Value) : Run.OnlyReads (anchorOf anchor) := by
  cases anchor with
  | moment content => exact Run.onlyReads_pure _
  | _ => exact Run.onlyReads_ofExcept _

theorem passengerBody_onlyReads [Atlas] (traveler : Traveler) (passenger : Passenger)
    (action : Run Result) (body : passengerBody traveler passenger = .run action) :
    Run.OnlyReads action := by
  cases passenger with
  | nobody => cases body
  | thing value => cases value <;> cases body
  | time =>
      cases body
      exact (traveler.currentMoment_onlyReads _ _).bind fun _ => Run.onlyReads_pure _
  | date =>
      cases body
      exact (traveler.currentDay_onlyReads _ _).bind fun _ => Run.onlyReads_pure _

theorem inspectScope_onlyReads (scope : TravelScope) : Run.OnlyReads (inspectScope scope) := by
  have attempted : Run.OnlyReads (Run.attempt scope.anchor : Run (Except Fault Moment)) :=
    fun world => scope.anchor_onlyReads world
  exact attempted.bind fun _ => scope.isActive_onlyReads.bind fun _ =>
    scope.traveler.currentOverride_onlyReads.bind fun _ => Run.onlyReads_pure _

theorem readClass_onlyReads [Atlas] (traveler : Traveler) (kind : ReadingKind) (className : String)
    (call : ReadCall) (zone : Option Value) :
    Run.OnlyReads (readClass traveler kind className call zone) := by
  have moments : ∀ kind zone, Run.OnlyReads (do
      let moment ← traveler.currentMoment kind zone
      pure (.reading (.moment moment)) : Run Result) :=
    fun kind zone => (traveler.currentMoment_onlyReads kind zone).bind fun _ =>
      Run.onlyReads_pure _
  have refused : ∀ fault, Run.OnlyReads (Run.fail fault : Run Result) :=
    fun _ => Run.onlyReads_ofExcept _
  unfold readClass
  cases kind with
  | moment kind =>
      cases call with
      | now => exact moments kind _
      | today => exact moments kind _
      | utcNow => exact moments kind _
  | day kind =>
      cases call with
      | now => exact refused _
      | today =>
          exact (traveler.currentDay_onlyReads kind _).bind fun _ => Run.onlyReads_pure _
      | utcNow => exact refused _
  | probe => exact refused _
  | unsupported name => exact refused _

theorem compareOverrides_onlyReads (left right : Override) :
    Run.OnlyReads (compareOverrides left right) :=
  (Run.onlyReads_ofExcept _).bind fun _ => (Run.onlyReads_ofExcept _).bind fun _ =>
    (Run.onlyReads_ofExcept _).bind fun _ => Run.onlyReads_pure _

namespace IsLaw

theorem tripResult (lawful : IsLaw law) (label : Option String) (trip : Trip Result) :
    Run.Obeys law (tripResult label trip) := by
  cases trip with
  | opened scope => exact lawful.bind (lawful.keep label _) fun _ => lawful.gives _
  | finished result => exact lawful.gives _

theorem callStack (lawful : IsLaw law) (stack : StackKey) (call : StackCall) :
    Run.Obeys law (callStack stack call) := by
  cases call with
  | push anchor label =>
      exact lawful.bind (lawful.reads (anchorOf_onlyReads anchor)) fun anchor =>
        lawful.bind (lawful.push stack anchor) fun _ =>
          lawful.bind (lawful.keep label _) fun _ => lawful.gives _
  | pop label =>
      refine lawful.bind (lawful.pop stack) fun override => ?_
      cases override with
      | none => exact lawful.gives _
      | some content => exact lawful.bind (lawful.keep label _) fun _ => lawful.gives _
  | peek =>
      have reads : Run.OnlyReads (Stack.peek stack : Run (Option Override)) := fun _ => rfl
      exact lawful.bind (lawful.reads reads) fun _ => lawful.gives _
  | truncate depth => exact lawful.bind (lawful.truncate stack depth) fun _ => lawful.gives _
  | contains label =>
      have reads : ∀ override, Run.OnlyReads (Stack.contains stack override : Run Bool) :=
        fun _ _ => rfl
      exact lawful.reads ((keptOverride_onlyReads label _).bind fun override =>
        (reads override).bind fun _ => Run.onlyReads_pure _)
  | text =>
      have reads : Run.OnlyReads (Stack.depth stack : Run Nat) := fun _ => rfl
      exact lawful.bind (lawful.reads reads) fun _ => lawful.gives _

theorem filterRecord (lawful : IsLaw law) (name : String) (traveler : Traveler) :
    Run.Obeys law (filterRecord name traveler) :=
  lawful.bind (lawful.reads (record_onlyReads name)) fun content =>
    lawful.bind (lawful.reads (content.stamp_onlyReads traveler)) fun _ =>
      lawful.bind (lawful.setRecord name _) fun _ => lawful.gives _

theorem configureLog (lawful : IsLaw law) (settings : Fields) (service version : Json) :
    Run.Obeys law (configureLog settings service version) := by
  unfold Session.configureLog
  cases LoggingSettings.ofFields settings with
  | error refused => exact lawful.fails _
  | ok settings =>
      exact lawful.bind (lawful.reads currentMemory_onlyReads) fun memory =>
        lawful.bind (lawful.remember _ fun _ => rfl) fun _ =>
          lawful.bind (lawful.reads (Run.onlyReads_ofExcept _)) fun _ => lawful.gives _

theorem emitRecord (lawful : IsLaw law) (name : String) (file : Option String) :
    Run.Obeys law (emitRecord name file) :=
  lawful.bind (lawful.reads (record_onlyReads name)) fun content =>
    lawful.bind (lawful.reads currentMemory_onlyReads) fun memory =>
      lawful.bind (lawful.reads (LogSystem.emit_onlyReads content memory.logs)) fun _ =>
        lawful.bind (lawful.remember _ fun _ => rfl) fun _ =>
          lawful.bind (lawful.setRecord name _) fun _ => lawful.gives _

theorem perform [Atlas] (lawful : IsLaw law) (traveler : Traveler) (action : Action) :
    Run.Obeys law (perform traveler action) := by
  cases action with
  | travel departure passenger label =>
      have passes : ∀ action, passengerBody traveler passenger = .run action →
          Run.Obeys law action :=
        fun action body => lawful.reads (passengerBody_onlyReads traveler passenger action body)
      exact lawful.bind (lawful.depart traveler departure passes) (lawful.tripResult label)
  | travelBack => exact lawful.bind (lawful.travelBack traveler) fun _ => lawful.gives _
  | revert => exact lawful.bind (lawful.revert traveler) fun _ => lawful.gives _
  | reset => exact lawful.bind (lawful.reset traveler) fun _ => lawful.gives _
  | currentOverride =>
      exact lawful.bind (lawful.reads traveler.currentOverride_onlyReads) fun _ => lawful.gives _
  | install anchor label =>
      exact lawful.bind (lawful.reads (anchorOf_onlyReads anchor)) fun anchor =>
        lawful.bind (lawful.install traveler anchor) fun _ =>
          lawful.bind (lawful.keep label _) fun _ => lawful.gives _
  | close label =>
      exact lawful.bind (lawful.reads (keptScope_onlyReads label _)) fun scope =>
        lawful.bind (lawful.close scope) fun _ => lawful.gives _
  | inspect label =>
      exact lawful.reads ((keptScope_onlyReads label _).bind inspectScope_onlyReads)
  | now zone =>
      exact lawful.bind (lawful.reads (traveler.currentMoment_onlyReads _ zone)) fun _ =>
        lawful.gives _
  | today zone =>
      exact lawful.bind (lawful.reads (traveler.currentDay_onlyReads _ zone)) fun _ =>
        lawful.gives _
  | current kind zone =>
      exact lawful.bind (lawful.reads (traveler.current_onlyReads kind zone)) fun _ =>
        lawful.gives _
  | instant => exact lawful.bind (lawful.reads traveler.instant_onlyReads) fun _ => lawful.gives _
  | realNow => exact lawful.bind (lawful.reads traveler.realNow_onlyReads) fun _ => lawful.gives _
  | text => exact lawful.bind (lawful.reads traveler.depth_onlyReads) fun _ => lawful.gives _
  | read kind className call zone =>
      exact lawful.reads (readClass_onlyReads traveler kind className call zone)
  | readViews zone =>
      exact lawful.bind (lawful.reads (Run.onlyReads_ofExcept _)) fun _ =>
        lawful.bind (lawful.reads (traveler.readViews_onlyReads _)) fun _ => lawful.gives _
  | checkAgreement zone =>
      exact lawful.bind (lawful.reads (traveler.checkAgreement_onlyReads zone)) fun _ =>
        lawful.gives _
  | inspectTraveler =>
      exact lawful.bind (lawful.reads traveler.depth_onlyReads) fun _ => lawful.gives _
  | ambientNames =>
      exact lawful.bind (lawful.reads Ambient.traveler_onlyReads) fun _ =>
        lawful.bind (lawful.reads currentMemory_onlyReads) fun _ => lawful.gives _
  | setClock reading =>
      exact lawful.bind (lawful.setClock traveler.clock reading) fun _ => lawful.gives _
  | advanceClock amount =>
      exact lawful.bind (lawful.advanceClock traveler.clock amount) fun _ => lawful.gives _
  | stack name call =>
      exact lawful.bind (lawful.stackNamed name) fun stack => lawful.callStack stack call
  | makeOverride anchor depth label =>
      exact lawful.bind (lawful.reads (anchorOf_onlyReads anchor)) fun anchor =>
        lawful.bind (lawful.mint anchor depth) fun _ =>
          lawful.bind (lawful.keep label _) fun _ => lawful.gives _
  | compareOverrides left right =>
      exact lawful.reads ((keptOverride_onlyReads left _).bind fun left =>
        (keptOverride_onlyReads right _).bind fun right => compareOverrides_onlyReads left right)
  | assignField override field =>
      exact lawful.bind (lawful.reads (keptOverride_onlyReads override field)) fun _ =>
        lawful.fails _
  | makeRecord name content =>
      exact lawful.bind (lawful.setRecord name content) fun _ => lawful.gives _
  | filterRecord name => exact lawful.filterRecord name traveler
  | formatRecord name format =>
      exact lawful.bind (lawful.reads (record_onlyReads name)) fun content =>
        lawful.bind (lawful.reads (content.line_onlyReads format)) fun _ => lawful.gives _
  | configureLog settings service version => exact lawful.configureLog settings service version
  | addHandler => exact lawful.bind (lawful.remember _ fun _ => rfl) fun _ => lawful.gives _
  | inspectLog => exact lawful.bind (lawful.reads currentMemory_onlyReads) fun _ => lawful.gives _
  | emit name file => exact lawful.emitRecord name file

theorem stackAfter (lawful : IsLaw law) (action : Action) :
    Run.Obeys law (stackAfter action) := by
  cases action with
  | stack name call =>
      have reads : ∀ stack, Run.OnlyReads (Stack.snapshot stack : Run (List Override)) :=
        fun _ _ => rfl
      exact lawful.bind (lawful.stackNamed name) fun stack =>
        lawful.bind (lawful.reads (reads stack)) fun _ => lawful.gives _
  | _ => exact lawful.gives _

/-! ## Other contexts -/

theorem freshContext (lawful : IsLaw law) : Run.Obeys law freshContext :=
  lawful.bind (lawful.reads currentMemory_onlyReads) fun _ =>
    lawful.bind (lawful.remember _ fun _ => rfl) fun _ => lawful.gives _

section Blocks

variable {block : Run BlockRun}

theorem inCopy (lawful : IsLaw law) (obeys : Run.Obeys law block) :
    Run.Obeys law (inCopy block) :=
  lawful.bind (lawful.reads Run.onlyReads_world) fun _ => lawful.bind lawful.freshContext fun _ =>
    lawful.bind (lawful.inside _ obeys) fun _ => lawful.reads (Run.onlyReads_ofExcept _)

theorem inNewThread (lawful : IsLaw law) (obeys : Run.Obeys law block) :
    Run.Obeys law (inNewThread block) :=
  lawful.bind lawful.freshContext fun _ =>
    lawful.bind (lawful.inside _ obeys) fun _ => lawful.reads (Run.onlyReads_ofExcept _)

theorem inNamed (lawful : IsLaw law) (name : String) (obeys : Run.Obeys law block) :
    Run.Obeys law (inNamed name block) := by
  refine lawful.bind (lawful.reads currentMemory_onlyReads) fun memory => ?_
  by_cases entered : memory.enteredContexts.contains name
  · simp only [if_pos entered]
    exact lawful.fails _
  · simp only [if_neg entered]
    have enters : ∀ chosen : Run Context, Run.Obeys law chosen → Run.Obeys law (do
        let context ← chosen
        modifyMemory fun memory =>
          { memory with enteredContexts := name :: memory.enteredContexts }
        let ran ← Session.inside context block
        modifyMemory fun memory =>
          { memory with
            contexts := setNamed name ran.2 memory.contexts
            enteredContexts := memory.enteredContexts.erase name }
        Run.ofExcept ran.1) := by
      intro chosen chooses
      refine lawful.bind chooses fun context => ?_
      refine lawful.bind (lawful.remember _ fun _ => rfl) fun _ => ?_
      refine lawful.bind (lawful.inside context obeys) fun ran => ?_
      exact lawful.bind (lawful.remember _ fun _ => rfl) fun _ =>
        lawful.reads (Run.onlyReads_ofExcept _)
    cases memory.contexts.lookup name with
    | some context => exact enters _ (lawful.gives context)
    | none =>
        exact enters _ (lawful.bind (lawful.reads Run.onlyReads_world) fun _ =>
          lawful.bind lawful.freshContext fun _ => lawful.gives _)

end Blocks

end IsLaw

/-! ## Steps -/

theorem workingTraveler_onlyReads (traveler : Option Traveler) :
    Run.OnlyReads (workingTraveler traveler) := by
  cases traveler with
  | none => exact Ambient.traveler_onlyReads
  | some traveler => exact Run.onlyReads_pure traveler

theorem stateOf_onlyReads (traveler : Traveler) : Run.OnlyReads (stateOf traveler) := by
  have attempted : Run.OnlyReads (Run.attempt traveler.instant : Run (Except Fault Moment)) :=
    fun world => traveler.instant_onlyReads world
  exact traveler.depth_onlyReads.bind fun _ => attempted.bind fun _ => Run.onlyReads_pure _

theorem eventsSince_onlyReads (place : Nat) : Run.OnlyReads (eventsSince place) :=
  fun _ => rfl

namespace IsLaw

theorem playAction [Atlas] (lawful : IsLaw law) (traveler : Option Traveler) (action : Action) :
    Run.Obeys law (playAction traveler action) := by
  refine lawful.bind (lawful.reads (workingTraveler_onlyReads traveler)) fun working => ?_
  refine lawful.bind (lawful.perform working action).attempt fun outcome => ?_
  cases outcome with
  | error fault => exact lawful.gives _
  | ok result => exact lawful.bind (lawful.stackAfter action) fun _ => lawful.gives _

section Blocks

variable {block : Run BlockRun}

theorem playJourney (lawful : IsLaw law) (traveler : Option Traveler) (departure : Departure)
    (obeys : Run.Obeys law block) : Run.Obeys law (playJourney traveler departure block) := by
  refine lawful.bind (lawful.reads (workingTraveler_onlyReads traveler)) fun working => ?_
  have body : ∀ action, TravelBody.run block = .run action → Run.Obeys law action := by
    intro action same
    cases same
    exact obeys
  refine lawful.bind (lawful.depart working departure body) fun trip => ?_
  cases trip with
  | opened scope => exact lawful.gives _
  | finished played => exact lawful.gives _

theorem playWithin (lawful : IsLaw law) (label : String) (obeys : Run.Obeys law block) :
    Run.Obeys law (playWithin label block) :=
  lawful.bind (lawful.reads (keptScope_onlyReads label _)) fun scope =>
    lawful.within scope fun _ => lawful.bind obeys fun _ => lawful.gives _

theorem playBinding (lawful : IsLaw law) (subject : Subject) (obeys : Run.Obeys law block) :
    Run.Obeys law (playBinding subject block) :=
  lawful.bind (lawful.subjectTraveler subject) fun bound =>
    lawful.bind (lawful.reads (workingTraveler_onlyReads bound)) fun traveler =>
      lawful.bind (lawful.during traveler obeys) fun _ => lawful.gives _

theorem playContext (lawful : IsLaw law) (name : Option String) (obeys : Run.Obeys law block) :
    Run.Obeys law (playContext name block) := by
  cases name with
  | none => exact lawful.bind (lawful.inCopy obeys) fun _ => lawful.gives _
  | some name => exact lawful.bind (lawful.inNamed name obeys) fun _ => lawful.gives _

theorem playThread (lawful : IsLaw law) (obeys : Run.Obeys law block) :
    Run.Obeys law (playThread block) :=
  lawful.bind (lawful.inNewThread obeys) fun _ => lawful.gives _

end Blocks

theorem reportOn (lawful : IsLaw law) (subject : Subject) {play : Option Traveler → Run Played}
    (obeys : ∀ traveler, Run.Obeys law (play traveler)) :
    Run.Obeys law (reportOn subject play) := by
  refine lawful.bind (lawful.subjectTraveler subject).attempt fun traveler => ?_
  refine lawful.bind (lawful.reads Run.onlyReads_world) fun before => ?_
  cases traveler with
  | error fault => exact lawful.gives _
  | ok traveler =>
      refine lawful.bind (obeys traveler).attempt fun attempted => ?_
      have reports : ∀ state : Option TravelerState, Run.Obeys law (do
          let events ← eventsSince before.journal.length
          let played := Played.ofAttempt attempted
          pure (⟨played.outcome, state, events, played.entered, played.block, played.stack⟩ :
            Report)) :=
        fun state => lawful.bind (lawful.reads (eventsSince_onlyReads _)) fun _ => lawful.gives _
      cases traveler with
      | none => exact reports none
      | some traveler =>
          exact lawful.bind (lawful.reads (stateOf_onlyReads traveler)) fun _ => reports _

mutual

theorem playStep [Atlas] (lawful : IsLaw law) (step : Step) : Run.Obeys law (playStep step) := by
  cases step with
  | act manner action =>
      rw [Session.playStep]
      exact lawful.reportOn manner.subject fun traveler => lawful.playAction traveler action
  | journey manner departure steps ending =>
      rw [Session.playStep]
      exact lawful.reportOn manner.subject fun traveler =>
        lawful.playJourney traveler departure (playBlock lawful steps ending)
  | within manner label steps ending =>
      rw [Session.playStep]
      exact lawful.reportOn manner.subject fun _ =>
        lawful.playWithin label (playBlock lawful steps ending)
  | binding manner subject steps ending =>
      rw [Session.playStep]
      exact lawful.reportOn manner.subject fun _ =>
        lawful.playBinding subject (playBlock lawful steps ending)
  | inContext manner name steps ending =>
      rw [Session.playStep]
      exact lawful.reportOn manner.subject fun _ =>
        lawful.playContext name (playBlock lawful steps ending)
  | inThread manner steps ending =>
      rw [Session.playStep]
      exact lawful.reportOn manner.subject fun _ =>
        lawful.playThread (playBlock lawful steps ending)

/-- A block of a session obeys every law of sessions, whatever its steps are and however it ends. -/
theorem playBlock [Atlas] (lawful : IsLaw law) (steps : List Step) (ending : Ending) :
    Run.Obeys law (playBlock steps ending) := by
  cases steps with
  | nil =>
      rw [Session.playBlock]
      exact lawful.gives _
  | cons step rest =>
      rw [Session.playBlock]
      refine lawful.bind (playStep lawful step) fun report => ?_
      have further : Run.Obeys law (do
          let after ← Session.playBlock rest ending
          pure (⟨report :: after.reports, after.outcome⟩ : BlockRun)) :=
        lawful.bind (playBlock lawful rest ending) fun _ => lawful.gives _
      cases report.outcome with
      | ok result => exact further
      | error fault =>
          cases step.manner.passesOn with
          | false => exact further
          | true => exact lawful.gives _

end

end IsLaw

end Session

end VirtualClock

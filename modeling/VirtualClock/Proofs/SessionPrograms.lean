import VirtualClock.Proofs.Operations
import VirtualClock.Proofs.SessionLaws

/-!
# Sessions are programs

Playing the steps of a session, blocks within travels, scopes, bindings and
other contexts included, comes down to operations in the current context.  What
a block does in another context leaves the current one alone.
-/

namespace VirtualClock.Session

variable {Outcome : Type}

theorem modifyMemory_isProgram (change : Memory → Memory) :
    Run.IsProgram (modifyMemory change) :=
  Run.isProgram_of_context_eq fun _ => rfl

theorem testCaseTraveler_isProgram : Run.IsProgram testCaseTraveler := by
  refine currentMemory_onlyReads.isProgram.bind fun memory => ?_
  cases memory.testCase with
  | none => exact Run.isProgram_fail _
  | some testCase =>
      obtain ⟨own, bound⟩ := testCase
      cases bound with
      | some bound => exact (Run.onlyReads_pure _).isProgram
      | none =>
          have taken : ∀ chosen : Session.Run Traveler, Run.OnlyReads chosen →
              Run.IsProgram (chosen >>= fun traveler =>
                Ambient.bind traveler >>= fun binding =>
                  modifyMemory (fun memory =>
                    { memory with testCase := some ⟨own, some (traveler, binding)⟩ }) >>= fun _ =>
                      pure traveler) := by
            intro chosen reads
            refine reads.isProgram.bind fun traveler => ?_
            refine (Ambient.bind_isProgram traveler).bind fun binding => ?_
            exact (modifyMemory_isProgram _).bind fun _ => (Run.onlyReads_pure _).isProgram
          cases own with
          | none => exact taken _ Ambient.traveler_onlyReads
          | some traveler => exact taken _ (Run.onlyReads_pure traveler)

/-- What is run inside another context leaves the current one alone. -/
theorem inside_isProgram (context : Context) (action : Run Outcome) :
    Run.IsProgram (inside context action) :=
  Run.isProgram_of_context_eq fun _ => rfl

/-- To be led to by operations is a law of sessions. -/
theorem isLaw_after :
    IsLaw fun world after => ∃ operations, after = world.after operations where
  refl _ := ⟨[], rfl⟩
  trans := by
    rintro first second third ⟨operations, rfl⟩ ⟨further, rfl⟩
    exact ⟨operations ++ further, (World.after_append first operations further).symm⟩
  push := Stack.push_isProgram
  pop := Stack.pop_isProgram
  truncate := Stack.truncate_isProgram
  mint := Stack.mint_isProgram
  record _ _ := Run.isProgram_of_context_eq fun _ => rfl
  setClock := Clock.set_isProgram
  advanceClock := Clock.advance_isProgram
  remember change _ := modifyMemory_isProgram change
  testCaseTraveler := testCaseTraveler_isProgram
  during traveler _ program := Ambient.during_isProgram traveler program
  inside context block _ := inside_isProgram context block

/-- A block of a session is a program, whatever its steps are and however it ends. -/
theorem playBlock_isProgram [Atlas] (steps : List Step) (ending : Ending) :
    Run.IsProgram (playBlock steps ending) :=
  isLaw_after.playBlock steps ending

end VirtualClock.Session

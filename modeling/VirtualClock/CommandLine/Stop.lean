import VirtualClock.CommandLine.Usage

/-!
# Early ends of a run

Why a run of the command line ends without the views of the time, and the exit
code that it then has.
-/

namespace VirtualClock.CommandLine

/-- How a run ends that was asked for the completion of a shell. -/
structure Completion where
  output : String
  exitCode : Nat
  deriving DecidableEq, Repr

/-- Why a run ends without the views of the time. -/
inductive Stop where
  /-- Only the help was asked for. -/
  | showsHelp (page : String)
  /-- Only the version was asked for. -/
  | showsVersion
  /-- Completion was asked for. -/
  | completes (completion : Completion)
  | misuse (problem : UsageProblem)
  | refusedSettings (fields : List FieldFault)
  | fault (fault : Fault)
  deriving DecidableEq, Repr

namespace Stop

/-- An outcome whose problem, if it has one, ends the run. -/
def misused {Result : Type} (outcome : Except UsageProblem Result) : Except Stop Result :=
  outcome.mapError .misuse

/-- The exit code of a run that was stopped; a fault has none of its own. -/
def exitCode? : Stop → Option Nat
  | .showsHelp _ | .showsVersion => some 0
  | .completes completion => some completion.exitCode
  | .refusedSettings _ => some 1
  | .misuse _ => some 2
  | .fault _ => none

end Stop

end VirtualClock.CommandLine

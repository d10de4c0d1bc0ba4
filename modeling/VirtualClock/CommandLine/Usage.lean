import VirtualClock.Number.FloatText
import VirtualClock.Settings.Schema

/-!
# Misuse of the command line

What can be wrong with the arguments of the program, by its cause, with the
kind and the wording of each.  Values that are refused are worded with the
option that they were given for.
-/

namespace VirtualClock.CommandLine

inductive UsageProblem where
  /-- An option that there is not, with the options that it may have been meant for. -/
  | unknownOption (written : String) (alike : List String)
  | missingValue (option : String)
  | unwantedValue (option : String)
  | unknownCommand (name : String)
  | unreadableOffset
  | unknownLevel (written : String)
  | unknownFormat (written : String)
  /-- A target and an offset are given together. -/
  | targetAndOffset
  | unreadableTarget (written : String)
  | unknownZone (wording : String)
  | targetOutOfRange (written : String)
  | offsetOutOfRange (offset : Binary64)
  deriving DecidableEq, Repr

namespace UsageProblem

def kind : UsageProblem → String
  | .unknownOption _ _ => "NoSuchOption"
  | .missingValue _ | .unwantedValue _ => "BadOptionUsage"
  | .unknownCommand _ => "UsageError"
  | _ => "BadParameter"

/-- The wording for the value of an option that is refused. -/
def refusal (option reason : String) : String :=
  "Invalid value for '" ++ option ++ "': " ++ reason

/-- The wording for a word that is none of a row of choices. -/
def choiceRefusal (noun written : String) (choices : List String) : String :=
  "Invalid log " ++ noun ++ " '" ++ written ++ "'. Choose from: " ++
    String.intercalate ", " choices

/-- The hint at the options that may have been meant. -/
def suggestion : List String → String
  | [] => ""
  | alike => " (Possible options: " ++ String.intercalate ", " alike ++ ")"

def message : UsageProblem → String
  | .unknownOption written alike =>
    "No such option: " ++ Text.withoutControls written ++ suggestion alike
  | .missingValue option => "Option " ++ Text.quoted option ++ " requires an argument."
  | .unwantedValue option => "Option " ++ Text.quoted option ++ " does not take a value."
  | .unknownCommand name => "No such command " ++ Text.quoted name ++ "."
  | .unreadableOffset =>
    refusal "--offset" "Input should be a valid number, unable to parse string as a number"
  | .unknownLevel written => refusal "--log-level" (choiceRefusal "level" written levelNames)
  | .unknownFormat written => refusal "--log-format" (choiceRefusal "format" written formatNames)
  | .targetAndOffset => refusal "--at" "Use either --at or --offset, not both."
  | .unreadableTarget written =>
    refusal "--at" ("Invalid ISO 8601 instant '" ++ written ++ "'.")
  | .unknownZone wording => refusal "--tz" wording
  | .targetOutOfRange written =>
    refusal "--at" ("Instant '" ++ written ++ "' is out of the representable range.")
  | .offsetOutOfRange offset =>
    refusal "--offset"
      ("Offset " ++ FloatText.general offset ++ "s is out of the representable range.")

end UsageProblem

end VirtualClock.CommandLine

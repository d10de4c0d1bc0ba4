import VirtualClock.Proofs.Atlases
import VirtualClock.Proofs.CommandOutcomes

/-!
# Which names of zones are reported

A zone argument is meant to come to one of four answers: nothing and a zone stand for
themselves, a name is found in the atlas or reported as unknown, and any other value is
reported as no zone.  The options of the command line and the settings rely on that when
they check a name.

Names that lead to a directory of the atlas, and names whose last part is too long for a
file there, get past all of them.  No other name does.
-/

namespace VirtualClock

/-! ## Zone arguments -/

namespace Value

variable [Atlas]

/-- The answers that are announced for a zone argument. -/
inductive Announced : Value → Except Fault (Option Zone) → Prop where
  | nothing : Announced .nothing (.ok none)
  | zone (content : Zone) : Announced (.zone content) (.ok (some content))
  | found {name : String} {place : Region} (member : place ∈ Atlas.regions)
      (named : place.name = name) : Announced (.text name) (.ok (some (.region place)))
  | unknown {name : String} (missing : ¬Atlas.IsKnown name) :
      Announced (.text name) (.error (.unknownZone name))
  | noZone {value : Value} (something : value ≠ .nothing)
      (noName : ∀ name, value ≠ .text name) (other : ∀ content, value ≠ .zone content) :
      Announced value (.error (.notAZone value.typeName))

/-- The value is a name that the tree of names blocks. -/
def IsBlocked : Value → Prop
  | .text name => Atlas.IsBlocked name
  | _ => False

variable {name : String} {fault : Fault}

theorem not_announced (escapes : Atlas.Escapes name fault) :
    ¬(Value.text name).Announced (.error fault) := by
  intro announced
  cases announced with
  | unknown _ =>
      rcases escapes with ⟨same, _⟩ | ⟨same, _⟩
      · cases same
      · cases same
  | noZone _ noName _ => exact noName name rfl

theorem toZone_text (name : String) :
    (Value.text name).toZone = (Atlas.find name).map fun place => some (.region place) := rfl

theorem announced_text_iff (name : String) :
    (Value.text name).Announced (Value.text name).toZone ↔ ¬Atlas.IsBlocked name := by
  rw [toZone_text]
  constructor
  · intro announced blocked
    obtain ⟨fault, escapes, answer⟩ := Atlas.find_of_isBlocked blocked
    rw [answer] at announced
    exact not_announced escapes announced
  · intro free
    have search := Atlas.find_search name
    generalize Atlas.find name = answer at search ⊢
    cases search with
    | found member named _ => exact .found member named
    | unknown missing _ => exact .unknown missing
    | directory _ leads => exact absurd (.inl leads) free
    | tooLong _ long => exact absurd (.inr long) free

theorem announced_iff (value : Value) : value.Announced value.toZone ↔ ¬value.IsBlocked := by
  cases value with
  | text name => exact announced_text_iff name
  | nothing => exact ⟨fun _ => not_false, fun _ => .nothing⟩
  | zone content => exact ⟨fun _ => not_false, fun _ => .zone content⟩
  | _ => exact ⟨fun _ => not_false, fun _ => .noZone (by simp) (by simp) (by simp)⟩

end Value

/-! ## The checks of a name -/

/-- What the options and the settings say of a name that is not in the atlas. -/
def unknownZoneWording (name : String) : String :=
  "Unknown time zone " ++ Text.quoted name

/-- The check of the options is the misuse that it makes of the search. -/
def CommandLine.Options.zoneAnswer : Except Fault Region → Except CommandLine.Stop Unit
  | .ok _ => .ok ()
  | .error (.unknownZone name) => .error (.misuse (.unknownZone (unknownZoneWording name)))
  | .error fault => .error (.fault fault)

theorem CommandLine.Options.checkZone_named [Atlas] (options : CommandLine.Options) (name : String) :
    ({ options with zone := some name } : CommandLine.Options).checkZone =
      zoneAnswer (Atlas.find name) := by
  unfold checkZone
  dsimp only
  generalize Atlas.find name = answer
  rcases answer with fault | place
  · cases fault <;> rfl
  · rfl

/-- The check of the settings is the refused field that it makes of the search. -/
def Settings.zoneAnswer (name : String) :
    Except Fault Region → Except Fault (Except FieldProblem (Option String))
  | .ok _ => .ok (.ok (some name))
  | .error (.unknownZone other) => .ok (.error (.unknownZone (unknownZoneWording other)))
  | .error fault => .error fault

theorem Settings.zoneName_text [Atlas] (name : String) :
    Settings.zoneName (.text name) = zoneAnswer name (Atlas.find name) := by
  unfold Settings.zoneName
  dsimp only [FieldReading.optionalText]
  generalize Atlas.find name = answer
  rcases answer with fault | place
  · cases fault <;> rfl
  · rfl

end VirtualClock

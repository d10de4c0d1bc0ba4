import VirtualClock.Number.Binary64

/-!
# JSON values

The tree of a JSON text.  Whole numbers keep all their digits and are kept
apart from the other numbers; the fields of an object keep their order, and
setting a field that is there already changes it in its place.
-/

namespace VirtualClock

inductive Json where
  | null
  | flag (state : Bool)
  | whole (number : Int)
  | float (number : Binary64)
  | text (content : String)
  | list (members : List Json)
  | object (fields : List (String × Json))
  deriving Inhabited

namespace Json

/-- The value of a field in a list of fields. -/
def lookup (fields : List (String × Json)) (name : String) : Option Json :=
  fields.lookup name

/-- The fields with one of them set, in its place when it is there already. -/
def setField (name : String) (value : Json) : List (String × Json) → List (String × Json)
  | [] => [(name, value)]
  | (field, current) :: rest =>
    if field = name then (field, value) :: rest
    else (field, current) :: setField name value rest

/-- The fields of a row of settings; of several for one name the last counts, in
the place of the first. -/
def collect (entries : List (String × Json)) : List (String × Json) :=
  entries.foldl (fun fields entry => setField entry.1 entry.2 fields) []

def field? (value : Json) (name : String) : Option Json :=
  match value with
  | .object fields => lookup fields name
  | _ => none

def isNull : Json → Bool
  | .null => true
  | _ => false

end Json

end VirtualClock

import VirtualClock.Moment.Comparison
import VirtualClock.Value

/-!
# Comparing values

Equality, order and hash keys across the kinds of values.  A derived kind is
asked before the kind it derives from; so a plain day leaves the comparison
with a moment to the moment, while a view of a day compares dates.
-/

namespace VirtualClock.Value

/-- The key of a number: numbers are equal across their kinds. -/
def numberKey : Value → Option HashKey
  | .whole number => some (.number number)
  | .flag state => some (.number (if state then 1 else 0))
  | .float number =>
    match number.whole? with
    | some integer => some (.number integer)
    | none => some (.fraction number)
  | _ => none

/-- Equality of values that are neither moments nor lists. -/
def scalarEqual : Value → Value → Bool
  | .nothing, .nothing => true
  | .text left, .text right => left == right
  | .duration left, .duration right => left == right
  | .day left, .day right => left.date == right.date
  | .zone .utc, .zone .utc => true
  | .zone (.fixed left _), .zone (.fixed right _) => left == right
  | .zone .utc, .zone (.fixed offset _) => offset == 0
  | .zone (.fixed offset _), .zone .utc => offset == 0
  | .zone (.region left), .zone (.region right) => left == right
  | .float .nan, _ => false
  | _, .float .nan => false
  | left, right =>
    match numberKey left, numberKey right with
    | some leftKey, some rightKey => leftKey == rightKey
    | _, _ => false

mutual

/-- Equality of values; with a view of a moment on either side it may leave the calendar. -/
def equal : Value → Value → Except Fault Bool
  | .moment left, .moment right => left.equal right
  | .day left, .moment right => pure (left.kind.isView && left.date == right.wall.date)
  | .moment _, _ => pure false
  | _, .moment _ => pure false
  | .list left, .list right => allEqual left right
  | left, right => pure (scalarEqual left right)

def allEqual : List Value → List Value → Except Fault Bool
  | [], [] => pure true
  | left :: leftRest, right :: rightRest => do
    if ← equal left right then allEqual leftRest rightRest else pure false
  | _, _ => pure false

end

def dateLess (left right : CivilDate) : Bool := left.dayNumber < right.dayNumber

/-- Order of values; most kinds cannot be ordered among each other. -/
def less (left right : Value) : Except Fault Bool :=
  match left, right with
  | .moment leftMoment, .moment rightMoment => leftMoment.less rightMoment
  | .moment leftMoment, .day rightDay =>
    .error (.incomparable leftMoment.kind.qualifiedName rightDay.kind.qualifiedName)
  | .day leftDay, .moment rightMoment =>
    if leftDay.kind.isView then pure (dateLess leftDay.date rightMoment.wall.date)
    else .error (.incomparable rightMoment.kind.qualifiedName leftDay.kind.qualifiedName)
  | .day leftDay, .day rightDay => pure (dateLess leftDay.date rightDay.date)
  | .text leftText, .text rightText => pure (leftText < rightText)
  | .duration leftSpan, .duration rightSpan => pure (leftSpan.micros < rightSpan.micros)
  | _, _ =>
    match numberKey left, numberKey right with
    | some (.number leftNumber), some (.number rightNumber) => pure (leftNumber < rightNumber)
    | _, _ => .error (.unorderable left.qualifiedTypeName right.qualifiedTypeName)

/-- The hash key of a value; lists have none. -/
def hashKey : Value → Except Fault HashKey
  | .moment content => content.hashKey
  | .day content => pure (.date content.date)
  | .text content => pure (.text content)
  | .duration span => pure (.duration span.micros)
  | .nothing => pure .nothing
  | .list _ => .error (.unhashable "list")
  | .zone (.fixed offset _) => pure (.zone (toString offset))
  | .zone .utc => pure (.zone "0")
  | .zone content => pure (.zone content.text)
  | value => pure ((numberKey value).getD .nothing)

/-- The count of members in a set of two values: values with one hash key that
are equal count once. -/
def setSize (left right : Value) : Except Fault Nat := do
  let leftKey ← left.hashKey
  let rightKey ← right.hashKey
  if leftKey = rightKey then
    if ← left.equal right then pure 1 else pure 2
  else pure 2

end VirtualClock.Value

/-!
# Underscores

Underscores that group the characters of a number.  They stand within the text,
one at a time, and carry no meaning of their own.
-/

namespace VirtualClock.Text

def hasDoubleUnderscore : List Char → Bool
  | '_' :: '_' :: _ => true
  | _ :: rest => hasDoubleUnderscore rest
  | [] => false

/-- The underscores of a text all stand alone and within it. -/
def groupsWell (text : List Char) : Bool :=
  text.head? != some '_' && text.getLast? != some '_' && !hasDoubleUnderscore text

/-- A text without its underscores, when they are well placed. -/
def dropUnderscores? (text : List Char) : Option (List Char) :=
  if groupsWell text then some (text.filter (· != '_')) else none

end VirtualClock.Text

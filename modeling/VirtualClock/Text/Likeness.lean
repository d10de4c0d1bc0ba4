/-!
# Likeness of texts

How much two texts have in common, for suggestions to those who mistyped a word.
The longest block that stands in both texts is matched; what stands before it in
both is then matched in the same way, and so is what stands after it.  The
likeness is the share of the matched characters among the characters of both.
-/

namespace VirtualClock.Text

/-- A row of characters that two texts share, by its place in either. -/
structure Block where
  left : Nat
  right : Nat
  size : Nat
  deriving DecidableEq, Repr

/-- How many characters two texts share at their starts. -/
def commonStart : List Char → List Char → Nat
  | first :: left, other :: right => if first = other then commonStart left right + 1 else 0
  | _, _ => 0

/-- The longer of two blocks, and of two of one size the one that was found first. -/
def Block.longer (found block : Block) : Block := if found.size < block.size then block else found

/-- The longest block that two texts share: of several the first one in the left
text, and of these the first one in the right text. -/
def longestBlock (left right : List Char) : Block :=
  (List.range left.length).foldl
    (fun found leftPlace =>
      (List.range right.length).foldl
        (fun found rightPlace =>
          found.longer ⟨leftPlace, rightPlace,
            commonStart (left.drop leftPlace) (right.drop rightPlace)⟩)
        found)
    ⟨0, 0, 0⟩

/-- How many characters of two texts are matched.  The count bounds the blocks and
is the length of the left text. -/
def matchedCount : Nat → List Char → List Char → Nat
  | 0, _, _ => 0
  | fuel + 1, left, right =>
    let block := longestBlock left right
    if block.size = 0 then 0
    else
      matchedCount fuel (left.take block.left) (right.take block.right) + block.size +
        matchedCount fuel (left.drop (block.left + block.size))
          (right.drop (block.right + block.size))

/-! ## Suggestions -/

/-- A word beside another one: how many characters match, and how many there are in both. -/
structure Likeness where
  word : String
  matched : Nat
  total : Nat
  deriving DecidableEq, Repr

namespace Likeness

/-- The likeness of a word to one that was written. -/
def ofWord (written word : String) : Likeness :=
  let left := word.toList
  let right := written.toList
  ⟨word, matchedCount left.length left right, left.length + right.length⟩

/-- At least three fifths of all characters are matched. -/
def isClose (likeness : Likeness) : Bool := 3 * likeness.total ≤ 10 * likeness.matched

/-- Two words could be close if all characters of the shorter one were matched.  This
spares the matching of words of very unlike lengths. -/
def isWithinReach (written word : String) : Bool :=
  3 * (written.length + word.length) ≤ 10 * min written.length word.length

/-- The word is at least as like as another one; of equally like words the one that
is later in the alphabet goes first. -/
def goesBefore (likeness other : Likeness) : Bool :=
  let share := likeness.matched * other.total
  let otherShare := other.matched * likeness.total
  decide (otherShare < share) || (share == otherShare && decide (other.word ≤ likeness.word))

end Likeness

/-- The words that are close to a written one, at most `count` of them, in the order
of the alphabet. -/
def closeWords (count : Nat) (words : List String) (written : String) : List String :=
  let near := words.filter (Likeness.isWithinReach written)
  let close := (near.map (Likeness.ofWord written)).filter Likeness.isClose
  let best := (close.mergeSort Likeness.goesBefore).take count
  (best.map Likeness.word).mergeSort fun word other => decide (word ≤ other)

end VirtualClock.Text

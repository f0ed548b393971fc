/-
Sets of characters given by the code points at which membership changes.

A Unicode property has long stretches of members and of others. Listing the
points where one gives way to the other is the shortest table of it: a code
point is in the set when an odd number of these points lie at or below it.
-/
namespace CallExplorer.Text

/-- A set of characters: the increasing list of code points where membership changes. -/
structure CharSet where
  changes : List Nat

/-- Whether an odd number of the increasing points lie at or below `n`. -/
def CharSet.oddBelow (n : Nat) : List Nat → Bool
  | [] => false
  | p :: ps => if p ≤ n then !oddBelow n ps else false

/-- Whether a character is in the set. -/
def CharSet.contains (s : CharSet) (c : Char) : Bool := oddBelow c.toNat s.changes

end CallExplorer.Text

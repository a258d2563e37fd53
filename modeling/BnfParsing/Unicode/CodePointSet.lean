/-!
Contract: sets of code points as inversion lists.

A set is the increasing list of the code points at which membership changes:
the first boundary is the least member, the second the least non-member above
it, and so on. Every Boolean combination is one merge of two such lists.

Owns: membership, ranges, union, intersection, difference, symmetric
difference and complement.

Does not own: which set a Unicode property or a class expression denotes.
-/

set_option autoImplicit false

namespace BnfParsing

/-- A set of code points, given by the increasing list of membership changes. -/
structure CodePointSet where
  boundaries : List Nat
deriving DecidableEq, Repr, Inhabited

namespace CodePointSet

/-- The end of the code point range, exclusive. -/
def codePointLimit : Nat := 0x110000

/-- The set without members. -/
def empty : CodePointSet := ⟨[]⟩

/-- The set of all code points. -/
def full : CodePointSet := ⟨[0, codePointLimit]⟩

/-- The code points from `low` to `high`, both included. -/
def ofRange (low high : Nat) : CodePointSet :=
  if low ≤ high then ⟨[low, high + 1]⟩ else empty

/-- The set of one code point. -/
def singleton (code : Nat) : CodePointSet :=
  ofRange code code

private def containsFrom (code : Nat) : Bool → List Nat → Bool
  | inside, [] => inside
  | inside, boundary :: rest =>
      if code < boundary then inside else containsFrom code (!inside) rest

/-- Whether `code` is a member. -/
def contains (set : CodePointSet) (code : Nat) : Bool :=
  containsFrom code false set.boundaries

/-- Whether the character is a member. -/
def containsChar (set : CodePointSet) (character : Char) : Bool :=
  set.contains character.toNat

/-- Appends a boundary in front if the combined membership changes there. -/
private def boundaryIf (changes : Bool) (boundary : Nat) (rest : List Nat) : List Nat :=
  if changes then boundary :: rest else rest

/-- Merges boundaries of the right set in front of the boundary `left`, then
goes on with `next`, which merges what follows `left`. -/
private def mergeBefore (keep : Bool → Bool → Bool) (left : Nat) (inLeft : Bool)
    (next : Bool → List Nat → List Nat) : Bool → List Nat → List Nat
  | inRight, [] =>
      boundaryIf (keep inLeft inRight != keep (!inLeft) inRight) left (next inRight [])
  | inRight, right :: rights =>
      if left < right then
        boundaryIf (keep inLeft inRight != keep (!inLeft) inRight) left
          (next inRight (right :: rights))
      else if right < left then
        boundaryIf (keep inLeft inRight != keep inLeft (!inRight)) right
          (mergeBefore keep left inLeft next (!inRight) rights)
      else
        boundaryIf (keep inLeft inRight != keep (!inLeft) (!inRight)) left
          (next (!inRight) rights)

private def mergeRest (keep : Bool → Bool → Bool) (inLeft : Bool) : Bool → List Nat → List Nat
  | _, [] => []
  | inRight, right :: rights =>
      boundaryIf (keep inLeft inRight != keep inLeft (!inRight)) right
        (mergeRest keep inLeft (!inRight) rights)

private def mergeFrom (keep : Bool → Bool → Bool) :
    Bool → List Nat → Bool → List Nat → List Nat
  | inLeft, [] => mergeRest keep inLeft
  | inLeft, left :: lefts =>
      mergeBefore keep left inLeft (mergeFrom keep (!inLeft) lefts)

/-- The code points kept by a Boolean combination of two memberships, which
must reject what is in neither set. -/
private def combine (keep : Bool → Bool → Bool) (left right : CodePointSet) : CodePointSet :=
  ⟨mergeFrom keep false left.boundaries false right.boundaries⟩

/-- Members of either set. -/
def union (left right : CodePointSet) : CodePointSet :=
  combine (fun inLeft inRight => inLeft || inRight) left right

/-- Members of both sets. -/
def inter (left right : CodePointSet) : CodePointSet :=
  combine (fun inLeft inRight => inLeft && inRight) left right

/-- Members of the first set that are not members of the second. -/
def diff (left right : CodePointSet) : CodePointSet :=
  combine (fun inLeft inRight => inLeft && !inRight) left right

/-- Members of exactly one of the two sets. -/
def symmDiff (left right : CodePointSet) : CodePointSet :=
  combine (fun inLeft inRight => inLeft != inRight) left right

/-- The code points that are not members. -/
def compl (set : CodePointSet) : CodePointSet :=
  full.diff set

/-- The union of all sets of a list. -/
def unions (sets : List CodePointSet) : CodePointSet :=
  sets.foldl union empty

/-- Whether no code point is a member. -/
def isEmpty (set : CodePointSet) : Bool :=
  set.boundaries.isEmpty

/-- Whether every member is an ASCII code point. -/
def isAscii (set : CodePointSet) : Bool :=
  set.boundaries.all (· ≤ 0x80)

/-- The number of maximal ranges of members. -/
def rangeCount (set : CodePointSet) : Nat :=
  (set.boundaries.length + 1) / 2

end CodePointSet

end BnfParsing

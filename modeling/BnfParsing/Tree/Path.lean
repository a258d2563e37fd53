import BnfParsing.Tree.Basic

/-!
Contract: selection of subtrees by a dotted path.

Each segment of a path names a token: the first one that of the root, every
later one that of the children selected so far. A segment `name[k]` keeps the
`k`-th child of that name, counted from zero among its siblings, and `*`
selects every child. Siblings are counted in machine words. A path cannot be
followed where the successor of the largest word would be needed.

Owns: segments, their written form, and the selection of one or all subtrees.

Does not own: paths through anything but tokens.
-/

set_option autoImplicit false

namespace BnfParsing.Path

/-- One step of a path. Positions are machine words, as their written form is
limited to 64 bits. -/
inductive Segment where
  | any
  | named (name : Text) (position : Option UInt64)
deriving DecidableEq, Repr

/-- The number that decimal digits write behind those for `value`. -/
def decimalFrom (value : Nat) : Text → Option Nat
  | [] => some value
  | digit :: rest =>
      if digit.isDigit then decimalFrom (value * 10 + (digit.toNat - '0'.toNat)) rest else none

/-- A position in decimal digits, after an optional plus sign. -/
def readPosition? (text : Text) : Option UInt64 :=
  let digits :=
    match text with
    | '+' :: rest => rest
    | rest => rest
  if digits.isEmpty then none
  else
    match decimalFrom 0 digits with
    | some value => if value < UInt64.size then some (UInt64.ofNat value) else none
    | none => none

/-- The text before the last occurrence of a character, and after it. -/
def splitAtLast (separator : Char) : Text → Option (Text × Text)
  | [] => none
  | character :: rest =>
      match splitAtLast separator rest with
      | some (before, after) => some (character :: before, after)
      | none => if character = separator then some ([], rest) else none

/-- The name and the position of a text `name[k]`. -/
def readIndexed? (text : Text) : Option (Text × UInt64) :=
  if text.getLast? = some ']' then
    match splitAtLast '[' text.dropLast with
    | some (name, position) => (readPosition? position).map (name, ·)
    | none => none
  else none

/-- The segment a text is written for. Whatever is not indexed is a name. -/
def Segment.ofText (text : Text) : Segment :=
  if text = ['*'] then .any
  else
    match readIndexed? text with
    | some (name, position) => .named name (some position)
    | none => .named text none

/-- A word whose successor is not a word. -/
structure Overflow where
  word : UInt64
deriving DecidableEq, Repr

/-- The successor of a word that has one. -/
def successor (word : UInt64) : Except Overflow UInt64 :=
  if word.toNat + 1 < UInt64.size then .ok (word + 1) else .error ⟨word⟩

/-- Whether a position keeps the sibling with which `seen` of the name have come. -/
def keeps (seen : UInt64) : Option UInt64 → Except Overflow Bool
  | none => .ok true
  | some position => (successor position).map (· == seen)

/-- The siblings of a name, `seen` of which came before; a position keeps the
one after as many others. -/
def selectNamed (name : Text) (position : Option UInt64) :
    (seen : UInt64) → List Tree → Except Overflow (List Tree)
  | _, [] => .ok []
  | seen, tree :: rest =>
      if tree.token = name then do
        let seen ← successor seen
        let kept ← keeps seen position
        let others ← selectNamed name position seen rest
        return if kept then tree :: others else others
      else selectNamed name position seen rest

/-- The siblings that a segment selects. -/
def Segment.select (segment : Segment) (siblings : List Tree) : Except Overflow (List Tree) :=
  match segment with
  | .any => .ok siblings
  | .named name position => selectNamed name position 0 siblings

/-- The segments of a path. -/
def segments (path : Text) : List Segment :=
  (Text.splitOn '.' path).map Segment.ofText

/-- The subtrees that segments reach from siblings. -/
def reach : List Segment → List Tree → Except Overflow (List Tree)
  | [], _ => .ok []
  | [segment], siblings => segment.select siblings
  | segment :: rest, siblings => do
      let selected ← segment.select siblings
      let reached ← selected.mapM fun tree => reach rest tree.children
      return reached.flatten

end Path

namespace Tree

/-- Every subtree that a path reaches, in the order of the tree. -/
def path (tree : Tree) (path : Text) : Except Path.Overflow (List Tree) :=
  Path.reach (Path.segments path) [tree]

/-- The first subtree that a path reaches. -/
def pathFirst? (tree : Tree) (path : Text) : Except Path.Overflow (Option Tree) :=
  (tree.path path).map List.head?

end Tree

end BnfParsing

import BnfParsing.Proofs.Tree.Segments

/-!
Contract: what a segment selects among siblings.

Siblings of a name are counted in words, and the position of a segment is compared with
the counter after both have been increased by one. A position is read from the path and
may be the largest word, which has no successor; the counter runs out if there are at
least as many siblings of the name as there are words. Where no word is missing, the scan with a
counter is a filter.

Owns:
- the successor of words;
- siblings with those before them, and how many have a name;
- the siblings that a segment accepts, and when their selection needs a word that is
  missing.

Does not own: paths of several segments.
-/

set_option autoImplicit false

namespace BnfParsing.Path

/-! ## Successors -/

/-- The largest word. -/
def largest : UInt64 := UInt64.ofNat (UInt64.size - 1)

theorem toNat_largest : largest.toNat = UInt64.size - 1 :=
  UInt64.toNat_ofNat_of_lt' (by decide)

theorem successor_largest : successor largest = .error ⟨largest⟩ := by decide

theorem toNat_add_one_lt {word : UInt64} (smaller : word ≠ largest) :
    word.toNat + 1 < UInt64.size := by
  have bound := word.toNat_lt_size
  rw [ne_eq, ← UInt64.toNat_inj, toNat_largest] at smaller
  omega

theorem successor_of_ne {word : UInt64} (smaller : word ≠ largest) :
    successor word = .ok (word + 1) :=
  if_pos (toNat_add_one_lt smaller)

theorem toNat_add_one {word : UInt64} (smaller : word ≠ largest) :
    (word + 1).toNat = word.toNat + 1 := by
  rw [UInt64.toNat_add]
  exact Nat.mod_eq_of_lt (toNat_add_one_lt smaller)

theorem keeps_of_ne {position : Option UInt64} (smaller : position ≠ some largest)
    (seen : UInt64) :
    keeps seen position = .ok (position.all fun asked => asked + 1 == seen) := by
  cases position with
  | none => rfl
  | some asked =>
      have askedSmaller : asked ≠ largest := fun same => smaller (congrArg some same)
      rw [keeps, successor_of_ne askedSmaller]
      rfl

/-! ## Places -/

/-- Each of several siblings behind the given ones, with those before it. -/
def places (earlier : List Tree) : List Tree → List Place
  | [] => []
  | tree :: others => ⟨earlier, tree⟩ :: places (earlier ++ [tree]) others

theorem map_node_places (siblings earlier : List Tree) :
    (places earlier siblings).map Place.node = siblings := by
  induction siblings generalizing earlier with
  | nil => rfl
  | cons tree others inductionHypothesis =>
      rw [places, List.map_cons, inductionHypothesis]

/-- The siblings that the written form of a segment accepts. -/
def accepted (text : Text) (siblings : List Tree) : List Tree :=
  ((places [] siblings).filter fun place => Accepts text place).map Place.node

/-! ## Siblings of a name -/

/-- How many siblings have a name. -/
def countNamed (name : Text) (siblings : List Tree) : Nat :=
  siblings.countP fun sibling => sibling.token = name

theorem countNamed_cons_of_named {name : Text} {tree : Tree} (named : tree.token = name)
    (others : List Tree) : countNamed name (tree :: others) = countNamed name others + 1 :=
  List.countP_cons_of_pos (decide_eq_true named)

theorem countNamed_cons_of_not_named {name : Text} {tree : Tree} (differs : tree.token ≠ name)
    (others : List Tree) : countNamed name (tree :: others) = countNamed name others :=
  List.countP_cons_of_neg (by simpa using differs)

theorem countNamed_concat_of_named {name : Text} {tree : Tree} (named : tree.token = name)
    (earlier : List Tree) : countNamed name (earlier ++ [tree]) = countNamed name earlier + 1 := by
  simp [countNamed, named]

theorem countNamed_concat_of_not_named {name : Text} {tree : Tree} (differs : tree.token ≠ name)
    (earlier : List Tree) : countNamed name (earlier ++ [tree]) = countNamed name earlier := by
  simp [countNamed, differs]

theorem countNamed_pos_iff {name : Text} {siblings : List Tree} :
    0 < countNamed name siblings ↔ ∃ sibling ∈ siblings, sibling.token = name := by
  simp [countNamed, List.countP_pos_iff]

theorem accepts_of_named {name : Text} {place : Place} {seen : UInt64}
    (named : place.node.token = name) (counted : seen.toNat = countNamed name place.earlier)
    (position : Option UInt64) :
    (Segment.named name position).accepts place =
      position.all fun asked => asked + 1 == seen + 1 := by
  cases position with
  | none => exact decide_eq_true named
  | some asked =>
      have sameCount : asked = seen ↔ countNamed name place.earlier = asked.toNat := by
        rw [← UInt64.toNat_inj, counted, eq_comm]
      rw [Option.all_some, Bool.eq_iff_iff, beq_iff_eq, UInt64.add_left_inj, sameCount]
      simp [Segment.accepts, countNamed, named]

theorem accepts_of_not_named {name : Text} {place : Place} (differs : place.node.token ≠ name)
    (position : Option UInt64) : (Segment.named name position).accepts place = false := by
  cases position <;> simp [Segment.accepts, differs]

/-- The scan of siblings is a filter. It fails if the position is the largest word and is
compared with a counter, or if the counter itself goes past the largest word. -/
theorem selectNamed_eq (name : Text) (position : Option UInt64) {seen : UInt64}
    {earlier : List Tree} (counted : seen.toNat = countNamed name earlier)
    (siblings : List Tree) :
    selectNamed name position seen siblings =
      if position = some largest ∧ 0 < countNamed name siblings ∨
          UInt64.size ≤ countNamed name earlier + countNamed name siblings then
        .error ⟨largest⟩
      else
        .ok (((places earlier siblings).filter (Segment.named name position).accepts).map
          Place.node) := by
  induction siblings generalizing seen earlier with
  | nil =>
      have bound := seen.toNat_lt_size
      have none : countNamed name [] = 0 := rfl
      rw [none, if_neg (by omega)]
      rfl
  | cons tree others inductionHypothesis =>
      rw [selectNamed, places, List.filter_cons]
      by_cases named : tree.token = name
      · rw [if_pos named, countNamed_cons_of_named named, accepts_of_named named counted]
        by_cases last : seen = largest
        · have full : UInt64.size ≤ countNamed name earlier + (countNamed name others + 1) := by
            rw [← counted, last, toNat_largest]
            omega
          rw [last, successor_largest, if_pos (Or.inr full)]
          rfl
        rw [successor_of_ne last]
        by_cases asksLast : position = some largest
        · rw [if_pos (Or.inl ⟨asksLast, Nat.succ_pos _⟩), asksLast]
          simp only [bind, Except.bind, keeps, successor_largest]
          rfl
        · have countedNext : (seen + 1).toNat = countNamed name (earlier ++ [tree]) := by
            rw [toNat_add_one last, counted, countNamed_concat_of_named named]
          have later := inductionHypothesis countedNext
          rw [countNamed_concat_of_named named, Nat.add_right_comm, Nat.add_assoc] at later
          simp only [asksLast, false_and, false_or] at later ⊢
          simp only [bind, Except.bind, keeps_of_ne asksLast, later]
          by_cases full : UInt64.size ≤ countNamed name earlier + (countNamed name others + 1)
          · rw [if_pos full, if_pos full]
          · rw [if_neg full, if_neg full]
            cases position.all fun asked => asked + 1 == seen + 1 <;> rfl
      · have countedNext : seen.toNat = countNamed name (earlier ++ [tree]) := by
          rw [counted, countNamed_concat_of_not_named named]
        have later := inductionHypothesis countedNext
        rw [countNamed_concat_of_not_named named] at later
        rw [if_neg named, countNamed_cons_of_not_named named, accepts_of_not_named named]
        exact later

/-! ## Written segments -/

/-- Selection by the written form of a segment needs the successor of the largest word. -/
inductive Overflows (text : Text) (siblings : List Tree) : Prop where
  /-- It is the position, and there is a sibling to compare it with. -/
  | position {name : Text} (written : Indexed text name (UInt64.size - 1))
      (named : ∃ sibling ∈ siblings, sibling.token = name)
  /-- The siblings of the name are at least as many as there are words. -/
  | counter {name : Text} (names : Names text name)
      (many : UInt64.size ≤ countNamed name siblings)

theorem overflows_iff {text name : Text} {position : Option UInt64}
    (segment : Segment.ofText text = .named name position) (siblings : List Tree) :
    Overflows text siblings ↔
      position = some largest ∧ 0 < countNamed name siblings ∨
        UInt64.size ≤ countNamed name siblings := by
  rw [countNamed_pos_iff]
  constructor
  · rintro (⟨written, named⟩ | ⟨names, many⟩)
    · rw [← toNat_largest, ← Segment.ofText_eq_named_some_iff, segment] at written
      cases written
      exact .inl ⟨rfl, named⟩
    · obtain ⟨otherPosition, other⟩ := names_iff.mp names
      rw [segment] at other
      cases other
      exact .inr many
  · rintro (⟨rfl, named⟩ | many)
    · rw [Segment.ofText_eq_named_some_iff, toNat_largest] at segment
      exact .position segment named
    · exact .counter (names_iff.mpr ⟨position, segment⟩) many

theorem not_overflows_of_any {text : Text} (segment : Segment.ofText text = .any)
    (siblings : List Tree) : ¬ Overflows text siblings := by
  rintro (⟨written, -⟩ | ⟨names, -⟩)
  · obtain ⟨position, other⟩ := names_iff.mp (.indexed written)
    rw [segment] at other
    cases other
  · obtain ⟨position, other⟩ := names_iff.mp names
    rw [segment] at other
    cases other

/-- A segment selects the siblings that its written form accepts, if no word is missing. -/
theorem select_ofText (text : Text) (siblings : List Tree) :
    Overflows text siblings ∧ (Segment.ofText text).select siblings = .error ⟨largest⟩ ∨
      ¬ Overflows text siblings ∧
        (Segment.ofText text).select siblings = .ok (accepted text siblings) := by
  have sameFilter : accepted text siblings =
      ((places [] siblings).filter (Segment.ofText text).accepts).map Place.node := by
    have sameTest : (fun place => decide (Accepts text place)) =
        (Segment.ofText text).accepts := by
      funext place
      rw [Bool.eq_iff_iff, decide_eq_true_iff, accepts_ofText_iff]
    rw [accepted, sameTest]
  rw [sameFilter]
  cases segment : Segment.ofText text with
  | any =>
      have all : (places [] siblings).filter Segment.any.accepts = places [] siblings :=
        List.filter_eq_self.mpr fun _ _ => rfl
      rw [all, map_node_places]
      exact .inr ⟨not_overflows_of_any segment siblings, rfl⟩
  | named name position =>
      have counted : (0 : UInt64).toNat = countNamed name [] := rfl
      have scanned := selectNamed_eq name position counted siblings
      rw [← counted, UInt64.toNat_zero, Nat.zero_add] at scanned
      rw [Segment.select, scanned, overflows_iff segment]
      split
      next overflows => exact .inl ⟨overflows, rfl⟩
      next countable => exact .inr ⟨countable, rfl⟩

end BnfParsing.Path

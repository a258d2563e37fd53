import BnfParsing.Proofs.Regex.Position
import Mathlib.Logic.Relation

/-!
Contract: the ways through a program that a text allows, independent of the order
in which a search tries them.

Owns:
- single steps between places, a place being an instruction and a position;
- the places from which a program can accept, and where;
- the soundness of a search: what it returns lies at the end of such a way.

Does not own: whether a search finds a way that exists.
-/

set_option autoImplicit false

namespace BnfParsing.Regex.Search

/-- The address of an instruction together with a position in the text. -/
structure Place where
  address : Nat
  position : Nat

/-- Where a thread stands. -/
def Thread.place (thread : Thread) : Place :=
  ⟨thread.address, thread.position⟩

/-- The character in front of a position. -/
def before? (input : Array Char) (position : Nat) : Option Char :=
  if position = 0 then none else input[position - 1]?

/-- One instruction leads from a place to another one. -/
inductive Step (program : Program) (input : Array Char) : Place → Place → Prop where
  | oneOf {address position next : Nat} {set : CodePointSet} {character : Char}
      (instruction : program[address]? = some (.oneOf set next))
      (read : input[position]? = some character)
      (inSet : set.containsChar character = true) :
      Step program input ⟨address, position⟩ ⟨next, position + 1⟩
  | assertion {address position next : Nat} {condition : Assertion}
      (instruction : program[address]? = some (.assertion condition next))
      (holds : condition.holds (before? input position) input[position]? = true) :
      Step program input ⟨address, position⟩ ⟨next, position⟩
  | preferred {address position preferred other : Nat}
      (instruction : program[address]? = some (.fork preferred other)) :
      Step program input ⟨address, position⟩ ⟨preferred, position⟩
  | other {address position preferred other : Nat}
      (instruction : program[address]? = some (.fork preferred other)) :
      Step program input ⟨address, position⟩ ⟨other, position⟩
  | mark {address position slot next : Nat}
      (instruction : program[address]? = some (.mark slot next)) :
      Step program input ⟨address, position⟩ ⟨next, position⟩

/-- Some number of steps leads from the place to an accepting instruction, at
the position `stop`. -/
def Accepts (program : Program) (input : Array Char) (place : Place) (stop : Nat) : Prop :=
  ∃ address, Relation.ReflTransGen (Step program input) place ⟨address, stop⟩ ∧
    program[address]? = some .accept

variable {program : Program} {input : Array Char} {place next : Place} {stop : Nat}

theorem Step.exists_instruction (step : Step program input place next) :
    ∃ instruction, program[place.address]? = some instruction ∧ instruction ≠ .accept := by
  cases step with
  | oneOf instruction => exact ⟨_, instruction, by simp⟩
  | assertion instruction => exact ⟨_, instruction, by simp⟩
  | preferred instruction => exact ⟨_, instruction, by simp⟩
  | other instruction => exact ⟨_, instruction, by simp⟩
  | mark instruction => exact ⟨_, instruction, by simp⟩

theorem Step.position_le (step : Step program input place next) :
    place.position ≤ next.position := by
  cases step with
  | oneOf => exact Nat.le_succ _
  | assertion => exact Nat.le_refl _
  | preferred => exact Nat.le_refl _
  | other => exact Nat.le_refl _
  | mark => exact Nat.le_refl _

theorem position_le_of_steps (steps : Relation.ReflTransGen (Step program input) place next) :
    place.position ≤ next.position := by
  induction steps with
  | refl => exact Nat.le_refl _
  | tail _ last inductionHypothesis => exact Nat.le_trans inductionHypothesis last.position_le

/-- A place from which a program can accept holds an instruction. -/
theorem Accepts.address_lt (accepts : Accepts program input place stop) :
    place.address < program.size := by
  obtain ⟨address, steps, accept⟩ := accepts
  rcases steps.cases_head with rfl | ⟨next, first, _⟩
  · exact (Array.getElem?_eq_some_iff.mp accept).1
  · obtain ⟨instruction, found, _⟩ := first.exists_instruction
    exact (Array.getElem?_eq_some_iff.mp found).1

/-- The successors of a thread stand where one step leads from its place. -/
theorem step_iff_mem_successors {thread : Thread} {instruction : Instruction}
    (found : program[thread.address]? = some instruction) :
    Step program input thread.place next ↔
      ∃ successor ∈ successors input thread instruction, successor.place = next := by
  constructor
  · intro step
    -- the instruction of the step is the one that was found
    cases step with
    | oneOf stepFound read inSet =>
        obtain rfl := Option.some.inj (found.symm.trans stepFound)
        simp [successors, read, inSet, Thread.place]
    | assertion stepFound holds =>
        obtain rfl := Option.some.inj (found.symm.trans stepFound)
        rw [before?] at holds
        simp [successors, holds, Thread.place]
    | preferred stepFound =>
        obtain rfl := Option.some.inj (found.symm.trans stepFound)
        simp [successors, Thread.place]
    | other stepFound =>
        obtain rfl := Option.some.inj (found.symm.trans stepFound)
        simp [successors, Thread.place]
    | mark stepFound =>
        obtain rfl := Option.some.inj (found.symm.trans stepFound)
        simp [successors, Thread.place]
  · rintro ⟨successor, member, rfl⟩
    cases instruction with
    | oneOf set target =>
        simp only [successors] at member
        split at member
        case h_1 character read =>
          split at member
          case isTrue inSet =>
            obtain rfl := List.mem_singleton.mp member
            exact .oneOf found read inSet
          case isFalse => simp at member
        case h_2 => simp at member
    | assertion condition target =>
        simp only [successors, List.mem_ite_nil_right, List.mem_singleton] at member
        obtain ⟨holds, rfl⟩ := member
        exact .assertion found holds
    | fork preferred other =>
        simp only [successors, List.mem_cons, List.not_mem_nil, or_false] at member
        rcases member with rfl | rfl
        · exact .preferred found
        · exact .other found
    | mark slot target =>
        obtain rfl := List.mem_singleton.mp member
        exact .mark found
    | accept => simp [successors] at member

/-! ## Runs -/

/-- Where a search notes that it has entered a place. -/
def Place.index (input : Array Char) (place : Place) : Nat :=
  place.address * (input.size + 1) + place.position

variable {fuel : Nat} {entered after : Array Bool} {thread : Thread} {waiting : List Thread}

theorem run_of_entered (again : entered.getD (thread.place.index input) true = true) :
    run program input (fuel + 1) entered (thread :: waiting) =
      run program input fuel entered waiting :=
  if_pos again

theorem run_of_accept (first : entered.getD (thread.place.index input) true = false)
    (found : program[thread.address]? = some .accept) :
    run program input (fuel + 1) entered (thread :: waiting) =
      (some thread, entered.setIfInBounds (thread.place.index input) true) := by
  rw [Place.index, Thread.place] at first
  simp only [run, first, found, Bool.false_eq_true, if_false, Place.index, Thread.place]

theorem run_of_instruction {instruction : Instruction}
    (first : entered.getD (thread.place.index input) true = false)
    (found : program[thread.address]? = some instruction) (notAccept : instruction ≠ .accept) :
    run program input (fuel + 1) entered (thread :: waiting) =
      run program input fuel (entered.setIfInBounds (thread.place.index input) true)
        (successors input thread instruction ++ waiting) := by
  rw [Place.index, Thread.place] at first
  simp only [run, first, found, Bool.false_eq_true, if_false, Place.index, Thread.place]

theorem run_of_no_instruction (first : entered.getD (thread.place.index input) true = false)
    (absent : program[thread.address]? = none) :
    run program input (fuel + 1) entered (thread :: waiting) =
      run program input fuel (entered.setIfInBounds (thread.place.index input) true) waiting := by
  rw [Place.index, Thread.place] at first
  simp only [run, first, absent, Bool.false_eq_true, if_false, Place.index, Thread.place]

/-- A run accepts at the end of a way that starts at one of its threads. -/
theorem accepts_of_run {threads : List Thread} {accepted : Thread}
    (result : run program input fuel entered threads = (some accepted, after)) :
    ∃ thread ∈ threads, Accepts program input thread.place accepted.position := by
  induction fuel generalizing entered threads with
  | zero => simp [run] at result
  | succ fuel inductionHypothesis =>
      cases threads with
      | nil => simp [run] at result
      | cons thread waiting =>
          have inWaiting : (∃ other ∈ waiting,
              Accepts program input other.place accepted.position) →
              ∃ other ∈ thread :: waiting, Accepts program input other.place accepted.position := by
            rintro ⟨other, member, accepts⟩
            exact ⟨other, List.mem_cons_of_mem thread member, accepts⟩
          cases first : entered.getD (thread.place.index input) true with
          | true =>
              rw [run_of_entered first] at result
              exact inWaiting (inductionHypothesis result)
          | false =>
              cases found : program[thread.address]? with
              | none =>
                  rw [run_of_no_instruction first found] at result
                  exact inWaiting (inductionHypothesis result)
              | some instruction =>
                  by_cases isAccept : instruction = .accept
                  · subst isAccept
                    rw [run_of_accept first found] at result
                    obtain rfl := Option.some.inj (Prod.mk.inj result).1
                    exact ⟨thread, List.mem_cons_self, thread.address, .refl, found⟩
                  · rw [run_of_instruction first found isAccept] at result
                    obtain ⟨other, member, accepts⟩ := inductionHypothesis result
                    rcases List.mem_append.mp member with new | old
                    · obtain ⟨address, steps, accept⟩ := accepts
                      have step : Step program input thread.place other.place :=
                        (step_iff_mem_successors found).mpr ⟨other, new, rfl⟩
                      exact ⟨thread, List.mem_cons_self, address, .head step steps, accept⟩
                    · exact inWaiting ⟨other, old, accepts⟩

/-- What a scan returns is the end of a way from the start that it returns. -/
theorem accepts_of_scan {entry : Program.Entry} {remaining position start : Nat}
    {accepted : Thread}
    (found : scan entry input remaining position entered = some (start, accepted)) :
    position ≤ start ∧ start ≤ position + remaining ∧
      Accepts entry.program input ⟨entry.address, start⟩ accepted.position := by
  induction remaining generalizing position entered with
  | zero =>
      rw [scan] at found
      split at found
      case h_1 thread after result =>
        simp only [Option.some.injEq, Prod.mk.injEq] at found
        obtain ⟨rfl, rfl⟩ := found
        obtain ⟨first, member, accepts⟩ := accepts_of_run result
        obtain rfl := List.mem_singleton.mp member
        exact ⟨Nat.le_refl _, Nat.le_refl _, accepts⟩
      case h_2 => simp at found
  | succ remaining inductionHypothesis =>
      rw [scan] at found
      split at found
      case h_1 thread after result =>
        simp only [Option.some.injEq, Prod.mk.injEq] at found
        obtain ⟨rfl, rfl⟩ := found
        obtain ⟨first, member, accepts⟩ := accepts_of_run result
        obtain rfl := List.mem_singleton.mp member
        exact ⟨Nat.le_refl _, by omega, accepts⟩
      case h_2 =>
        obtain ⟨least, most, accepts⟩ := inductionHypothesis found
        exact ⟨by omega, by omega, accepts⟩

end Search

/-- A way through the program leads from `start` to `stop`. -/
def Matches (regex : Regex) (text : Text) (start stop : Nat) : Prop :=
  start ≤ text.length ∧
    Search.Accepts regex.entry.program text.toArray ⟨regex.entry.address, start⟩ stop

theorem matches_of_find? {regex : Regex} {text : Text} {found : Regex.Match}
    (isMatch : regex.find? text = some found) : regex.Matches text found.start found.stop := by
  unfold Regex.find? Search.find? at isMatch
  simp only [Option.map_eq_some_iff] at isMatch
  obtain ⟨⟨start, thread⟩, scanned, rfl⟩ := isMatch
  obtain ⟨-, most, accepts⟩ := Search.accepts_of_scan scanned
  exact ⟨by simpa using most, accepts⟩

end BnfParsing.Regex

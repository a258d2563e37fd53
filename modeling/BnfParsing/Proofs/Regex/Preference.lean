import BnfParsing.Proofs.Regex.Exhaustion
import BnfParsing.Proofs.Traversal

/-!
Contract: the preferred way through a program is the one that a search finds.

A search enters no place twice. It loses nothing by that: a place that has been
entered has been left in vain, or lies behind on the preferred way, and a way that
ends does not come back to where it has been, because the preferred way from a place
has a fixed number of steps.

Owns:
- the preferred way from a place, and that there is only one;
- the places that a search leaves in vain;
- the match that is found, in terms of preferred ways.

Does not own: the ways of particular programs.
-/

set_option autoImplicit false

namespace BnfParsing.Regex.Search

variable {program : Program} {input : Array Char} {place next : Place} {stop : Nat}
variable {instruction : Instruction} {entered after : Array Bool}
variable {thread : Thread} {threads waiting : List Thread} {fuel steps : Nat}

/-! ## Ways in order of preference -/

/-- From the place nothing can be accepted. -/
def Fails (program : Program) (input : Array Char) (place : Place) : Prop :=
  ∀ stop, ¬ Accepts program input place stop

theorem Fails.of_step (fails : Fails program input place) (step : Step program input place next) :
    Fails program input next := by
  rintro stop ⟨address, steps, accept⟩
  exact fails stop ⟨address, .head step steps, accept⟩

/-- The places that an instruction leads to, the preferred ones first. -/
def nextPlaces (input : Array Char) (place : Place) (instruction : Instruction) : List Place :=
  (successors input ⟨place.address, place.position, []⟩ instruction).map Thread.place

/-- What a thread has marked makes no difference to where it goes. -/
theorem map_place_successors (input : Array Char) (thread : Thread) (instruction : Instruction) :
    (successors input thread instruction).map Thread.place =
      nextPlaces input thread.place instruction := by
  obtain ⟨address, position, marks⟩ := thread
  unfold nextPlaces
  cases instruction with
  | oneOf set next =>
      simp only [successors, Thread.place]
      split
      · split <;> rfl
      · rfl
  | assertion condition next =>
      change List.map Thread.place (if condition.holds (before? input position) input[position]?
          then [⟨next, position, marks⟩] else []) =
        List.map Thread.place (if condition.holds (before? input position) input[position]?
          then [⟨next, position, []⟩] else [])
      split <;> rfl
  | fork preferred other => rfl
  | mark slot next => rfl
  | accept => rfl

theorem step_iff_mem_nextPlaces (found : program[place.address]? = some instruction) :
    Step program input place next ↔ next ∈ nextPlaces input place instruction := by
  rw [nextPlaces, List.mem_map]
  have unmarked : Step program input (Thread.place ⟨place.address, place.position, []⟩) next ↔ _ :=
    step_iff_mem_successors found
  exact unmarked

/-- From the place the preferred way accepts at `stop` after a number of steps. Each
step leads to the first place from which anything can be accepted. -/
inductive Preferred (program : Program) (input : Array Char) : Nat → Place → Nat → Prop where
  | accept {place : Place} (found : program[place.address]? = some .accept) :
      Preferred program input 0 place place.position
  | step {steps stop : Nat} {place next : Place} {instruction : Instruction}
      {inVain others : List Place} (found : program[place.address]? = some instruction)
      (order : nextPlaces input place instruction = inVain ++ next :: others)
      (fail : ∀ earlier ∈ inVain, Fails program input earlier)
      (further : Preferred program input steps next stop) :
      Preferred program input (steps + 1) place stop

theorem Preferred.accepts (preferred : Preferred program input steps place stop) :
    Accepts program input place stop := by
  induction preferred with
  | accept found => exact ⟨_, .refl, found⟩
  | step found order fail further inductionHypothesis =>
      obtain ⟨address, steps, accept⟩ := inductionHypothesis
      have first := (step_iff_mem_nextPlaces found).mpr (order ▸ List.mem_append_right _
        List.mem_cons_self)
      exact ⟨address, .head first steps, accept⟩

/-- Only one place comes directly behind the ones that fail. -/
theorem eq_of_order {inVain others otherInVain otherOthers : List Place} {otherNext : Place}
    (same : inVain ++ next :: others = otherInVain ++ otherNext :: otherOthers)
    (fail : ∀ earlier ∈ inVain, Fails program input earlier)
    (otherFail : ∀ earlier ∈ otherInVain, Fails program input earlier)
    (succeeds : ¬ Fails program input next) (otherSucceeds : ¬ Fails program input otherNext) :
    next = otherNext := by
  rcases sides_of_append_eq same with ⟨rest, rfl, -⟩ | ⟨start, rfl, inside⟩
  · exact absurd (fail _ (by simp)) otherSucceeds
  · cases start with
    | nil => exact (List.cons.inj inside).1
    | cons first more =>
        obtain ⟨rfl, -⟩ := List.cons.inj inside
        exact absurd (otherFail _ (by simp)) succeeds

theorem Preferred.unique {otherSteps otherStop : Nat}
    (preferred : Preferred program input steps place stop)
    (other : Preferred program input otherSteps place otherStop) :
    steps = otherSteps ∧ stop = otherStop := by
  induction preferred generalizing otherSteps otherStop with
  | accept found =>
      cases other with
      | accept => exact ⟨rfl, rfl⟩
      | step otherFound order =>
          obtain rfl := Option.some.inj (found.symm.trans otherFound)
          simp [nextPlaces, successors] at order
  | step found order fail further inductionHypothesis =>
      cases other with
      | accept otherFound =>
          obtain rfl := Option.some.inj (found.symm.trans otherFound)
          simp [nextPlaces, successors] at order
      | step otherFound otherOrder otherFail otherFurther =>
          obtain rfl := Option.some.inj (found.symm.trans otherFound)
          have sameNext := eq_of_order (order.symm.trans otherOrder) fail otherFail
            (fun fails => fails _ further.accepts) (fun fails => fails _ otherFurther.accepts)
          subst sameNext
          obtain ⟨rfl, rfl⟩ := inductionHypothesis otherFurther
          exact ⟨rfl, rfl⟩

/-! ## Places left in vain -/

/-- Between two moments of a search nothing has been entered but places that fail. -/
structure Passed (program : Program) (input : Array Char) (entered after : Array Bool) :
    Prop where
  size_eq : after.size = entered.size
  fails : ∀ place, Entered input after place →
    Entered input entered place ∨ Fails program input place

theorem Passed.refl : Passed program input entered entered :=
  ⟨rfl, fun _ => .inl⟩

theorem Passed.of_enter (fails : Fails program input place) (within : place.position ≤ input.size)
    (fresh : entered[place.index input]? = some false)
    (passed : Passed program input (entered.setIfInBounds (place.index input) true) after) :
    Passed program input entered after where
  size_eq := by rw [passed.size_eq, Array.size_setIfInBounds]
  fails other isEntered := by
    rcases passed.fails other isEntered with known | otherFails
    · rcases (entered_setIfInBounds_iff within fresh).mp known with rfl | before
      · exact .inr fails
      · exact .inl before
    · exact .inr otherFails

/-- A run follows threads that fail to their end and goes on with those that wait,
with enough fuel left. -/
theorem run_append_of_fails (size_eq : entered.size = program.size * (input.size + 1))
    (within : Within input threads) (fail : ∀ thread ∈ threads, Fails program input thread.place)
    (enough : (threads ++ waiting).length + 2 * entered.count false ≤ fuel) :
    ∃ left after, run program input fuel entered (threads ++ waiting) =
        run program input left after waiting ∧
      waiting.length + 2 * after.count false ≤ left ∧ Passed program input entered after := by
  induction fuel generalizing entered threads with
  | zero =>
      obtain ⟨rfl, -⟩ := List.append_eq_nil_iff.mp (List.eq_nil_of_length_eq_zero
        (Nat.eq_zero_of_le_zero (Nat.le_of_add_right_le enough)))
      exact ⟨0, entered, rfl, enough, .refl⟩
  | succ fuel inductionHypothesis =>
      cases threads with
      | nil => exact ⟨fuel + 1, entered, rfl, enough, .refl⟩
      | cons thread threads =>
          have threadWithin : thread.place.position ≤ input.size := within thread List.mem_cons_self
          obtain ⟨threadFails, othersFail⟩ := List.forall_mem_cons.mp fail
          rw [List.cons_append, List.length_cons] at enough
          cases noted : entered.getD (thread.place.index input) true with
          | true =>
              obtain ⟨left, after, goesOn, enoughLeft, passed⟩ :=
                inductionHypothesis size_eq within.tail othersFail (by omega)
              exact ⟨left, after, (run_of_entered noted).trans goesOn, enoughLeft, passed⟩
          | false =>
              have fresh := getElem?_of_getD noted
              have fewer := count_setIfInBounds fresh
              obtain ⟨instruction, found⟩ :
                  ∃ instruction, program[thread.address]? = some instruction :=
                ⟨_, Array.getElem?_eq_getElem (address_lt_of_getElem? size_eq fresh)⟩
              have notAccept : instruction ≠ .accept := by
                rintro rfl
                exact threadFails _ ⟨_, .refl, found⟩
              have added := length_successors_le input thread instruction
              have successorsFail : ∀ successor ∈ successors input thread instruction,
                  Fails program input successor.place := fun successor member =>
                threadFails.of_step ((step_iff_mem_successors found).mpr ⟨successor, member, rfl⟩)
              have newSize : (entered.setIfInBounds (thread.place.index input) true).size =
                  program.size * (input.size + 1) := by rw [Array.size_setIfInBounds, size_eq]
              obtain ⟨left, after, goesOn, enoughLeft, passed⟩ := inductionHypothesis newSize
                (within.enter instruction)
                (List.forall_mem_append.mpr ⟨successorsFail, othersFail⟩)
                (by simp only [List.length_append] at enough ⊢; omega)
              refine ⟨left, after, ?_, enoughLeft, .of_enter threadFails threadWithin fresh passed⟩
              rw [List.cons_append, run_of_instruction noted found notAccept, ← goesOn,
                List.append_assoc]

/-! ## The way that a run takes -/

/-- What has been entered fails or lies further back on a preferred way. -/
def Behind (program : Program) (input : Array Char) (entered : Array Bool) (steps : Nat) : Prop :=
  ∀ place, Entered input entered place →
    Fails program input place ∨
      ∃ more stop, steps < more ∧ Preferred program input more place stop

theorem Behind.getD_eq_false (behind : Behind program input entered steps)
    (preferred : Preferred program input steps place stop)
    (size_eq : entered.size = program.size * (input.size + 1))
    (within : place.position ≤ input.size) :
    entered.getD (place.index input) true = false := by
  rw [← Bool.not_eq_true]
  intro noted
  rcases behind _ (entered_of_getD size_eq preferred.accepts.address_lt within noted) with
    fails | ⟨more, otherStop, further, other⟩
  · exact fails stop preferred.accepts
  · obtain ⟨rfl, -⟩ := preferred.unique other
    exact Nat.lt_irrefl _ further

theorem Behind.passed (behind : Behind program input entered steps)
    (passed : Passed program input entered after) : Behind program input after steps :=
  fun place isEntered => (passed.fails place isEntered).elim (behind place) .inl

/-- A step along the preferred way leaves its place behind. -/
theorem Behind.enter (behind : Behind program input entered (steps + 1))
    (preferred : Preferred program input (steps + 1) place stop)
    (within : place.position ≤ input.size)
    (fresh : entered[place.index input]? = some false) :
    Behind program input (entered.setIfInBounds (place.index input) true) steps := by
  intro other isEntered
  rcases (entered_setIfInBounds_iff within fresh).mp isEntered with rfl | known
  · exact .inr ⟨steps + 1, stop, Nat.lt_succ_self steps, preferred⟩
  · exact (behind other known).imp_right fun ⟨more, otherStop, further, way⟩ =>
      ⟨more, otherStop, Nat.lt_of_succ_lt further, way⟩

/-- A run accepts where the preferred way of its first thread does. -/
theorem run_of_preferred (preferred : Preferred program input steps place stop)
    (stands : thread.place = place)
    (size_eq : entered.size = program.size * (input.size + 1))
    (within : Within input (thread :: waiting)) (behind : Behind program input entered steps)
    (enough : (thread :: waiting).length + 2 * entered.count false ≤ fuel) :
    ∃ accepted after, run program input fuel entered (thread :: waiting) = (some accepted, after) ∧
      accepted.position = stop := by
  induction preferred generalizing thread waiting entered fuel with
  | accept found =>
      subst stands
      have noted := behind.getD_eq_false (.accept found) size_eq (within thread List.mem_cons_self)
      obtain ⟨fuel, rfl⟩ : ∃ left, fuel = left + 1 :=
        ⟨fuel - 1, by rw [List.length_cons] at enough; omega⟩
      exact ⟨thread, _, run_of_accept noted found, rfl⟩
  | @step steps stop place next instruction inVain others found order fail further
      inductionHypothesis =>
      subst stands
      have way : Preferred program input (steps + 1) thread.place stop :=
        .step found order fail further
      have threadWithin : thread.place.position ≤ input.size := within thread List.mem_cons_self
      have noted := behind.getD_eq_false way size_eq threadWithin
      have fresh := getElem?_of_getD noted
      have fewer := count_setIfInBounds fresh
      have added := length_successors_le input thread instruction
      have notAccept : instruction ≠ .accept := by
        rintro rfl
        simp [nextPlaces, successors] at order
      -- the successors that fail, then the one on the way
      rw [← map_place_successors] at order
      obtain ⟨failing, rest, divided, rfl, places⟩ := List.map_eq_append_iff.mp order
      obtain ⟨successor, others, rfl, rfl, -⟩ := List.map_eq_cons_iff.mp places
      have allWithin := within.enter instruction
      rw [divided, List.append_assoc, List.cons_append] at allWithin
      obtain ⟨fuel, rfl⟩ : ∃ left, fuel = left + 1 :=
        ⟨fuel - 1, by rw [List.length_cons] at enough; omega⟩
      rw [run_of_instruction noted found notAccept, divided, List.append_assoc, List.cons_append]
      have newSize : (entered.setIfInBounds (thread.place.index input) true).size =
          program.size * (input.size + 1) := by rw [Array.size_setIfInBounds, size_eq]
      have stillEnough : (failing ++ successor :: (others ++ waiting)).length +
          2 * (entered.setIfInBounds (thread.place.index input) true).count false ≤ fuel := by
        rw [divided] at added
        simp only [List.length_append, List.length_cons] at added enough ⊢
        omega
      obtain ⟨left, after, goesOn, enoughLeft, passed⟩ := run_append_of_fails newSize
        (fun other member => allWithin other (List.mem_append_left _ member))
        (fun other member => fail _ (List.mem_map_of_mem member)) stillEnough
      rw [goesOn]
      exact inductionHypothesis rfl (passed.size_eq.trans newSize)
        (fun other member => allWithin other (List.mem_append_right _ member))
        ((behind.enter way threadWithin fresh).passed passed) enoughLeft

/-! ## Ways instruction by instruction -/

/-- From the place the preferred way accepts at `stop`. -/
def Prefers (program : Program) (input : Array Char) (place : Place) (stop : Nat) : Prop :=
  ∃ steps, Preferred program input steps place stop

section Instructions

variable {address position target preferred other : Nat} {set : CodePointSet}
variable {condition : Assertion}

theorem Prefers.of_oneOf {character : Char}
    (found : program[address]? = some (.oneOf set target))
    (read : input[position]? = some character) (inSet : set.containsChar character = true)
    (further : Prefers program input ⟨target, position + 1⟩ stop) :
    Prefers program input ⟨address, position⟩ stop := by
  obtain ⟨steps, further⟩ := further
  have order : nextPlaces input ⟨address, position⟩ (.oneOf set target) =
      [] ++ ⟨target, position + 1⟩ :: [] := by
    simp [nextPlaces, successors, read, inSet, Thread.place]
  exact ⟨steps + 1, .step found order (List.forall_mem_nil _) further⟩

theorem Prefers.of_assertion (found : program[address]? = some (.assertion condition target))
    (holds : condition.holds (before? input position) input[position]? = true)
    (further : Prefers program input ⟨target, position⟩ stop) :
    Prefers program input ⟨address, position⟩ stop := by
  obtain ⟨steps, further⟩ := further
  have order : nextPlaces input ⟨address, position⟩ (.assertion condition target) =
      [] ++ ⟨target, position⟩ :: [] := by
    rw [before?] at holds
    simp [nextPlaces, successors, holds, Thread.place]
  exact ⟨steps + 1, .step found order (List.forall_mem_nil _) further⟩

theorem Prefers.of_fork (found : program[address]? = some (.fork preferred other))
    (further : Prefers program input ⟨preferred, position⟩ stop) :
    Prefers program input ⟨address, position⟩ stop := by
  obtain ⟨steps, further⟩ := further
  have order : nextPlaces input ⟨address, position⟩ (.fork preferred other) =
      [] ++ ⟨preferred, position⟩ :: [⟨other, position⟩] := rfl
  exact ⟨steps + 1, .step found order (List.forall_mem_nil _) further⟩

theorem Prefers.of_fork_other (found : program[address]? = some (.fork preferred other))
    (fails : Fails program input ⟨preferred, position⟩)
    (further : Prefers program input ⟨other, position⟩ stop) :
    Prefers program input ⟨address, position⟩ stop := by
  obtain ⟨steps, further⟩ := further
  have order : nextPlaces input ⟨address, position⟩ (.fork preferred other) =
      [⟨preferred, position⟩] ++ ⟨other, position⟩ :: [] := rfl
  exact ⟨steps + 1, .step found order (List.forall_mem_singleton.mpr fails) further⟩

/-- A place fails if it does not accept itself and all places behind it fail. -/
theorem fails_of_nextPlaces (found : program[place.address]? = some instruction)
    (notAccept : instruction ≠ .accept)
    (fail : ∀ next ∈ nextPlaces input place instruction, Fails program input next) :
    Fails program input place := by
  rintro stop ⟨address, steps, accept⟩
  rcases steps.cases_head with rfl | ⟨next, first, others⟩
  · exact notAccept (Option.some.inj (found.symm.trans accept))
  · exact fail next ((step_iff_mem_nextPlaces found).mp first) stop ⟨address, others, accept⟩

theorem Fails.of_oneOf (found : program[address]? = some (.oneOf set target))
    (fail : ∀ character, input[position]? = some character → set.containsChar character = true →
      Fails program input ⟨target, position + 1⟩) :
    Fails program input ⟨address, position⟩ := by
  refine fails_of_nextPlaces found (by simp) ?_
  intro next member
  obtain ⟨character, read, inSet, rfl⟩ : ∃ character, input[position]? = some character ∧
      set.containsChar character = true ∧ (⟨target, position + 1⟩ : Place) = next := by
    simp only [nextPlaces, successors] at member
    grind [Thread.place]
  exact fail character read inSet

theorem Fails.of_assertion (found : program[address]? = some (.assertion condition target))
    (fail : condition.holds (before? input position) input[position]? = true →
      Fails program input ⟨target, position⟩) :
    Fails program input ⟨address, position⟩ := by
  refine fails_of_nextPlaces found (by simp) ?_
  intro next member
  obtain ⟨holds, rfl⟩ : condition.holds (before? input position) input[position]? = true ∧
      (⟨target, position⟩ : Place) = next := by
    simp only [nextPlaces, successors] at member
    grind [Thread.place, before?]
  exact fail holds

theorem Fails.of_fork (found : program[address]? = some (.fork preferred other))
    (preferredFails : Fails program input ⟨preferred, position⟩)
    (otherFails : Fails program input ⟨other, position⟩) :
    Fails program input ⟨address, position⟩ := by
  refine fails_of_nextPlaces found (by simp) ?_
  simp only [nextPlaces, successors, List.map_cons, List.map_nil, List.forall_mem_cons]
  exact ⟨preferredFails, otherFails, List.forall_mem_nil _⟩

end Instructions

/-! ## Searching -/

theorem run_nil : run program input fuel entered [] = (none, entered) := by
  cases fuel <;> rfl

section Scanning

variable {entry : Program.Entry} {position remaining start : Nat} {accepted : Thread}

theorem run_start_of_preferred
    (preferred : Preferred entry.program input steps ⟨entry.address, start⟩ stop)
    (size_eq : entered.size = entry.program.size * (input.size + 1))
    (inVain : ∀ place, Entered input entered place → Fails entry.program input place)
    (inside : start ≤ input.size) :
    ∃ accepted after, run entry.program input (2 * (entry.program.size * (input.size + 1)) + 2)
        entered [⟨entry.address, start, []⟩] = (some accepted, after) ∧
      accepted.position = stop := by
  have stands : Thread.place ⟨entry.address, start, []⟩ = ⟨entry.address, start⟩ := rfl
  exact run_of_preferred preferred stands size_eq (within_singleton inside)
    (fun place isEntered => .inl (inVain place isEntered)) (length_add_count_le _ size_eq)

theorem run_start_of_fails (fails : Fails entry.program input ⟨entry.address, start⟩)
    (size_eq : entered.size = entry.program.size * (input.size + 1))
    (inside : start ≤ input.size) :
    ∃ after, run entry.program input (2 * (entry.program.size * (input.size + 1)) + 2)
        entered [⟨entry.address, start, []⟩] = (none, after) ∧
      Passed entry.program input entered after := by
  have within : Within input [⟨entry.address, start, []⟩] := within_singleton inside
  obtain ⟨left, after, result, -, passed⟩ := run_append_of_fails size_eq within
    (List.forall_mem_singleton.mpr fails) (length_add_count_le _ size_eq)
  rw [List.append_nil, run_nil] at result
  exact ⟨after, result, passed⟩

theorem scan_of_run_some
    (result : run entry.program input (2 * (entry.program.size * (input.size + 1)) + 2) entered
      [⟨entry.address, position, []⟩] = (some accepted, after)) (remaining : Nat) :
    scan entry input remaining position entered = some (position, accepted) := by
  rw [scan]
  split
  case h_1 again => rw [Option.some.inj (Prod.mk.inj (again.symm.trans result)).1]
  case h_2 again => exact absurd (Prod.mk.inj (again.symm.trans result)).1 (by simp)

theorem scan_of_run_none
    (result : run entry.program input (2 * (entry.program.size * (input.size + 1)) + 2) entered
      [⟨entry.address, position, []⟩] = (none, after)) (remaining : Nat) :
    scan entry input (remaining + 1) position entered =
      scan entry input remaining (position + 1) after := by
  rw [scan]
  split
  case h_1 again => exact absurd (Prod.mk.inj (again.symm.trans result)).1 (by simp)
  case h_2 again => rw [(Prod.mk.inj (again.symm.trans result)).2]

/-- A scan passes the starts from which nothing is accepted. -/
theorem scan_of_preferred
    (preferred : Preferred entry.program input steps ⟨entry.address, start⟩ stop)
    (earlier : ∀ other < start, Fails entry.program input ⟨entry.address, other⟩)
    (size_eq : entered.size = entry.program.size * (input.size + 1))
    (inVain : ∀ place, Entered input entered place → Fails entry.program input place)
    (inside : position + remaining ≤ input.size)
    (least : position ≤ start) (most : start ≤ position + remaining) :
    ∃ accepted, scan entry input remaining position entered = some (start, accepted) ∧
      accepted.position = stop := by
  induction remaining generalizing position entered with
  | zero =>
      obtain rfl : start = position := by omega
      obtain ⟨accepted, after, result, stops⟩ :=
        run_start_of_preferred preferred size_eq inVain inside
      exact ⟨accepted, scan_of_run_some result 0, stops⟩
  | succ remaining inductionHypothesis =>
      have here : position ≤ input.size := Nat.le_of_add_right_le inside
      rcases Nat.eq_or_lt_of_le least with rfl | later
      · obtain ⟨accepted, after, result, stops⟩ :=
          run_start_of_preferred preferred size_eq inVain here
        exact ⟨accepted, scan_of_run_some result _, stops⟩
      · obtain ⟨after, result, passed⟩ := run_start_of_fails (earlier position later) size_eq here
        obtain ⟨accepted, scanned, stops⟩ := inductionHypothesis (passed.size_eq.trans size_eq)
          (fun place isEntered => (passed.fails place isEntered).elim (inVain place) id)
          (by omega) later (by omega)
        exact ⟨accepted, (scan_of_run_none result remaining).trans scanned, stops⟩

end Scanning

end Search

/-- The search finds the preferred way from the first start that has one. -/
theorem find?_of_prefers {regex : Regex} {text : Text} {start stop : Nat}
    (inside : start ≤ text.length)
    (earlier : ∀ other < start,
      Search.Fails regex.entry.program text.toArray ⟨regex.entry.address, other⟩)
    (prefers : Search.Prefers regex.entry.program text.toArray
      ⟨regex.entry.address, start⟩ stop) :
    ∃ found, regex.find? text = some found ∧ found.start = start ∧ found.stop = stop := by
  obtain ⟨steps, preferred⟩ := prefers
  -- at first no place has been entered
  have size_eq : (Array.replicate (regex.entry.program.size * (text.toArray.size + 1)) false).size =
      regex.entry.program.size * (text.toArray.size + 1) := Array.size_replicate
  have whole : 0 + text.toArray.size ≤ text.toArray.size := by omega
  obtain ⟨accepted, scanned, stops⟩ := Search.scan_of_preferred preferred earlier size_eq
    (by
      rintro place ⟨-, noted⟩
      simp [Array.getElem?_replicate] at noted)
    whole (Nat.zero_le start) (by simpa using inside)
  unfold Regex.find? Search.find?
  exact ⟨_, Option.map_eq_some_iff.mpr ⟨_, scanned, rfl⟩, rfl, stops⟩

/-- Nothing is found where every start fails. -/
theorem find?_eq_none_of_fails {regex : Regex} {text : Text}
    (fails : ∀ start ≤ text.length,
      Search.Fails regex.entry.program text.toArray ⟨regex.entry.address, start⟩) :
    regex.find? text = none := by
  rw [← Option.not_isSome_iff_eq_none, find?_isSome_iff]
  rintro ⟨start, stop, inside, accepts⟩
  exact fails start inside stop accepts

end BnfParsing.Regex

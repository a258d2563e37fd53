import BnfParsing.Proofs.Regex.Steps

/-!
Contract: a search that returns nothing has tried every way there is.

The places entered so far, together with those of the waiting threads, are closed
under steps, and none of the former accepts. A search that has no thread left has
therefore entered whatever can be reached from where it started, in vain.

Owns:
- the places that a search has entered, and how many it has not;
- the invariant of a run, and the places from which nothing can be accepted;
- the equivalence of a found match and a way through the program.

Does not own: which of several ways a search prefers.
-/

set_option autoImplicit false

namespace BnfParsing.Regex.Search

variable {program : Program} {input : Array Char} {place other : Place} {stop : Nat}
variable {entered after : Array Bool} {thread : Thread} {threads waiting : List Thread}

/-! ## Entered places -/

/-- Within the text each place has an index of its own. -/
theorem Place.eq_of_index_eq (within : place.position ≤ input.size)
    (otherWithin : other.position ≤ input.size)
    (same : place.index input = other.index input) : place = other := by
  have positive : 0 < input.size + 1 := Nat.succ_pos _
  have quotient (place : Place) (within : place.position ≤ input.size) :
      place.index input / (input.size + 1) = place.address := by
    rw [index, Nat.mul_comm, Nat.mul_add_div positive, Nat.div_eq_of_lt (by omega), Nat.add_zero]
  have sameAddress : place.address = other.address := by
    rw [← quotient place within, ← quotient other otherWithin, same]
  have samePosition : place.position = other.position := by
    rw [index, index, sameAddress] at same
    omega
  cases place
  cases other
  simp only at sameAddress samePosition
  rw [sameAddress, samePosition]

theorem Place.index_lt (instruction : place.address < program.size)
    (within : place.position ≤ input.size) :
    place.index input < program.size * (input.size + 1) := by
  calc place.index input
    _ < (place.address + 1) * (input.size + 1) := by
        rw [index, Nat.succ_mul]
        omega
    _ ≤ program.size * (input.size + 1) := Nat.mul_le_mul_right _ instruction

/-- The place is noted as entered. -/
def Entered (input : Array Char) (entered : Array Bool) (place : Place) : Prop :=
  place.position ≤ input.size ∧ entered[place.index input]? = some true

theorem entered_of_getD (size_eq : entered.size = program.size * (input.size + 1))
    (instruction : place.address < program.size) (within : place.position ≤ input.size)
    (noted : entered.getD (place.index input) true = true) : Entered input entered place := by
  have inRange : place.index input < entered.size := size_eq ▸ Place.index_lt instruction within
  refine ⟨within, ?_⟩
  rw [Array.getD_eq_getD_getElem?, Array.getElem?_eq_getElem inRange, Option.getD_some] at noted
  rw [Array.getElem?_eq_getElem inRange, noted]

/-- What is noted as not yet entered lies in the range of the notes. -/
theorem getElem?_of_getD {index : Nat} (noted : entered.getD index true = false) :
    entered[index]? = some false := by
  rw [Array.getD_eq_getD_getElem?] at noted
  cases read : entered[index]? with
  | none => simp [read] at noted
  | some value => simpa [read] using noted

/-- An index in the range of the notes belongs to an instruction. -/
theorem address_lt_of_getElem? {noted : Bool}
    (size_eq : entered.size = program.size * (input.size + 1))
    (found : entered[place.index input]? = some noted) : place.address < program.size := by
  have inRange := (Array.getElem?_eq_some_iff.mp found).1
  rw [size_eq, Place.index] at inRange
  exact Nat.lt_of_mul_lt_mul_right (Nat.lt_of_le_of_lt (Nat.le_add_right _ _) inRange)

theorem entered_setIfInBounds_iff (within : place.position ≤ input.size)
    (fresh : entered[place.index input]? = some false) :
    Entered input (entered.setIfInBounds (place.index input) true) other ↔
      other = place ∨ Entered input entered other := by
  have inRange : place.index input < entered.size := (Array.getElem?_eq_some_iff.mp fresh).1
  unfold Entered
  rw [Array.getElem?_setIfInBounds]
  constructor
  · rintro ⟨otherWithin, noted⟩
    split at noted
    case isTrue same => exact .inl (Place.eq_of_index_eq within otherWithin same).symm
    case isFalse => exact .inr ⟨otherWithin, noted⟩
  · rintro (rfl | ⟨otherWithin, noted⟩)
    · simp [within, inRange]
    · have different : place.index input ≠ other.index input := by
        intro same
        rw [same, noted] at fresh
        contradiction
      rw [if_neg different]
      exact ⟨otherWithin, noted⟩

/-- Each place that is entered leaves one less to enter. -/
theorem count_setIfInBounds {index : Nat} (fresh : entered[index]? = some false) :
    (entered.setIfInBounds index true).count false + 1 = entered.count false := by
  obtain ⟨inRange, value⟩ := Array.getElem?_eq_some_iff.mp fresh
  have positive : 0 < entered.count false :=
    Array.count_pos_iff.mpr (value ▸ Array.getElem_mem inRange)
  have different : (true == false) = false := rfl
  rw [Array.setIfInBounds, dif_pos inRange, Array.count_set inRange, value, different,
    if_pos (beq_self_eq_true false)]
  simp only [Bool.false_eq_true, if_false]
  omega

/-! ## The invariant of a run -/

/-- The places entered so far lead to entered ones and to waiting threads only, and
none of them accepts. -/
structure Explored (program : Program) (input : Array Char) (entered : Array Bool)
    (waiting : List Thread) : Prop where
  size_eq : entered.size = program.size * (input.size + 1)
  closed : ∀ {place next : Place}, Entered input entered place → Step program input place next →
    next.address < program.size →
    Entered input entered next ∨ ∃ thread ∈ waiting, thread.place = next
  not_accept : ∀ {place : Place}, Entered input entered place →
    program[place.address]? ≠ some .accept

theorem Explored.of_subset (explored : Explored program input entered threads)
    (subset : threads ⊆ waiting) : Explored program input entered waiting where
  size_eq := explored.size_eq
  closed isEntered step instruction :=
    (explored.closed isEntered step instruction).imp_right
      fun ⟨thread, member, same⟩ => ⟨thread, subset member, same⟩
  not_accept := explored.not_accept

/-- A thread at an entered place need not be followed again. -/
theorem Explored.skip (explored : Explored program input entered (thread :: waiting))
    (within : thread.place.position ≤ input.size)
    (again : entered.getD (thread.place.index input) true = true) :
    Explored program input entered waiting where
  size_eq := explored.size_eq
  closed isEntered step instruction := by
    rcases explored.closed isEntered step instruction with known | ⟨other, member, rfl⟩
    · exact .inl known
    · rcases List.mem_cons.mp member with rfl | inWaiting
      · exact .inl (entered_of_getD explored.size_eq instruction within again)
      · exact .inr ⟨other, inWaiting, rfl⟩
  not_accept := explored.not_accept

/-- A thread at a new place is replaced by its successors. -/
theorem Explored.enter {instruction : Instruction}
    (explored : Explored program input entered (thread :: waiting))
    (within : thread.place.position ≤ input.size)
    (fresh : entered[thread.place.index input]? = some false)
    (found : program[thread.address]? = some instruction) (notAccept : instruction ≠ .accept) :
    Explored program input (entered.setIfInBounds (thread.place.index input) true)
      (successors input thread instruction ++ waiting) where
  size_eq := by rw [Array.size_setIfInBounds, explored.size_eq]
  closed := by
    intro place next isEntered step address_lt
    rw [entered_setIfInBounds_iff within fresh]
    rcases (entered_setIfInBounds_iff within fresh).mp isEntered with rfl | known
    · obtain ⟨successor, member, same⟩ := (step_iff_mem_successors found).mp step
      exact .inr ⟨successor, List.mem_append_left waiting member, same⟩
    · rcases explored.closed known step address_lt with nextKnown | ⟨other, member, rfl⟩
      · exact .inl (.inr nextKnown)
      · rcases List.mem_cons.mp member with rfl | inWaiting
        · exact .inl (.inl rfl)
        · exact .inr ⟨other, List.mem_append_right _ inWaiting, rfl⟩
  not_accept := by
    intro place isEntered
    rcases (entered_setIfInBounds_iff within fresh).mp isEntered with rfl | known
    · intro accept
      exact notAccept (Option.some.inj (found.symm.trans accept))
    · exact explored.not_accept known

/-- From an entered place nothing is accepted once no thread is left. -/
theorem Explored.not_accepts (explored : Explored program input entered [])
    (isEntered : Entered input entered place) : ¬ Accepts program input place stop := by
  rintro ⟨address, steps, accept⟩
  induction steps using Relation.ReflTransGen.head_induction_on with
  | refl => exact explored.not_accept isEntered accept
  | head step steps inductionHypothesis =>
      rcases explored.closed isEntered step (Accepts.address_lt ⟨address, steps, accept⟩)
        with known | ⟨thread, member, _⟩
      · exact inductionHypothesis known
      · simp at member

/-- What a run in vain leaves behind. -/
structure Exhausted (program : Program) (input : Array Char) (entered after : Array Bool)
    (threads : List Thread) : Prop where
  explored : Explored program input after []
  kept : ∀ {place : Place}, Entered input entered place → Entered input after place
  followed : ∀ thread ∈ threads, thread.address < program.size →
    Entered input after thread.place

theorem Exhausted.not_accepts (exhausted : Exhausted program input entered after threads)
    (member : thread ∈ threads) : ¬ Accepts program input thread.place stop :=
  fun accepts => exhausted.explored.not_accepts
    (exhausted.followed thread member accepts.address_lt) accepts

theorem length_successors_le (input : Array Char) (thread : Thread) (instruction : Instruction) :
    (successors input thread instruction).length ≤ 2 := by
  cases instruction with
  | oneOf set next =>
      simp only [successors]
      split
      · split <;> simp
      · simp
  | assertion condition next =>
      simp only [successors]
      generalize Assertion.holds _ _ condition = holds
      cases holds <;> simp
  | fork preferred other => simp [successors]
  | mark slot next => simp [successors]
  | accept => simp [successors]

/-- A run that returns nothing has followed all its threads to the end. Each step
either drops a thread or enters a place and adds at most one thread, so the fuel
lasts. -/
theorem exhausted_of_run {fuel : Nat} (explored : Explored program input entered threads)
    (within : Within input threads) (enough : threads.length + 2 * entered.count false ≤ fuel)
    (result : run program input fuel entered threads = (none, after)) :
    Exhausted program input entered after threads := by
  induction fuel generalizing entered threads with
  | zero =>
      obtain rfl : threads = [] := List.eq_nil_of_length_eq_zero (by omega)
      obtain rfl : entered = after := (Prod.mk.inj result).2
      exact ⟨explored, id, by simp⟩
  | succ fuel inductionHypothesis =>
      cases threads with
      | nil =>
          obtain rfl : entered = after := (Prod.mk.inj result).2
          exact ⟨explored, id, by simp⟩
      | cons thread waiting =>
          have threadWithin : thread.place.position ≤ input.size :=
            within thread List.mem_cons_self
          rw [List.length_cons] at enough
          cases noted : entered.getD (thread.place.index input) true with
          | true =>
              rw [run_of_entered noted] at result
              have others := inductionHypothesis (explored.skip threadWithin noted) within.tail
                (by omega) result
              refine ⟨others.explored, others.kept, ?_⟩
              rw [List.forall_mem_cons]
              exact ⟨fun instruction => others.kept
                (entered_of_getD explored.size_eq instruction threadWithin noted),
                others.followed⟩
          | false =>
              have fresh := getElem?_of_getD noted
              have fewer := count_setIfInBounds fresh
              have instructionFound : thread.address < program.size :=
                address_lt_of_getElem? explored.size_eq fresh
              have found := Array.getElem?_eq_getElem instructionFound
              by_cases isAccept : program[thread.address] = .accept
              · rw [run_of_accept noted (by rw [found, isAccept])] at result
                simp at result
              · rw [run_of_instruction noted found isAccept] at result
                have added := length_successors_le input thread program[thread.address]
                have enoughLeft : (successors input thread program[thread.address] ++
                    waiting).length + 2 * (entered.setIfInBounds (thread.place.index input)
                      true).count false ≤ fuel := by
                  rw [List.length_append]
                  omega
                have others := inductionHypothesis
                  (explored.enter threadWithin fresh found isAccept) (within.enter _) enoughLeft
                  result
                have enteredNow {place : Place} :
                    Entered input (entered.setIfInBounds (thread.place.index input) true) place ↔
                      place = thread.place ∨ Entered input entered place :=
                  entered_setIfInBounds_iff threadWithin fresh
                refine ⟨others.explored, fun known => others.kept (enteredNow.mpr (.inr known)), ?_⟩
                rw [List.forall_mem_cons]
                exact ⟨fun _ => others.kept (enteredNow.mpr (.inl rfl)),
                  fun other member =>
                    others.followed other (List.mem_append_right _ member)⟩

/-! ## Searching -/

theorem within_singleton (inside : thread.position ≤ input.size) : Within input [thread] := by
  intro first member
  obtain rfl := List.mem_singleton.mp member
  exact inside

/-- The fuel of a scan lasts for a run from any start. -/
theorem length_add_count_le (thread : Thread)
    (size_eq : entered.size = program.size * (input.size + 1)) :
    [thread].length + 2 * entered.count false ≤ 2 * (program.size * (input.size + 1)) + 2 := by
  have bound : entered.count false ≤ entered.size := Array.count_le_size
  rw [size_eq] at bound
  simp only [List.length_singleton]
  omega

theorem exhausted_of_start {entry : Program.Entry} {position : Nat}
    (explored : Explored entry.program input entered []) (inside : position ≤ input.size)
    (result : run entry.program input (2 * (entry.program.size * (input.size + 1)) + 2) entered
      [⟨entry.address, position, []⟩] = (none, after)) :
    Exhausted entry.program input entered after [⟨entry.address, position, []⟩] :=
  exhausted_of_run (explored.of_subset (List.nil_subset _)) (within_singleton inside)
    (length_add_count_le _ explored.size_eq) result

/-- A scan in vain rules out every start that it has tried. -/
theorem not_accepts_of_scan {entry : Program.Entry} {remaining position : Nat}
    (explored : Explored entry.program input entered [])
    (inside : position + remaining ≤ input.size)
    (nothing : scan entry input remaining position entered = none) {start : Nat}
    (least : position ≤ start) (most : start ≤ position + remaining) :
    ¬ Accepts entry.program input ⟨entry.address, start⟩ stop := by
  induction remaining generalizing position entered with
  | zero =>
      rw [scan] at nothing
      split at nothing
      case h_1 => simp at nothing
      case h_2 after result =>
        obtain rfl : start = position := by omega
        exact (exhausted_of_start explored inside result).not_accepts (List.mem_singleton_self _)
  | succ remaining inductionHypothesis =>
      rw [scan] at nothing
      split at nothing
      case h_1 => simp at nothing
      case h_2 after result =>
        have exhausted := exhausted_of_start explored (Nat.le_of_add_right_le inside) result
        rcases Nat.eq_or_lt_of_le least with rfl | later
        · exact exhausted.not_accepts (List.mem_singleton_self _)
        · exact inductionHypothesis exhausted.explored (by omega) nothing later (by omega)

end Search

/-- A match is found exactly if there is a way through the program. -/
theorem find?_isSome_iff {regex : Regex} {text : Text} :
    (regex.find? text).isSome ↔ ∃ start stop, regex.Matches text start stop := by
  constructor
  · intro isSome
    obtain ⟨found, isMatch⟩ := Option.isSome_iff_exists.mp isSome
    exact ⟨found.start, found.stop, matches_of_find? isMatch⟩
  · rintro ⟨start, stop, inside, accepts⟩
    rw [← Option.ne_none_iff_isSome]
    intro nothing
    unfold Regex.find? Search.find? at nothing
    rw [Option.map_eq_none_iff] at nothing
    refine Search.not_accepts_of_scan ?_ (by simp) nothing (Nat.zero_le start) (by simpa) accepts
    -- at first no place has been entered
    constructor
    · exact Array.size_replicate
    · rintro place next ⟨-, noted⟩
      simp [Array.getElem?_replicate] at noted
    · rintro place ⟨-, noted⟩
      simp [Array.getElem?_replicate] at noted

end BnfParsing.Regex

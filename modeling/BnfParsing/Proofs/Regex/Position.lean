import BnfParsing.Regex.Basic

/-!
Contract: the positions that a search visits lie within the text.

Owns: the invariant that every thread of a run stands at most at the end of the
text, and from it the bound on the end of a match.

Does not own: which texts an expression matches.
-/

set_option autoImplicit false

namespace BnfParsing.Regex.Search

/-- Every thread stands within the text or at its end. -/
def Within (input : Array Char) (threads : List Thread) : Prop :=
  ∀ thread ∈ threads, thread.position ≤ input.size

theorem Within.successors {input : Array Char} {thread : Thread}
    (within : thread.position ≤ input.size) (instruction : Instruction) :
    Within input (Search.successors input thread instruction) := by
  intro successor member
  cases instruction with
  | oneOf set next =>
      simp only [Search.successors] at member
      split at member
      case h_1 character read =>
        -- a character is consumed only where there is one, so not at the end
        have inside : thread.position < input.size :=
          (Array.getElem?_eq_some_iff.mp read).1
        split at member
        · simp only [List.mem_singleton] at member
          subst member
          exact inside
        · simp at member
      case h_2 => simp at member
  | assertion condition next =>
      simp only [Search.successors, List.mem_ite_nil_right, List.mem_singleton] at member
      rw [member.2]
      exact within
  | fork preferred other =>
      simp only [Search.successors, List.mem_cons, List.not_mem_nil, or_false] at member
      rcases member with rfl | rfl
      · exact within
      · exact within
  | mark slot next =>
      simp only [Search.successors, List.mem_singleton] at member
      subst member
      exact within
  | accept => simp [Search.successors] at member

theorem Within.tail {input : Array Char} {thread : Thread} {waiting : List Thread}
    (within : Within input (thread :: waiting)) : Within input waiting :=
  fun other member => within other (List.mem_cons_of_mem thread member)

/-- The successors of a thread take its place among those that wait. -/
theorem Within.enter {input : Array Char} {thread : Thread} {waiting : List Thread}
    (within : Within input (thread :: waiting)) (instruction : Instruction) :
    Within input (Search.successors input thread instruction ++ waiting) := by
  intro other member
  rcases List.mem_append.mp member with new | old
  · exact Within.successors (within thread List.mem_cons_self) instruction other new
  · exact within.tail other old

/-- A run that starts within the text accepts within it. -/
theorem run_position_le {program : Program} {input : Array Char} (fuel : Nat)
    {entered after : Array Bool} {threads : List Thread} {accepted : Thread}
    (within : Within input threads)
    (accepts : run program input fuel entered threads = (some accepted, after)) :
    accepted.position ≤ input.size := by
  induction fuel generalizing entered threads with
  | zero => simp [run] at accepts
  | succ fuel inductionHypothesis =>
      cases threads with
      | nil => simp [run] at accepts
      | cons thread waiting =>
          simp only [run] at accepts
          split at accepts
          · exact inductionHypothesis within.tail accepts
          · split at accepts
            · exact inductionHypothesis within.tail accepts
            · simp only [Prod.mk.injEq, Option.some.injEq] at accepts
              rw [← accepts.1]
              exact within thread List.mem_cons_self
            · exact inductionHypothesis (within.enter _) accepts

theorem scan_position_le {entry : Program.Entry} {input : Array Char}
    (remaining : Nat) {position start : Nat} {entered : Array Bool} {accepted : Thread}
    (inside : position + remaining ≤ input.size)
    (found : scan entry input remaining position entered = some (start, accepted)) :
    accepted.position ≤ input.size := by
  induction remaining generalizing position entered with
  | zero =>
      rw [scan] at found
      split at found
      case h_1 thread after accepts =>
        simp only [Option.some.injEq, Prod.mk.injEq] at found
        rw [← found.2]
        refine run_position_le _ ?_ accepts
        intro first member
        simp only [List.mem_singleton] at member
        subst member
        exact inside
      case h_2 => simp at found
  | succ remaining inductionHypothesis =>
      rw [scan] at found
      split at found
      case h_1 thread after accepts =>
        simp only [Option.some.injEq, Prod.mk.injEq] at found
        rw [← found.2]
        refine run_position_le _ ?_ accepts
        intro first member
        simp only [List.mem_singleton] at member
        subst member
        exact Nat.le_of_add_right_le inside
      case h_2 => exact inductionHypothesis (by omega) found

end Search

/-- A match ends within the text. -/
theorem stop_le_length {regex : Regex} {text : Text} {found : Regex.Match}
    (isMatch : regex.find? text = some found) :
    found.stop ≤ text.length := by
  unfold Regex.find? Search.find? at isMatch
  simp only [Option.map_eq_some_iff] at isMatch
  obtain ⟨⟨start, thread⟩, scanned, rfl⟩ := isMatch
  have bound := Search.scan_position_le text.toArray.size (by simp) scanned
  simpa using bound

end BnfParsing.Regex

import BnfParsing.Derivation.Trace
import BnfParsing.Proofs.Traversal

/-!
Contract: what is noted between an attempt at an alternative and its end.

An attempt is over with the next attempt of the same call, or with the call. A call that
settles for an alternative ends without a note of its own; what shows it is the next note
of the calls around it, or the next call at the same depth. Until then everything is
nested more deeply, except for the reason why the alternative is rejected.

Owns:
- the call that an attempt is made in, and the reasons noted until the attempt is over;
- what holds of each attempt with the notes before and after it.

Does not own: which notes a search takes.
-/

set_option autoImplicit false

namespace BnfParsing

namespace Event

/-- The alternative that the event gives the reason to reject. -/
def rejected? : Event → Option Alternative
  | .leftOver _ _ alternative => some alternative
  | .nestedFailure _ _ alternative => some alternative
  | .mismatch _ _ alternative => some alternative
  | .considering _ _ _ | .attempting _ _ | .noAlternative _ _ | .nothingConsumed _ _ => none

/-- Whether an attempt at a depth is over where the event happens: outside the call, or
in a call at that depth where a rule is considered, attempts or fails. -/
def endsAttempt (depth : Nat) (event : Event) : Bool :=
  event.depth < depth || (event.depth == depth && event.rejected?.isNone)

/-- The text and the rule of a call at a depth, if the event is its start. -/
def startsCall? (depth : Nat) : Event → Option (Text × Rule)
  | .considering found text rule => if found = depth then some (text, rule) else none
  | _ => none

variable {depth deeper : Nat} {event : Event}

theorem endsAttempt_mono (deep : depth ≤ deeper) (ends : event.endsAttempt depth) :
    event.endsAttempt deeper := by
  simp only [endsAttempt, Bool.or_eq_true, decide_eq_true_eq, Bool.and_eq_true,
    beq_iff_eq] at ends ⊢
  rcases ends with outside | ⟨here, noReason⟩
  · exact .inl (by omega)
  · rcases Nat.eq_or_lt_of_le deep with rfl | below
    · exact .inr ⟨here, noReason⟩
    · exact .inl (by omega)

theorem not_endsAttempt_of_deeper (deep : depth < event.depth) :
    event.endsAttempt depth = false := by
  have above : ¬ event.depth < depth := by omega
  have elsewhere : event.depth ≠ depth := by omega
  simp [endsAttempt, above, elsewhere]

theorem startsCall?_of_ne (elsewhere : event.depth ≠ depth) :
    event.startsCall? depth = none := by
  cases event with
  | considering found text rule => exact if_neg elsewhere
  | _ => rfl

theorem startsCall?_of_rejected (isReason : event.rejected?.isSome) :
    event.startsCall? depth = none := by
  cases event with
  | considering found text rule => simp [rejected?] at isReason
  | _ => rfl

end Event

/-- The text and the rule of the last call at a depth. -/
def callAt? (depth : Nat) (events : List Event) : Option (Text × Rule) :=
  events.reverse.findSome? (Event.startsCall? depth)

/-- What is noted until an attempt at a depth is over. -/
def untilOver (depth : Nat) (events : List Event) : List Event :=
  events.takeWhile fun event => !event.endsAttempt depth

/-- What is noted at the depth of an attempt until it is over. -/
def reasonsFor (depth : Nat) (events : List Event) : List Event :=
  (untilOver depth events).filter fun event => event.depth = depth

section Notes

variable {depth : Nat} {earlier later rest : List Event} {call : Text × Rule}

theorem callAt?_append (depth : Nat) (earlier later : List Event) :
    callAt? depth (earlier ++ later) = (callAt? depth later).or (callAt? depth earlier) := by
  rw [callAt?, List.reverse_append, List.findSome?_append]
  rfl

theorem callAt?_behind (found : callAt? depth later = some call) (earlier : List Event) :
    callAt? depth (earlier ++ later) = some call := by
  rw [callAt?_append, found, Option.some_or]

theorem callAt?_append_of_none (found : callAt? depth earlier = some call)
    (none : ∀ event ∈ later, event.startsCall? depth = none) :
    callAt? depth (earlier ++ later) = some call := by
  have noCall : callAt? depth later = Option.none := by
    rw [callAt?, List.findSome?_eq_none_iff]
    exact fun event member => none event (List.mem_reverse.mp member)
  rw [callAt?_append, noCall, Option.none_or, found]

/-- Nested calls and one reason are what is noted on an attempt. -/
theorem reasonsFor_append {inner closing : List Event}
    (innerDeeper : ∀ event ∈ inner, depth < event.depth)
    (closingHere : ∀ event ∈ closing, event.depth = depth ∧ event.rejected?.isSome)
    (ends : ∀ next ∈ rest.head?, next.endsAttempt depth) :
    reasonsFor depth (inner ++ closing ++ rest) = closing := by
  have goesOn : ∀ event ∈ inner ++ closing, (!event.endsAttempt depth) = true := by
    intro event member
    rcases List.mem_append.mp member with inInner | inClosing
    · rw [Event.not_endsAttempt_of_deeper (innerDeeper event inInner), Bool.not_false]
    · obtain ⟨here, isReason⟩ := closingHere event inClosing
      simp [Event.endsAttempt, here, isReason]
  have stops : untilOver depth rest = [] := by
    cases rest with
    | nil => rfl
    | cons next others =>
        have nextEnds := ends next rfl
        exact List.takeWhile_cons_of_neg (by simp [nextEnds])
  have noneInside : inner.filter (fun event => event.depth = depth) = [] := by
    rw [List.filter_eq_nil_iff]
    intro event member
    have deeper := innerDeeper event member
    simp only [decide_eq_true_eq]
    omega
  have allClosing : closing.filter (fun event => event.depth = depth) = closing := by
    rw [List.filter_eq_self]
    exact fun event member => decide_eq_true (closingHere event member).1
  rw [reasonsFor, untilOver, List.takeWhile_append_of_pos goesOn, ← untilOver, stops,
    List.append_nil, List.filter_append, noneInside, allClosing, List.nil_append]

end Notes

/-- Something holds of each attempt that is noted, with what is noted before and after. -/
def AroundAttempts (holds : List Event → Nat → Alternative → List Event → Prop)
    (events : List Event) : Prop :=
  ∀ before depth alternative after,
    events = before ++ .attempting depth alternative :: after →
      holds before depth alternative after

namespace AroundAttempts

variable {holds other : List Event → Nat → Alternative → List Event → Prop}
variable {first second events : List Event}

theorem imp (around : AroundAttempts holds events)
    (implies : ∀ before depth alternative after,
      holds before depth alternative after → other before depth alternative after) :
    AroundAttempts other events :=
  fun before depth alternative after split =>
    implies before depth alternative after (around before depth alternative after split)

theorem append
    (inFirst : AroundAttempts
      (fun before depth alternative after => holds before depth alternative (after ++ second)) first)
    (inSecond : AroundAttempts (fun before => holds (first ++ before)) second) :
    AroundAttempts holds (first ++ second) := by
  intro before depth alternative after split
  rcases sides_of_append_eq split with ⟨rest, inside, rfl⟩ | ⟨start, rfl, inside⟩
  · exact inFirst before depth alternative rest inside
  · exact inSecond start depth alternative after inside

theorem single {depth : Nat} {alternative : Alternative}
    (here : holds [] depth alternative []) :
    AroundAttempts holds [.attempting depth alternative] := by
  intro before otherDepth otherAlternative after split
  cases before with
  | nil =>
      cases split
      exact here
  | cons event before => simp at split

theorem of_none (none : ∀ depth alternative, Event.attempting depth alternative ∉ events) :
    AroundAttempts holds events := by
  rintro before depth alternative after rfl
  exact absurd (List.mem_append_right before List.mem_cons_self) (none depth alternative)

end AroundAttempts

end BnfParsing

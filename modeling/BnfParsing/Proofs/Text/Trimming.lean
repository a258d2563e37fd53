import BnfParsing.Proofs.Text.Spacing
import Mathlib.Data.List.DropRight

/-!
Contract: what trimming takes away, and which texts it leaves as they are.

Owns: blanks in front of a text and behind it, and the texts without any.

Does not own: blanks inside a text.
-/

set_option autoImplicit false

namespace BnfParsing.Text

variable {blanks text : Text}

/-- Blanks in front make no difference once they are skipped. -/
theorem trimStart_blanks_append (allBlank : isAllBlank blanks) (text : Text) :
    trimStart (blanks ++ text) = trimStart text :=
  List.dropWhile_append_of_pos (List.all_eq_true.mp allBlank)

theorem trimStart_eq_nil (allBlank : isAllBlank text) : trimStart text = [] :=
  List.dropWhile_eq_nil_iff.mpr (List.all_eq_true.mp allBlank)

theorem trimStart_trimStart (text : Text) : trimStart (trimStart text) = trimStart text :=
  List.dropWhile_idempotent isBlank text

theorem trimStart_suffix (text : Text) : trimStart text <:+ text :=
  List.dropWhile_suffix isBlank

/-- Trimming at the end is dropping from the right. -/
theorem trimEnd_eq_rdropWhile (text : Text) : trimEnd text = text.rdropWhile isBlank := by
  induction text with
  | nil => rfl
  | cons character rest inductionHypothesis =>
      rw [trimEnd, inductionHypothesis, List.rdropWhile, List.rdropWhile, List.reverse_cons,
        List.dropWhile_append]
      cases kept : rest.reverse.dropWhile isBlank with
      | nil =>
          cases blank : isBlank character <;> simp [blank]
      | cons last others => simp

theorem trimEnd_prefix (text : Text) : trimEnd text <+: text := by
  rw [trimEnd_eq_rdropWhile]
  exact List.rdropWhile_prefix isBlank text

theorem trimEnd_append_blanks (allBlank : isAllBlank blanks) (text : Text) :
    trimEnd (text ++ blanks) = trimEnd text := by
  have reversedBlank : ∀ character ∈ blanks.reverse, isBlank character := by
    simpa [isAllBlank] using allBlank
  rw [trimEnd_eq_rdropWhile, trimEnd_eq_rdropWhile, List.rdropWhile, List.reverse_append,
    List.dropWhile_append_of_pos reversedBlank, ← List.rdropWhile]

/-- Trimming at the end takes away nothing but blanks. -/
theorem exists_trimEnd_append_blanks (text : Text) :
    ∃ blanks, isAllBlank blanks ∧ text = trimEnd text ++ blanks := by
  refine ⟨text.rtakeWhile isBlank, ?_, ?_⟩
  · simp [isAllBlank, List.rtakeWhile, List.all_takeWhile]
  · rw [trimEnd_eq_rdropWhile, List.rdropWhile, List.rtakeWhile, ← List.reverse_append,
      List.takeWhile_append_dropWhile, List.reverse_reverse]

/-- A text is its trimmed form with blanks on both sides. -/
theorem exists_blanks_trim_blanks (text : Text) :
    ∃ front back, isAllBlank front ∧ isAllBlank back ∧ text = front ++ trim text ++ back := by
  obtain ⟨front, frontBlank, startSplit⟩ := exists_blanks_append_trimStart text
  obtain ⟨back, backBlank, endSplit⟩ := exists_trimEnd_append_blanks (trimStart text)
  refine ⟨front, back, frontBlank, backBlank, ?_⟩
  rw [trim, List.append_assoc, ← endSplit]
  exact startSplit

theorem trim_infix (text : Text) : trim text <:+: text := by
  obtain ⟨front, back, -, -, split⟩ := exists_blanks_trim_blanks text
  exact ⟨front, back, split.symm⟩

/-- Blanks on either side make no difference once a text is trimmed. -/
theorem trim_blanks_append_blanks {front back : Text} (frontBlank : isAllBlank front)
    (backBlank : isAllBlank back) (text : Text) : trim (front ++ text ++ back) = trim text := by
  rw [trim, trim, List.append_assoc, trimStart_blanks_append frontBlank, trimStart, trimStart,
    List.dropWhile_append]
  split
  next onlyBlanks =>
    rw [List.isEmpty_iff] at onlyBlanks
    rw [onlyBlanks, List.dropWhile_eq_nil_iff.mpr (List.all_eq_true.mp backBlank)]
  next => exact trimEnd_append_blanks backBlank _

/-- A text without blanks at its ends. -/
structure Trimmed (text : Text) : Prop where
  head_not_blank : ∀ first, text.head? = some first → isBlank first = false
  getLast_not_blank : ∀ last, text.getLast? = some last → isBlank last = false

theorem trim_eq_self (trimmed : Trimmed text) : trim text = text := by
  have startKept : trimStart text = text := by
    cases text with
    | nil => rfl
    | cons first rest =>
        rw [trimStart, List.dropWhile_cons_of_neg]
        simp [trimmed.head_not_blank first rfl]
  rw [trim, startKept, trimEnd_eq_rdropWhile, List.rdropWhile_eq_self_iff]
  intro nonempty
  simp [trimmed.getLast_not_blank _ (List.getLast?_eq_some_getLast nonempty)]

theorem trimmed_trim (text : Text) : Trimmed (trim text) := by
  constructor
  · intro first found
    obtain ⟨back, split⟩ := trimEnd_prefix (trimStart text)
    have startFound : (trimStart text).head? = some first := by
      rw [← split, ← trim, List.head?_append, found]
      rfl
    exact Bool.eq_false_iff.mpr fun blank =>
      absurd (List.head?_dropWhile_not isBlank text) (by
        rw [trimStart] at startFound
        simp [startFound, blank])
  · intro last found
    rw [trim, trimEnd_eq_rdropWhile] at found
    have nonempty : (trimStart text).rdropWhile isBlank ≠ [] := by
      intro empty
      simp [empty] at found
    rw [List.getLast?_eq_some_getLast nonempty, Option.some.injEq] at found
    rw [← found]
    exact Bool.eq_false_iff.mpr (List.rdropWhile_last_not isBlank _ nonempty)

/-- A text that ends without a blank is only trimmed at its start. -/
theorem trim_eq_trimStart
    (notBlank : ∀ last, text.getLast? = some last → isBlank last = false) :
    trim text = trimStart text := by
  obtain ⟨front, split⟩ := trimStart_suffix text
  rw [trim, trimEnd_eq_rdropWhile, List.rdropWhile_eq_self_iff]
  generalize trimStart text = rest at split ⊢
  intro nonempty
  have sameLast : text.getLast? = some (rest.getLast nonempty) := by
    rw [← split, List.getLast?_append_of_ne_nil _ nonempty, List.getLast?_eq_some_getLast nonempty]
  simp [notBlank _ sameLast]

theorem trim_eq_self_iff : trim text = text ↔ Trimmed text :=
  ⟨fun same => same ▸ trimmed_trim text, trim_eq_self⟩

end BnfParsing.Text

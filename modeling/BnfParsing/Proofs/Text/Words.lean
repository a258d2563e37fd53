import BnfParsing.Proofs.Text.Trimming
import Mathlib.Data.List.Chain
import Mathlib.Data.List.Infix

/-!
Contract: the words of a text, which are what stands between its spaces.

Owns:
- words, how they behave where texts are put together with spaces, and where a
  word stands in its text;
- joining words again, and the places at which a spaceless pattern can occur in
  what is joined;
- what trimming does to the first and the last word.

Does not own: what words mean, or characters that are blank and not a space.
-/

set_option autoImplicit false

namespace BnfParsing.Text

/-- The parts of a text between its spaces, empty ones left out. -/
def words (text : Text) : List Text :=
  (List.splitOn ' ' text).filter fun part => !part.isEmpty

/-- No two spaces stand side by side. -/
abbrev SingleSpaced (text : Text) : Prop :=
  text.IsChain fun first second => first = ' ' → second ≠ ' '

variable {text word : Text} {parts : List Text}

/-- Parts are those of the library's own splitting. -/
theorem splitOn_eq (separator : Char) (text : Text) :
    splitOn separator text = List.splitOn separator text := by
  induction text with
  | nil => exact (List.splitOn_nil separator).symm
  | cons character rest inductionHypothesis =>
      rw [splitOn, List.splitOn_cons_eq_if_modifyHead, inductionHypothesis]
      by_cases same : character = separator
      · simp [same]
      · have nonempty := List.splitOn_ne_nil separator rest
        simp only [same, if_false, beq_iff_eq]
        cases parts : List.splitOn separator rest with
        | nil => exact absurd parts nonempty
        | cons part parts => rfl

@[simp] theorem words_nil : words [] = [] := rfl

theorem words_append_space (first second : Text) :
    words (first ++ ' ' :: second) = words first ++ words second := by
  rw [words, List.splitOn_append_cons_self, List.filter_append, words, words]

@[simp] theorem words_space_cons (text : Text) : words (' ' :: text) = words text :=
  words_append_space [] text

theorem words_of_spaceless (nonempty : word ≠ []) (spaceless : ' ' ∉ word) :
    words word = [word] := by
  rw [words, List.splitOn_eq_singleton spaceless]
  simp [nonempty]

/-- A character in front of another one belongs to the same word. -/
theorem words_cons_cons {first second : Char} (firstNotSpace : first ≠ ' ')
    (secondNotSpace : second ≠ ' ') (rest : Text) :
    words (first :: second :: rest) = (words (second :: rest)).modifyHead (first :: ·) := by
  have split : ∀ {character : Char} (after : Text), character ≠ ' ' →
      List.splitOn ' ' (character :: after) =
        (List.splitOn ' ' after).modifyHead (character :: ·) := by
    intro character after notSpace
    rw [List.splitOn_cons_eq_if_modifyHead, if_neg (by simpa using notSpace)]
  rw [words, words, split _ firstNotSpace, split _ secondNotSpace]
  cases List.splitOn ' ' rest <;> simp

/-- Texts can be built from spaceless ones, the first word or gap at a time. -/
@[elab_as_elim]
theorem induction_on_spaces {motive : Text → Prop} (text : Text)
    (spaceless : ∀ text, ' ' ∉ text → motive text)
    (spaced : ∀ front back, ' ' ∉ front → motive back → motive (front ++ ' ' :: back)) :
    motive text := by
  induction length : text.length using Nat.strong_induction_on generalizing text with
  | _ count inductionHypothesis =>
      by_cases hasSpace : ' ' ∈ text
      · obtain ⟨front, back, rfl, frontSpaceless⟩ := List.eq_append_cons_of_mem hasSpace
        have shorter : back.length < count := by
          rw [← length, List.length_append, List.length_cons]
          omega
        exact spaced front back frontSpaceless (inductionHypothesis _ shorter back rfl)
      · exact spaceless text hasSpace

theorem words_append_space_of_spaceless {front : Text} (nonempty : front ≠ [])
    (spaceless : ' ' ∉ front) (back : Text) :
    words (front ++ ' ' :: back) = front :: words back := by
  rw [words_append_space, words_of_spaceless nonempty spaceless, List.singleton_append]

theorem words_eq_splitOn (full : [] ∉ List.splitOn ' ' text) :
    words text = List.splitOn ' ' text := by
  rw [words, List.filter_eq_self]
  intro part member
  simpa using fun empty : part = [] => full (empty ▸ member)

theorem not_mem_of_mem_splitOn {separator : Char} {part : Text}
    (member : part ∈ List.splitOn separator text) : separator ∉ part := by
  induction text generalizing part with
  | nil =>
      rw [List.splitOn_nil, List.mem_singleton] at member
      exact member ▸ List.not_mem_nil
  | cons character rest inductionHypothesis =>
      rw [List.splitOn_cons_eq_if_modifyHead] at member
      split at member
      · rcases List.mem_cons.mp member with rfl | later
        · exact List.not_mem_nil
        · exact inductionHypothesis later
      next differs =>
        cases parts : List.splitOn separator rest with
        | nil => exact absurd parts (List.splitOn_ne_nil separator rest)
        | cons first others =>
            rw [parts] at member inductionHypothesis
            rw [List.modifyHead_cons] at member
            rcases List.mem_cons.mp member with rfl | later
            · have absent := inductionHypothesis List.mem_cons_self
              simpa [absent] using fun same => differs (beq_iff_eq.mpr same.symm)
            · exact inductionHypothesis (List.mem_cons_of_mem first later)

/-- Single spaces inside a text leave no empty part. -/
theorem nil_not_mem_splitOn (single : SingleSpaced text) (nonempty : text ≠ [])
    (noSpaceAtStart : text.head? ≠ some ' ') (noSpaceAtEnd : text.getLast? ≠ some ' ') :
    [] ∉ List.splitOn ' ' text := by
  induction text using induction_on_spaces with
  | spaceless text spaceless =>
      rw [List.splitOn_eq_singleton spaceless, List.mem_singleton]
      exact fun empty => nonempty empty.symm
  | spaced front back frontSpaceless inductionHypothesis =>
      have frontNonempty : front ≠ [] := by
        rintro rfl
        simp at noSpaceAtStart
      have backNonempty : back ≠ [] := by
        rintro rfl
        simp at noSpaceAtEnd
      rw [SingleSpaced, List.isChain_append, List.isChain_cons] at single
      rw [List.splitOn_append_cons_self, List.splitOn_eq_singleton frontSpaceless,
        List.singleton_append, List.mem_cons, not_or]
      refine ⟨fun empty => frontNonempty empty.symm,
        inductionHypothesis single.2.1.2 backNonempty ?_ ?_⟩
      · intro starts
        exact single.2.1.1 ' ' starts rfl rfl
      · rwa [List.getLast?_append_of_ne_nil _ (List.cons_ne_nil _ _),
          List.getLast?_cons_of_ne_nil backNonempty] at noSpaceAtEnd

/-- A word stands at an end of its text or beside a space, on either side. -/
theorem mem_words_iff : word ∈ words text ↔ word ≠ [] ∧ ' ' ∉ word ∧
    ∃ front back, text = front ++ word ++ back ∧
      (front = [] ∨ ∃ before, front = before ++ [' ']) ∧
      (back = [] ∨ ∃ behind, back = ' ' :: behind) := by
  constructor
  · intro member
    induction text using induction_on_spaces with
    | spaceless text spaceless =>
        by_cases empty : text = []
        · subst empty
          simp at member
        · rw [words_of_spaceless empty spaceless, List.mem_singleton] at member
          subst member
          exact ⟨empty, spaceless, [], [], by simp, .inl rfl, .inl rfl⟩
    | spaced front back frontSpaceless inductionHypothesis =>
        rw [words_append_space, List.mem_append] at member
        rcases member with inFront | inBack
        · by_cases empty : front = []
          · subst empty
            simp at inFront
          · rw [words_of_spaceless empty frontSpaceless, List.mem_singleton] at inFront
            subst inFront
            exact ⟨empty, frontSpaceless, [], ' ' :: back, by simp, .inl rfl, .inr ⟨back, rfl⟩⟩
        · obtain ⟨nonempty, spaceless, before, behind, rfl, atFront, atBack⟩ :=
            inductionHypothesis inBack
          refine ⟨nonempty, spaceless, front ++ ' ' :: before, behind, by simp, .inr ?_, atBack⟩
          rcases atFront with rfl | ⟨earlier, rfl⟩
          · exact ⟨front, rfl⟩
          · exact ⟨front ++ ' ' :: earlier, by simp⟩
  · rintro ⟨nonempty, spaceless, front, back, rfl, atFront, atBack⟩
    have withBack : word ∈ words (word ++ back) := by
      rcases atBack with rfl | ⟨behind, rfl⟩
      · simp [words_of_spaceless nonempty spaceless]
      · simp [words_append_space_of_spaceless nonempty spaceless]
    rcases atFront with rfl | ⟨before, rfl⟩
    · simpa using withBack
    · rw [List.append_assoc, List.append_assoc, List.singleton_append, words_append_space]
      exact List.mem_append_right _ withBack

theorem ne_nil_of_mem_words (member : word ∈ words text) : word ≠ [] :=
  (mem_words_iff.mp member).1

theorem spaceless_of_mem_words (member : word ∈ words text) : ' ' ∉ word :=
  (mem_words_iff.mp member).2.1

theorem infix_of_mem_words (member : word ∈ words text) : word <:+: text := by
  obtain ⟨-, -, front, back, rfl, -⟩ := mem_words_iff.mp member
  exact ⟨front, back, rfl⟩

theorem mem_words_cons (first : Char) (member : word ∈ words text) :
    word ∈ words (first :: text) ∨ first :: word ∈ words (first :: text) := by
  simp only [mem_words_iff] at member ⊢
  obtain ⟨nonempty, spaceless, front, back, rfl, rfl | ⟨before, rfl⟩, atBack⟩ := member
  · by_cases space : first = ' '
    · left
      subst space
      exact ⟨nonempty, spaceless, [' '], back, rfl, .inr ⟨[], rfl⟩, atBack⟩
    · right
      refine ⟨List.cons_ne_nil _ _, ?_, [], back, rfl, .inl rfl, atBack⟩
      simp [spaceless, Ne.symm space]
  · left
    exact ⟨nonempty, spaceless, first :: before ++ [' '], back, by simp, .inr ⟨_, rfl⟩, atBack⟩

theorem mem_words_concat (last : Char) (member : word ∈ words text) :
    word ∈ words (text ++ [last]) ∨ word ++ [last] ∈ words (text ++ [last]) := by
  simp only [mem_words_iff] at member ⊢
  obtain ⟨nonempty, spaceless, front, back, rfl, atFront, rfl | ⟨behind, rfl⟩⟩ := member
  · by_cases space : last = ' '
    · left
      subst space
      exact ⟨nonempty, spaceless, front, [' '], by simp, atFront, .inr ⟨[], rfl⟩⟩
    · right
      refine ⟨by simp, ?_, front, [], by simp, atFront, .inl rfl⟩
      simp [spaceless, Ne.symm space]
  · left
    exact ⟨nonempty, spaceless, front, ' ' :: (behind ++ [last]), by simp, atFront,
      .inr ⟨_, rfl⟩⟩

/-- A word of the end of a text is a word of the whole text, up to the blanks in
front. -/
theorem exists_blanks_append_mem_words {front : Text} (frontBlank : isAllBlank front)
    (member : word ∈ words text) :
    ∃ before, isAllBlank before ∧ before ++ word ∈ words (front ++ text) := by
  induction front with
  | nil => exact ⟨[], rfl, member⟩
  | cons first front inductionHypothesis =>
      simp only [isAllBlank, List.all_cons, Bool.and_eq_true] at frontBlank
      obtain ⟨before, beforeBlank, memberFront⟩ := inductionHypothesis frontBlank.2
      rcases mem_words_cons first memberFront with kept | grown
      · exact ⟨before, beforeBlank, kept⟩
      · exact ⟨first :: before, by simpa [isAllBlank, frontBlank.1] using beforeBlank, grown⟩

theorem exists_append_blanks_mem_words {back : Text} (backBlank : isAllBlank back)
    (member : word ∈ words text) :
    ∃ behind, isAllBlank behind ∧ word ++ behind ∈ words (text ++ back) := by
  induction back using List.reverseRecOn with
  | nil => exact ⟨[], rfl, by simpa using member⟩
  | append_singleton back last inductionHypothesis =>
      rw [isAllBlank_append] at backBlank
      obtain ⟨behind, behindBlank, memberBack⟩ := inductionHypothesis backBlank.1
      rw [← List.append_assoc]
      rcases mem_words_concat last memberBack with kept | grown
      · exact ⟨behind, behindBlank, kept⟩
      · exact ⟨behind ++ [last], isAllBlank_append.mpr ⟨behindBlank, backBlank.2⟩,
          by simpa using grown⟩

/-- A word of a trimmed text is a word of the text itself once blanks are put
back on its sides. -/
theorem exists_blanks_mem_words (member : word ∈ words (trim text)) :
    ∃ before behind, isAllBlank before ∧ isAllBlank behind ∧
      before ++ word ++ behind ∈ words text := by
  obtain ⟨front, back, frontBlank, backBlank, split⟩ := exists_blanks_trim_blanks text
  obtain ⟨before, beforeBlank, memberFront⟩ := exists_blanks_append_mem_words frontBlank member
  obtain ⟨behind, behindBlank, memberBoth⟩ := exists_append_blanks_mem_words backBlank memberFront
  rw [← split] at memberBoth
  exact ⟨before, behind, beforeBlank, behindBlank, memberBoth⟩

/-- A text that does not start with a space starts with its first word. -/
theorem exists_words_head? {first : Char} (found : text.head? = some first)
    (notSpace : first ≠ ' ') :
    ∃ word, (words text).head? = some word ∧ word.head? = some first := by
  induction text using induction_on_spaces with
  | spaceless text spaceless =>
      have nonempty : text ≠ [] := by
        rintro rfl
        simp at found
      exact ⟨text, by rw [words_of_spaceless nonempty spaceless, List.head?_cons], found⟩
  | spaced front back frontSpaceless =>
      cases front with
      | nil => simp [Ne.symm notSpace] at found
      | cons character rest =>
          rw [words_append_space_of_spaceless (List.cons_ne_nil _ _) frontSpaceless]
          exact ⟨_, List.head?_cons, found⟩

/-- A text that does not end with a space ends with its last word. -/
theorem exists_words_getLast? {last : Char} (found : text.getLast? = some last)
    (notSpace : last ≠ ' ') :
    ∃ word, (words text).getLast? = some word ∧ word.getLast? = some last := by
  induction text using induction_on_spaces with
  | spaceless text spaceless =>
      have nonempty : text ≠ [] := by
        rintro rfl
        simp at found
      exact ⟨text, by rw [words_of_spaceless nonempty spaceless, List.getLast?_singleton], found⟩
  | spaced front back frontSpaceless inductionHypothesis =>
      cases back with
      | nil => simp [Ne.symm notSpace] at found
      | cons character rest =>
          rw [List.getLast?_append_cons, List.getLast?_cons_cons] at found
          obtain ⟨word, wordFound, wordLast⟩ := inductionHypothesis found
          refine ⟨word, ?_, wordLast⟩
          rw [words_append_space, List.getLast?_append, wordFound]
          rfl

theorem not_space_of_not_blank {character : Char} (notBlank : isBlank character = false) :
    character ≠ ' ' := by
  rintro rfl
  exact absurd notBlank (by decide)

/-- The first word of a trimmed text starts without a blank. -/
theorem Trimmed.exists_first_word (trimmed : Trimmed text) (nonempty : text ≠ []) :
    ∃ word first, (words text).head? = some word ∧ word.head? = some first ∧
      isBlank first = false := by
  have found := List.head?_eq_some_head nonempty
  have notBlank := trimmed.head_not_blank _ found
  obtain ⟨word, isFirst, starts⟩ := exists_words_head? found (not_space_of_not_blank notBlank)
  exact ⟨word, _, isFirst, starts, notBlank⟩

/-- The last word of a trimmed text ends without a blank. -/
theorem Trimmed.exists_last_word (trimmed : Trimmed text) (nonempty : text ≠ []) :
    ∃ word last, (words text).getLast? = some word ∧ word.getLast? = some last ∧
      isBlank last = false := by
  have found := List.getLast?_eq_some_getLast nonempty
  have notBlank := trimmed.getLast_not_blank _ found
  obtain ⟨word, isLast, ends⟩ := exists_words_getLast? found (not_space_of_not_blank notBlank)
  exact ⟨word, _, isLast, ends, notBlank⟩

theorem join_cons {separator part : Text} (nonempty : parts ≠ []) :
    join separator (part :: parts) = part ++ separator ++ join separator parts := by
  cases parts with
  | nil => exact absurd rfl nonempty
  | cons next others => rfl

theorem join_append {separator : Text} {front back : List Text} (frontNonempty : front ≠ [])
    (backNonempty : back ≠ []) :
    join separator (front ++ back) = join separator front ++ separator ++ join separator back := by
  induction front with
  | nil => exact absurd rfl frontNonempty
  | cons part others inductionHypothesis =>
      by_cases last : others = []
      · rw [last, List.singleton_append, join_cons backNonempty, join]
      · rw [List.cons_append, join_cons (by simp [last]), inductionHypothesis last,
          join_cons last]
        simp only [List.append_assoc]

/-- Joined with spaces, texts keep their words. -/
theorem words_join (parts : List Text) : words (join [' '] parts) = parts.flatMap words := by
  induction parts with
  | nil => rfl
  | cons part others inductionHypothesis =>
      by_cases last : others = []
      · simp [last, join]
      · rw [join_cons last, List.append_assoc, List.singleton_append, words_append_space,
          inductionHypothesis, List.flatMap_cons]

theorem words_join_of_spaceless (nonempty : ∀ part ∈ parts, part ≠ [])
    (spaceless : ∀ part ∈ parts, ' ' ∉ part) : words (join [' '] parts) = parts := by
  rw [words_join]
  calc parts.flatMap words = parts.flatMap fun part => [part] :=
        List.flatMap_congr fun part member =>
          words_of_spaceless (nonempty part member) (spaceless part member)
    _ = parts := List.flatMap_singleton' parts

/-- A joined text starts as its first part does. -/
theorem head?_join {separator part : Text} (nonempty : part ≠ []) (parts : List Text) :
    (join separator (part :: parts)).head? = part.head? := by
  by_cases last : parts = []
  · rw [last, join]
  · obtain ⟨first, rest, rfl⟩ := List.exists_cons_of_ne_nil nonempty
    rw [join_cons last]
    rfl

/-- A joined text ends as its last part does. -/
theorem getLast?_join {separator part : Text} (nonempty : part ≠ []) (parts : List Text) :
    (join separator (parts ++ [part])).getLast? = part.getLast? := by
  by_cases only : parts = []
  · rw [only, List.nil_append, join]
  · rw [join_append only (List.cons_ne_nil _ _), join,
      List.getLast?_append_of_ne_nil _ nonempty]

/-- Non-empty texts without spaces, joined with spaces, have no two spaces side
by side. -/
theorem isChain_join (nonempty : ∀ part ∈ parts, part ≠ [])
    (spaceless : ∀ part ∈ parts, ' ' ∉ part) : SingleSpaced (join [' '] parts) := by
  have chainOfSpaceless : ∀ part : Text, ' ' ∉ part → SingleSpaced part := by
    intro part partSpaceless
    induction part with
    | nil => exact List.IsChain.nil
    | cons first rest inductionHypothesis =>
        rw [List.mem_cons, not_or] at partSpaceless
        rw [SingleSpaced, List.isChain_cons]
        exact ⟨fun _ _ same => absurd same.symm partSpaceless.1,
          inductionHypothesis partSpaceless.2⟩
  induction parts with
  | nil => exact List.IsChain.nil
  | cons part others inductionHypothesis =>
      rw [List.forall_mem_cons] at nonempty spaceless
      cases others with
      | nil => exact chainOfSpaceless part spaceless.1
      | cons next others =>
          rw [join_cons (List.cons_ne_nil _ _), SingleSpaced, List.isChain_append,
            List.isChain_append]
          refine ⟨⟨chainOfSpaceless part spaceless.1, List.isChain_singleton _, ?_⟩,
            inductionHypothesis nonempty.2 spaceless.2, ?_⟩
          · intro last lastFound _ _ same
            have member : last ∈ part := List.mem_of_getLast? lastFound
            exact absurd (same ▸ member) spaceless.1
          · intro _ _ second secondFound _ same
            rw [head?_join (List.forall_mem_cons.mp nonempty.2).1] at secondFound
            have member : second ∈ next := List.mem_of_head? secondFound
            exact (List.forall_mem_cons.mp spaceless.2).1 (same ▸ member)

/-- There is one part more than there are separators. -/
theorem length_splitOn (separator : Char) (text : Text) :
    (List.splitOn separator text).length = text.count separator + 1 := by
  induction text with
  | nil => rw [List.splitOn_nil, List.length_singleton, List.count_nil]
  | cons character rest inductionHypothesis =>
      rw [List.splitOn_cons_eq_if_modifyHead, List.count_cons]
      split
      · rw [List.length_cons, inductionHypothesis]
      · rw [List.length_modifyHead, inductionHypothesis, Nat.add_zero]

/-- Joined texts are those of the library's own joining. -/
theorem join_eq_intercalate (separator : Text) (parts : List Text) :
    join separator parts = separator.intercalate parts := by
  induction parts with
  | nil => rfl
  | cons part others inductionHypothesis =>
      cases others with
      | nil => simp [join]
      | cons next others =>
          rw [join_cons (List.cons_ne_nil _ _), inductionHypothesis, List.intercalate_cons_cons]

/-- Joining puts parts together again. -/
theorem join_splitOn (separator : Char) (text : Text) :
    join [separator] (List.splitOn separator text) = text := by
  rw [join_eq_intercalate, List.intercalate_splitOn]

/-- Joined texts are taken apart again if none of them holds the separator. -/
theorem splitOn_join {separator : Char} (nonempty : parts ≠ [])
    (absent : ∀ part ∈ parts, separator ∉ part) :
    List.splitOn separator (join [separator] parts) = parts := by
  rw [join_eq_intercalate, List.splitOn_intercalate separator absent nonempty]

/-- A text all of whose parts are there has single spaces between them. -/
theorem singleSpaced_of_nil_not_mem (full : [] ∉ List.splitOn ' ' text) : SingleSpaced text := by
  have joined := isChain_join (fun part member empty => full (empty ▸ member))
    fun part (member : part ∈ List.splitOn ' ' text) => not_mem_of_mem_splitOn member
  rwa [join_splitOn] at joined

/-- A pattern without a character does not reach across it. -/
theorem infix_append_cons {pattern front back : Text} {character : Char}
    (absent : character ∉ pattern) (found : pattern <:+: front ++ character :: back) :
    pattern <:+: front ∨ pattern <:+: back := by
  have atCharacter : ∀ {start : Text}, start <+: character :: back → character ∉ start →
      start = [] := by
    intro start isStart notIn
    rcases List.prefix_cons_iff.mp isStart with rfl | ⟨others, rfl, -⟩
    · rfl
    · exact absurd List.mem_cons_self notIn
  rcases List.infix_append_iff.mp found with
    inFront | fromCharacter | ⟨start, rest, rfl, startSuffix, restPrefix⟩
  · exact .inl inFront
  · rcases List.infix_cons_iff.mp fromCharacter with isStart | inBack
    · rw [atCharacter isStart absent]
      exact .inl (List.nil_infix)
    · exact .inr inBack
  · rw [List.mem_append, not_or] at absent
    rw [atCharacter restPrefix absent.2, List.append_nil]
    exact .inl startSuffix.isInfix

/-- A pattern without blanks occurs in a text if it occurs in the trimmed text. -/
theorem infix_trim_iff {pattern : Text} (nonempty : pattern ≠ [])
    (blankless : ∀ character ∈ pattern, isBlank character = false) :
    pattern <:+: trim text ↔ pattern <:+: text := by
  constructor
  · intro found
    have inText : trim text <:+: text := trim_infix text
    exact found.trans inText
  · intro found
    obtain ⟨front, back, frontBlank, backBlank, split⟩ := exists_blanks_trim_blanks text
    have notInBlanks : ∀ {blanks : Text}, isAllBlank blanks → ¬ pattern <:+: blanks := by
      intro blanks allBlank inBlanks
      obtain ⟨first, inPattern⟩ := List.exists_mem_of_ne_nil pattern nonempty
      have blank := List.all_eq_true.mp allBlank first (inBlanks.subset inPattern)
      simp [blankless first inPattern] at blank
    have absent : ∀ {character : Char}, isBlank character → character ∉ pattern := by
      intro character blank inPattern
      simp [blankless character inPattern] at blank
    rw [split] at found
    have inFront : pattern <:+: front ++ trim text := by
      cases back with
      | nil => rwa [List.append_nil] at found
      | cons first back =>
          have backBlanks := isAllBlank_append.mp (List.singleton_append ▸ backBlank)
          have firstBlank : isBlank first := by simpa [isAllBlank] using backBlanks.1
          exact (infix_append_cons (absent firstBlank) found).resolve_right
            (notInBlanks backBlanks.2)
    cases front using List.reverseRecOn with
    | nil => exact inFront
    | append_singleton front last =>
        have frontBlanks := isAllBlank_append.mp frontBlank
        have lastBlank : isBlank last := by simpa [isAllBlank] using frontBlanks.2
        rw [List.append_assoc, List.singleton_append] at inFront
        exact (infix_append_cons (absent lastBlank) inFront).resolve_left
          (notInBlanks frontBlanks.1)

/-- A spaceless pattern that occurs in joined texts occurs in one of them. -/
theorem exists_infix_of_infix_join {pattern : Text} (nonempty : pattern ≠ [])
    (spaceless : ' ' ∉ pattern) (found : pattern <:+: join [' '] parts) :
    ∃ part ∈ parts, pattern <:+: part := by
  induction parts with
  | nil => exact absurd (List.infix_nil.mp found) nonempty
  | cons part others inductionHypothesis =>
      by_cases last : others = []
      · rw [last, join] at found
        exact ⟨part, List.mem_cons_self, found⟩
      · rw [join_cons last, List.append_assoc, List.singleton_append] at found
        rcases infix_append_cons spaceless found with inPart | inOthers
        · exact ⟨part, List.mem_cons_self, inPart⟩
        · obtain ⟨other, member, inOther⟩ := inductionHypothesis inOthers
          exact ⟨other, List.mem_cons_of_mem part member, inOther⟩

end BnfParsing.Text

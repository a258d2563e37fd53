import BnfParsing.Proofs.Grammar.Splitting

/-!
Contract: the spaces between the words of one alternative.

A wide gap is refused unless a bar stands beside it, and every bar between two words is a
separator. What is left are the bars at both ends of a right side: they are words of an
alternative, and any number of spaces may stand beside them.

Owns:
- words side by side that no separator divides, which are those of one alternative;
- the number of spaces between two words, and the runs it is found by;
- the right sides in which the words of an alternative are one space apart.

Does not own: the gaps around separators, which may have any width.
-/

set_option autoImplicit false

namespace BnfParsing.RightSide

variable {stickyRules : Bool} {text : Text} {left right : Word}

/-! ## Words of one alternative -/

/-- Words side by side, neither of which is a bar with words on both sides. -/
def Undivided (stickyRules : Bool) (allWords : List Word) (left right : Word) : Prop :=
  ∃ earlier later, allWords = earlier ++ left :: right :: later ∧
    (isBar stickyRules left.text = true → earlier = []) ∧
    (isBar stickyRules right.text = true → later = [])

section Alternatives

variable {allWords : List Word} {first : List Word} {others : List (Word × List Word)}

/-- Words side by side belong to one block, unless one of them is a bar between the blocks. -/
theorem exists_block {earlier later : List Word} (firstFull : first ≠ [])
    (full : ∀ other ∈ others, other.2 ≠ [])
    (split : (first ++ others.flatMap fun other => other.1 :: other.2) =
      earlier ++ left :: right :: later)
    (leftInside : left ∈ others.map Prod.fst → earlier = [])
    (rightInside : right ∈ others.map Prod.fst → later = []) :
    ∃ block ∈ first :: others.map Prod.snd, [left, right] <:+: block := by
  induction others generalizing first earlier with
  | nil =>
      rw [List.flatMap_nil, List.append_nil] at split
      exact ⟨first, List.mem_cons_self, earlier, later, by simp [split]⟩
  | cons other others inductionHypothesis =>
      obtain ⟨bar, block⟩ := other
      rw [List.forall_mem_cons] at full
      rw [List.map_cons, List.mem_cons] at leftInside rightInside
      rw [List.flatMap_cons] at split
      -- the first block ends in front of both words, between them or behind them
      rcases List.append_eq_append_iff.mp split with
        ⟨between, rfl, behind⟩ | ⟨between, rfl, inFirst⟩
      · cases between with
        | nil =>
            have leftBar : bar = left := (List.cons.inj behind).1
            have noneEarlier := leftInside (.inl leftBar.symm)
            rw [List.append_nil] at noneEarlier
            exact absurd noneEarlier firstFull
        | cons _ between =>
            have laterLeft : left ∈ others.map Prod.fst → between = [] :=
              fun isLater => absurd (leftInside (.inr isLater)) (by simp)
            obtain ⟨later, isLater, inside⟩ := inductionHypothesis full.1 full.2
              (List.cons.inj behind).2 laterLeft fun isLater => rightInside (.inr isLater)
            exact ⟨later, List.mem_cons_of_mem first isLater, inside⟩
      · match between, inFirst with
        | [], inFirst =>
            have leftBar : left = bar := (List.cons.inj inFirst).1
            rw [leftInside (.inl leftBar)] at firstFull
            exact absurd rfl firstFull
        | [_], inFirst =>
            obtain ⟨-, behind⟩ := List.cons.inj inFirst
            obtain ⟨rightBar, later⟩ := List.cons.inj behind
            rw [rightInside (.inl rightBar)] at later
            exact absurd (List.append_eq_nil_iff.mp later.symm).1 full.1
        | _ :: _ :: between, inFirst =>
            cases inFirst
            exact ⟨_, List.mem_cons_self, earlier, between, by simp⟩

theorem mem_dropLast_tail {front back : List Word} (frontFull : front ≠ []) (backFull : back ≠ [])
    (word : Word) : word ∈ (front ++ word :: back).tail.dropLast := by
  obtain ⟨_, front, rfl⟩ := List.exists_cons_of_ne_nil frontFull
  rw [List.cons_append, List.tail_cons, List.dropLast_append_of_ne_nil (List.cons_ne_nil _ _),
    List.dropLast_cons_of_ne_nil backFull]
  exact List.mem_append_right _ List.mem_cons_self

/-- If no word between others is a bar, the first and the last word still may be bars. -/
theorem outer_of_bar {earlier later : List Word}
    (noBar : ∀ word ∈ (earlier ++ left :: right :: later).tail.dropLast,
      isBar stickyRules word.text = false) :
    (isBar stickyRules left.text = true → earlier = []) ∧
      (isBar stickyRules right.text = true → later = []) := by
  constructor
  · intro bar
    by_contra nonempty
    have inside := noBar left (mem_dropLast_tail nonempty (List.cons_ne_nil _ _) left)
    rw [bar] at inside
    cases inside
  · intro bar
    by_contra nonempty
    have behindLeft :
        earlier ++ left :: right :: later = (earlier ++ [left]) ++ right :: later := by
      rw [List.append_assoc, List.singleton_append]
    rw [behindLeft] at noBar
    have inside := noBar right (mem_dropLast_tail (by simp) nonempty right)
    rw [bar] at inside
    cases inside

theorem eq_nil_of_flatMap_eq_nil (full : ∀ other ∈ others, other.2 ≠ [])
    (empty : others.flatMap Prod.snd = []) : others = [] :=
  List.eq_nil_iff_forall_not_mem.mpr fun other member =>
    full other member (List.flatMap_eq_nil_iff.mp empty other member)

/-- A block among all words and among the words of the blocks: the sides are empty together. -/
theorem exists_sides_of_block {block : List Word} (firstFull : first ≠ [])
    (full : ∀ other ∈ others, other.2 ≠ []) (isBlock : block ∈ first :: others.map Prod.snd) :
    ∃ before behind blocksBefore blocksBehind,
      (first ++ others.flatMap fun other => other.1 :: other.2) = before ++ block ++ behind ∧
        first ++ others.flatMap Prod.snd = blocksBefore ++ block ++ blocksBehind ∧
        (blocksBefore = [] → before = []) ∧ (blocksBehind = [] → behind = []) := by
  rcases List.mem_cons.mp isBlock with rfl | isLater
  · refine ⟨[], _, [], _, rfl, rfl, fun _ => rfl, fun empty => ?_⟩
    rw [eq_nil_of_flatMap_eq_nil full empty]
    rfl
  · obtain ⟨⟨bar, later⟩, member, same⟩ := List.mem_map.mp isLater
    obtain rfl : later = block := same
    obtain ⟨front, back, rfl⟩ := List.append_of_mem member
    refine ⟨first ++ front.flatMap (fun other => other.1 :: other.2) ++ [bar],
      back.flatMap fun other => other.1 :: other.2, first ++ front.flatMap Prod.snd,
      back.flatMap Prod.snd, by simp, by simp, fun empty => ?_, fun empty => ?_⟩
    · exact absurd (List.append_eq_nil_iff.mp empty).1 firstFull
    · have backFull : ∀ other ∈ back, other.2 ≠ [] := fun other isBack =>
        full other (List.mem_append_right _ (List.mem_cons_of_mem _ isBack))
      rw [eq_nil_of_flatMap_eq_nil backFull empty]
      rfl

theorem isBar_of_mem_separators {word : Word} (member : word ∈ separators stickyRules allWords) :
    isBar stickyRules word.text = true :=
  (List.mem_filter.mp member).2

variable (firstFull : first ≠ []) (full : ∀ other ∈ others, other.2 ≠ [])
variable (words_eq : (first ++ others.flatMap fun other => other.1 :: other.2) = allWords)
variable (bars_eq : others.map Prod.fst = separators stickyRules allWords)

include firstFull full words_eq bars_eq

/-- All bars that have a word on both sides have been taken out of the blocks. -/
theorem no_bar_in_blocks :
    ∀ word ∈ (first ++ others.flatMap Prod.snd).tail.dropLast,
      isBar stickyRules word.text = false := by
  obtain ⟨word, rest, rfl⟩ := List.exists_cons_of_ne_nil firstFull
  have bars : ∀ other ∈ others, isBar stickyRules other.1.text = true := fun other member =>
    isBar_of_mem_separators (bars_eq ▸ List.mem_map_of_mem member)
  have barCount : (rest ++ others.flatMap fun other => other.1 :: other.2).dropLast.countP
      (fun word => isBar stickyRules word.text) = others.length := by
    rw [List.countP_eq_length_filter, ← List.length_map (f := Prod.fst), bars_eq, ← words_eq]
    rfl
  have othersCount : (rest ++ others.flatMap Prod.snd).dropLast.countP
      (fun word => isBar stickyRules word.text) = 0 := by
    rwa [countP_append_flatMap bars full, Nat.add_eq_left] at barCount
  intro word member
  simpa using List.countP_eq_zero.mp othersCount word member

/-- The words that are side by side in a block are those that no separator divides. -/
theorem neighbours_iff_undivided :
    (∃ block ∈ first :: others.map Prod.snd, [left, right] <:+: block) ↔
      Undivided stickyRules allWords left right := by
  have noBar := no_bar_in_blocks firstFull full words_eq bars_eq
  constructor
  · rintro ⟨block, isBlock, front, back, rfl⟩
    obtain ⟨before, behind, blocksBefore, blocksBehind, inWords, inBlocks, noneBefore,
      noneBehind⟩ := exists_sides_of_block firstFull full isBlock
    have inMiddle : ∀ outerFront outerBack : List Word,
        outerFront ++ (front ++ [left, right] ++ back) ++ outerBack =
          (outerFront ++ front) ++ left :: right :: (back ++ outerBack) := by
      simp
    rw [inBlocks, inMiddle] at noBar
    obtain ⟨leftOuter, rightOuter⟩ := outer_of_bar noBar
    refine ⟨before ++ front, back ++ behind, ?_, fun bar => ?_, fun bar => ?_⟩
    · rw [← words_eq, inWords, inMiddle]
    · obtain ⟨noneInBlocks, rfl⟩ := List.append_eq_nil_iff.mp (leftOuter bar)
      rw [noneBefore noneInBlocks, List.append_nil]
    · obtain ⟨rfl, noneInBlocks⟩ := List.append_eq_nil_iff.mp (rightOuter bar)
      rw [noneBehind noneInBlocks, List.append_nil]
  · rintro ⟨earlier, later, split, leftOuter, rightOuter⟩
    have isBar_of_mem : ∀ word ∈ others.map Prod.fst, isBar stickyRules word.text = true :=
      fun word member => isBar_of_mem_separators (bars_eq ▸ member)
    exact exists_block firstFull full (words_eq.trans split)
      (fun member => leftOuter (isBar_of_mem left member))
      (fun member => rightOuter (isBar_of_mem right member))

end Alternatives

/-! ## Gaps between words -/

/-- The run that a word was made of. -/
def Word.run (word : Word) : Run :=
  ⟨false, word.text, word.start⟩

theorem Alternating.exists_run_eq_cons {all : List Run} {texts : List Text}
    (alternating : Alternating false all texts) {word : Word} {later : List Word}
    (split : runWords all = word :: later) :
    ∃ back, all = word.run :: back ∧ (later = [] → back = []) := by
  cases alternating with
  | @last run notGap =>
      obtain ⟨_, text, start⟩ := run
      cases notGap
      rw [runWords_word rfl] at split
      cases split
      exact ⟨[], rfl, fun _ => rfl⟩
  | @word run back _ notGap others =>
      obtain ⟨_, text, start⟩ := run
      cases notGap
      rw [runWords_word rfl] at split
      obtain ⟨rfl, rfl⟩ := List.cons.inj split
      exact ⟨back, rfl, fun noneLater => absurd noneLater others.runWords_ne_nil⟩

/-- Words side by side come from runs with one gap between them. -/
theorem Alternating.exists_gap {gapFirst : Bool} {all : List Run} {texts : List Text}
    (alternating : Alternating gapFirst all texts) {earlier later : List Word}
    (neighbours : runWords all = earlier ++ left :: right :: later) :
    ∃ front gap back, all = front ++ left.run :: gap :: right.run :: back ∧ gap.isGap = true ∧
      (gapFirst = false → earlier = [] → front = []) ∧ (later = [] → back = []) := by
  induction alternating generalizing earlier with
  | last notGap =>
      have oneWord : runWords [] = [] := rfl
      rw [runWords_word notGap, oneWord] at neighbours
      have sameLength := congrArg List.length neighbours
      simp only [List.length_append, List.length_cons, List.length_nil] at sameLength
      omega
  | @word run runs _ notGap others inductionHypothesis =>
      rw [runWords_word notGap] at neighbours
      cases earlier with
      | nil =>
          obtain ⟨_, text, start⟩ := run
          cases notGap
          obtain ⟨rfl, split⟩ := List.cons.inj neighbours
          cases others with
          | @gap gap _ _ isGap others =>
              rw [runWords_gap isGap] at split
              obtain ⟨back, rfl, behind⟩ := others.exists_run_eq_cons split
              exact ⟨[], gap, back, rfl, isGap, fun _ _ => rfl, behind⟩
      | cons word earlier =>
          obtain ⟨front, gap, back, rfl, isGap, -, behind⟩ :=
            inductionHypothesis (List.cons.inj neighbours).2
          exact ⟨run :: front, gap, back, rfl, isGap, by simp, behind⟩
  | @gap run runs _ isGap _ inductionHypothesis =>
      rw [runWords_gap isGap] at neighbours
      obtain ⟨front, gap, back, rfl, isGap, -, behind⟩ := inductionHypothesis neighbours
      exact ⟨run :: front, gap, back, rfl, isGap, by simp, behind⟩

theorem Consecutive.of_append {offset : Nat} {front back : List Run}
    (consecutive : Consecutive offset (front ++ back)) :
    Consecutive (offset + Text.byteLength (front.flatMap Run.text)) back := by
  induction front generalizing offset with
  | nil => exact consecutive
  | cons run front inductionHypothesis =>
      rw [List.flatMap_cons, Text.byteLength_append, ← Nat.add_assoc]
      exact inductionHypothesis consecutive.2

/-- Splitting goes on behind every run. -/
theorem exists_splitFrom_rest {stop : Nat} {previous : Option Run} {collected : List Word}
    {tryLast : Bool} {run : Run} {rest : List Run} {raw : List RawAlternative}
    (found : splitFrom stickyRules stop previous collected tryLast (run :: rest) = .ok raw) :
    ∃ collected tryLast raw,
      splitFrom stickyRules stop (some run) collected tryLast rest = .ok raw := by
  rcases splitFrom_cons_cases found with found | found | ⟨-, _, found, -⟩
  · exact ⟨_, _, _, found⟩
  · exact ⟨_, _, _, found⟩
  · exact ⟨_, _, _, found⟩

/-- Where splitting succeeds, no gap is refused. -/
theorem not_isDoubledSpace_of_splitFrom {stop : Nat} {previous : Option Run}
    {collected : List Word} {tryLast : Bool} {remaining front back : List Run}
    {before gap behind : Run} {raw : List RawAlternative}
    (found : splitFrom stickyRules stop previous collected tryLast remaining = .ok raw)
    (inside : previous.toList ++ remaining = front ++ before :: gap :: behind :: back)
    (isGap : gap.isGap = true) :
    isDoubledSpace stickyRules (some before) (some behind) gap = false := by
  induction remaining generalizing previous collected tryLast raw front with
  | nil =>
      have sameLength := congrArg List.length inside
      have atMostOne : previous.toList.length ≤ 1 := Option.length_toList_le
      simp only [List.length_append, List.length_cons, List.length_nil] at sameLength
      omega
  | cons run rest inductionHypothesis =>
      obtain ⟨_, _, _, foundRest⟩ := exists_splitFrom_rest found
      cases previous with
      | none => exact inductionHypothesis foundRest inside
      | some previous =>
          cases front with
          | cons _ front => exact inductionHypothesis foundRest (List.cons.inj inside).2
          | nil =>
              cases inside
              exact ((splitFrom_gap_eq_ok_iff isGap).mp found).1

theorem isDoubledSpace_eq_false_iff {before gap behind : Run} :
    isDoubledSpace stickyRules (some before) (some behind) gap = false ↔
      gap.text.length ≤ 1 ∨ isBar stickyRules before.text = true ∨
        isBar stickyRules behind.text = true := by
  have looksLikeBar : ∀ run : Run, run.isSeparator stickyRules = isBar stickyRules run.text :=
    fun _ => rfl
  rw [isDoubledSpace, Option.any_some, Option.any_some, looksLikeBar, looksLikeBar]
  cases isBar stickyRules before.text <;> cases isBar stickyRules behind.text <;> simp

/-- The words stand in the text with this many spaces between them. -/
def SpacedBy (text : Text) (width : Nat) (left right : Word) : Prop :=
  ∃ before after, text = before ++ left.text ++ Text.spaces width ++ right.text ++ after ∧
    left.start = Text.byteLength before ∧ right.start = left.span.stop + width

section Split

variable {raw : List RawAlternative}

theorem ne_nil_of_split (found : split text stickyRules = .ok raw) : text ≠ [] := by
  rintro rfl
  exact (splitFrom_nil_eq_ok_iff.mp found).1 rfl

/-- Words side by side have spaces between them, and more than one only beside a bar. -/
theorem exists_spacedBy (trimmed : Text.Trimmed text) (found : split text stickyRules = .ok raw)
    {earlier later : List Word}
    (neighbours : placedWords 0 text = earlier ++ left :: right :: later) :
    ∃ width, 0 < width ∧ SpacedBy text width left right ∧
      (width = 1 ∨ isBar stickyRules left.text = true ∨ isBar stickyRules right.text = true) ∧
      (earlier = [] → left.start = 0) ∧
      (later = [] → right.span.stop = Text.byteLength text) := by
  have ordered := pairwise_placedWords 0 text
  rw [neighbours] at ordered
  have inOrder : left.span.stop < right.start :=
    (List.pairwise_cons.mp (List.pairwise_append.mp ordered).2.1).1 right List.mem_cons_self
  have alternating := alternating_runs_of_trimmed (ne_nil_of_split found) trimmed
  rw [← runWords_runs] at neighbours
  obtain ⟨front, gap, back, allRuns, isGap, noneBefore, noneBehind⟩ :=
    alternating.exists_gap neighbours
  have gapSpaces : gap.text = Text.spaces gap.text.length :=
    List.eq_replicate_of_mem
      (eq_space_of_mem_gap (allRuns ▸ List.mem_append_right _ (by simp)) isGap)
  have width : Text.byteLength gap.text = gap.text.length := by
    rw [gapSpaces, Text.byteLength_spaces, ← gapSpaces]
  have consecutive := consecutive_runs 0 text
  have flattened := flatMap_text_runs 0 text
  rw [allRuns] at consecutive flattened
  obtain ⟨leftStart, gapStart, rightStart, -⟩ := consecutive.of_append
  have leftStart : left.start = Text.byteLength (front.flatMap Run.text) := by
    rw [← Nat.zero_add (Text.byteLength _)]
    exact leftStart
  have rightStart : right.start = left.span.stop + gap.text.length := by
    have place : right.start = _ := rightStart
    rw [place, width, Word.span, leftStart, Nat.zero_add]
    rfl
  have parts : text = front.flatMap Run.text ++ left.text ++ Text.spaces gap.text.length ++
      right.text ++ back.flatMap Run.text := by
    rw [← gapSpaces, ← flattened]
    simp [Word.run]
  refine ⟨gap.text.length, by omega, ⟨_, _, parts, leftStart, rightStart⟩, ?narrow, ?first, ?last⟩
  case narrow =>
    rw [split] at found
    have notDoubled := not_isDoubledSpace_of_splitFrom found allRuns isGap
    refine (isDoubledSpace_eq_false_iff.mp notDoubled).imp (fun short => ?_) id
    omega
  case first =>
    intro noneEarlier
    rw [leftStart, noneBefore rfl noneEarlier]
    rfl
  case last =>
    intro noneLater
    rw [parts, noneBehind noneLater, List.flatMap_nil, List.append_nil, Text.byteLength_append,
      Text.byteLength_append, Text.byteLength_append, Text.byteLength_spaces, Word.span,
      rightStart, Word.span, leftStart]

/-- A bar that does not separate, more than one space away from a word that is not divided
from it. -/
def HasLooseBar (stickyRules : Bool) (text : Text) : Prop :=
  ∃ left right, Undivided stickyRules (placedWords 0 text) left right ∧
    (isBar stickyRules left.text = true ∨ isBar stickyRules right.text = true) ∧
    left.span.stop + 1 < right.start

/-- The words that are side by side in an alternative of a right side. -/
theorem neighbours_iff_undivided_of_split (trimmed : Text.Trimmed text)
    (found : split text stickyRules = .ok raw) :
    (∃ alternative ∈ raw, [left, right] <:+: alternative.words) ↔
      Undivided stickyRules (placedWords 0 text) left right := by
  obtain ⟨first, others, rfl, givesBack⟩ :=
    givesBack_of_split (ne_nil_of_split found) trimmed found
  let blocks := others.map fun other => (other.1, other.2.words)
  have allBlocks : first.words :: blocks.map Prod.snd =
      (first :: others.map Prod.snd).map RawAlternative.words := by
    rw [List.map_cons, List.map_map, List.map_map]
    rfl
  have words_eq : (first.words ++ blocks.flatMap fun other => other.1 :: other.2) =
      placedWords 0 text := by
    rw [List.flatMap_map]
    exact givesBack.words_eq
  have bars_eq : blocks.map Prod.fst = separators stickyRules (placedWords 0 text) := by
    rw [List.map_map]
    exact givesBack.bars_eq
  rw [← neighbours_iff_undivided givesBack.first_full
    (List.forall_mem_map.mpr givesBack.others_full) words_eq bars_eq, allBlocks]
  simp only [List.mem_map, exists_exists_and_eq_and]

/-- Two words side by side in an alternative are one space apart, unless one of them is a bar at
the start or at the end of the right side. So a right side keeps its words one space apart
exactly if no such bar is further away. -/
theorem spacing_of_split (trimmed : Text.Trimmed text)
    (found : split text stickyRules = .ok raw) :
    (∀ alternative ∈ raw, ∀ left right, [left, right] <:+: alternative.words →
      ∃ width, 0 < width ∧ SpacedBy text width left right ∧
        (width = 1 ∨ isBar stickyRules left.text = true ∧ left.start = 0 ∨
          isBar stickyRules right.text = true ∧ right.span.stop = Text.byteLength text)) ∧
    ((∀ alternative ∈ raw, ∀ left right, [left, right] <:+: alternative.words →
        SpacedBy text 1 left right) ↔ ¬ HasLooseBar stickyRules text) := by
  have spacing : ∀ left right, Undivided stickyRules (placedWords 0 text) left right →
      ∃ width, 0 < width ∧ SpacedBy text width left right ∧
        (width = 1 ∨ isBar stickyRules left.text = true ∧ left.start = 0 ∨
          isBar stickyRules right.text = true ∧ right.span.stop = Text.byteLength text) := by
    rintro left right ⟨earlier, later, neighbours, leftOuter, rightOuter⟩
    obtain ⟨width, positive, spacedBy, narrow, first, last⟩ :=
      exists_spacedBy trimmed found neighbours
    refine ⟨width, positive, spacedBy, narrow.imp id (Or.imp ?_ ?_)⟩
    · exact fun bar => ⟨bar, first (leftOuter bar)⟩
    · exact fun bar => ⟨bar, last (rightOuter bar)⟩
  have undivided : ∀ alternative ∈ raw, ∀ left right, [left, right] <:+: alternative.words →
      Undivided stickyRules (placedWords 0 text) left right :=
    fun alternative member left right inside =>
      (neighbours_iff_undivided_of_split trimmed found).mp ⟨alternative, member, inside⟩
  refine ⟨fun alternative member left right inside =>
    spacing left right (undivided alternative member left right inside), ?_, ?_⟩
  · rintro narrow ⟨left, right, isUndivided, -, loose⟩
    obtain ⟨alternative, member, inside⟩ :=
      (neighbours_iff_undivided_of_split trimmed found).mpr isUndivided
    obtain ⟨_, _, -, -, rightStart⟩ := narrow alternative member left right inside
    omega
  · intro noLooseBar alternative member left right inside
    have isUndivided := undivided alternative member left right inside
    obtain ⟨width, positive, spacedBy, narrow⟩ := spacing left right isUndivided
    have one : width = 1 := by
      by_contra wide
      obtain ⟨_, _, -, -, rightStart⟩ := spacedBy
      have bar := (narrow.resolve_left wide).imp And.left And.left
      exact noLooseBar ⟨left, right, isUndivided, bar, by omega⟩
    rwa [one] at spacedBy

/-- Bars with wide gaps at both ends, and others that separate. -/
def looseBars : Text := "|  a |  b c  || d  |".toList

/-- Its alternatives when double bars are honoured. -/
def looseBarsAlternatives : List RawAlternative :=
  [⟨[⟨['|'], 0⟩, ⟨['a'], 3⟩], false⟩, ⟨[⟨['b'], 8⟩, ⟨['c'], 10⟩], false⟩,
    ⟨[⟨['d'], 16⟩, ⟨['|'], 19⟩], true⟩]

theorem looseBars_spacing :
    Text.Trimmed looseBars ∧ split looseBars true = .ok looseBarsAlternatives ∧
      SpacedBy looseBars 1 ⟨['b'], 8⟩ ⟨['c'], 10⟩ ∧ HasLooseBar true looseBars := by
  have trimmed : Text.Trimmed looseBars := Text.trim_eq_self_iff.mp (by decide)
  have divided : split looseBars true = .ok looseBarsAlternatives := rfl
  obtain ⟨spacing, spaced_iff⟩ := spacing_of_split trimmed divided
  refine ⟨trimmed, divided, ?_, ?_⟩
  · obtain ⟨width, -, spacedBy, rfl | ⟨bar, -⟩ | ⟨bar, -⟩⟩ :=
      spacing ⟨[⟨['b'], 8⟩, ⟨['c'], 10⟩], false⟩ (by decide) ⟨['b'], 8⟩ ⟨['c'], 10⟩
        List.infix_rfl
    · exact spacedBy
    · exact absurd bar (by decide)
    · exact absurd bar (by decide)
  · by_contra noLooseBar
    obtain ⟨_, _, -, -, rightStart⟩ :=
      spaced_iff.mpr noLooseBar ⟨[⟨['|'], 0⟩, ⟨['a'], 3⟩], false⟩ (by decide) ⟨['|'], 0⟩
        ⟨['a'], 3⟩ List.infix_rfl
    exact absurd rightStart (by decide)

/-- A right side may start with a bar and two spaces. In a single case, where bars are words as
well, the same two spaces have an empty word between them. -/
theorem looseBar_split :
    Text.Trimmed "|  b".toList ∧
      split "|  b".toList false = .ok [⟨[⟨['|'], 0⟩, ⟨['b'], 3⟩], false⟩] ∧
      SpacedBy "|  b".toList 2 ⟨['|'], 0⟩ ⟨['b'], 3⟩ ∧
      ¬ SpacedBy "|  b".toList 1 ⟨['|'], 0⟩ ⟨['b'], 3⟩ ∧
      Compile.rule {} "<a> := |  b".toList =
        .ok ⟨"<a>".toList, [{ symbols := [.terminal ['|'] true, .terminal ['b'] true] }]⟩ ∧
      Compile.alternative {} "|  b".toList =
        .error { rule := "|  b".toList, span := ⟨2, 2⟩, fault := .emptyTerminal } := by
  refine ⟨Text.trim_eq_self_iff.mp (by decide), rfl, ⟨[], [], rfl, rfl, rfl⟩, ?_, rfl, rfl⟩
  rintro ⟨_, _, -, -, rightStart⟩
  exact absurd rightStart (by decide)

end Split

end BnfParsing.RightSide

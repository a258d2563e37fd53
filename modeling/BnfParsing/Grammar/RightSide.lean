import BnfParsing.Grammar.InvalidRule

/-!
Contract: the right-hand side of a rule as alternatives of words.

Owns:
- the words of a text, separated by spaces;
- the bars that separate alternatives: single ones, and double ones where they
  are honoured, each with a space on both sides;
- the variants of an alternative with optional words.

Does not own: what a single word stands for.
-/

set_option autoImplicit false

namespace BnfParsing.RightSide

/-- A word with the byte offset at which it starts. -/
structure Word where
  text : Text
  start : Nat
deriving DecidableEq, Repr

/-- The span of the word in the text it was cut from. -/
def Word.span (word : Word) : Span :=
  ⟨word.start, word.start + Text.byteLength word.text⟩

/-- Whether the word has the form `<name>?`. -/
def Word.isOptional (word : Word) : Bool :=
  2 < Text.byteLength word.text && ['<'].isPrefixOf word.text
    && ['>', '?'].isSuffixOf word.text

/-- The word without a question mark at its end. -/
def Word.withoutMarker (word : Word) : Word :=
  if ['?'].isSuffixOf word.text then { word with text := word.text.dropLast } else word

/-- A maximal run of spaces or of other characters, with the byte offset at which
it starts. -/
structure Run where
  isGap : Bool
  text : Text
  start : Nat
deriving DecidableEq, Repr

/-- The maximal runs of a text that starts at a byte offset. -/
def runs (offset : Nat) : Text → List Run
  | [] => []
  | character :: rest =>
      let isGap := character == ' '
      match runs (offset + character.utf8Size) rest with
      | [] => [⟨isGap, [character], offset⟩]
      | run :: more =>
          if run.isGap == isGap then ⟨isGap, character :: run.text, offset⟩ :: more
          else ⟨isGap, [character], offset⟩ :: run :: more

/-- The span of the run. -/
def Run.span (run : Run) : Span :=
  ⟨run.start, run.start + Text.byteLength run.text⟩

/-- A single bar. -/
def Run.isBar (run : Run) : Bool :=
  run.text == ['|']

/-- A double bar. -/
def Run.isDoubleBar (run : Run) : Bool :=
  run.text == ['|', '|']

/-- Whether the run looks like a separator, wherever it stands. -/
def Run.isSeparator (stickyRules : Bool) (run : Run) : Bool :=
  run.isBar || (stickyRules && run.isDoubleBar)

/-- An alternative as words. -/
structure RawAlternative where
  words : List Word
  tryLast : Bool
deriving DecidableEq, Repr

/-- A fault with the span it is found at. -/
abbrev Located := Fault × Span

/-- Ends an alternative, which must have words. -/
def close (words : List Word) (tryLast : Bool) (span : Span) :
    Except Located RawAlternative :=
  if words.isEmpty then .error (.emptyAlternative, span)
  else .ok ⟨words.reverse, tryLast⟩

/-- Whether a wide gap leaves an empty word between its neighbours. -/
def isDoubledSpace (stickyRules : Bool) (previous next : Option Run) (gap : Run) :
    Bool :=
  1 < gap.text.length
    && previous.any (fun run => !run.isSeparator stickyRules)
    && next.any (fun run => !run.isSeparator stickyRules)

/-- Goes through the runs with the run before them, the words of the current
alternative, the latest first, and whether a double bar has been passed. -/
def splitFrom (stickyRules : Bool) (stop : Nat) :
    (previous : Option Run) → (words : List Word) → (tryLast : Bool) → List Run →
    Except Located (List RawAlternative)
  | _, words, tryLast, [] => do
      let last ← close words tryLast ⟨stop, stop⟩
      return [last]
  | previous, words, tryLast, run :: rest =>
      let next := rest.head?
      if run.isGap then
        if isDoubledSpace stickyRules previous next run then
          .error (.emptyTerminal, run.span)
        else splitFrom stickyRules stop (some run) words tryLast rest
      else
        let spaced := previous.any Run.isGap && next.any Run.isGap
        if spaced && run.isSeparator stickyRules then do
          let alternative ← close words tryLast run.span
          let others ←
            splitFrom stickyRules stop (some run) [] (tryLast || run.isDoubleBar) rest
          return alternative :: others
        else
          splitFrom stickyRules stop (some run) (⟨run.text, run.start⟩ :: words) tryLast rest

/-- The alternatives of a right-hand side without blanks at its ends. -/
def split (rightSide : Text) (stickyRules : Bool) : Except Located (List RawAlternative) :=
  splitFrom stickyRules (Text.byteLength rightSide) none [] false (runs 0 rightSide)

/-- All ways to leave out or keep the optional words, the ways that leave out
an earlier word before those that keep it. -/
def expand : List Word → List (List Word)
  | [] => [[]]
  | word :: rest =>
      if word.isOptional then
        expand rest ++ (expand rest).map (word.withoutMarker :: ·)
      else (expand rest).map (word :: ·)

end BnfParsing.RightSide

import BnfParsing.Grammar.Rule

/-!
Contract: what is noted down while a derivation is searched for.

Owns: levels of attention, events with their level, depth and wording, log
records, and computations that note events and may end early.

Does not own: when an event happens.
-/

set_option autoImplicit false

namespace BnfParsing

/-- How much is noted down, and how much a note matters. -/
inductive LogLevel where
  | off
  | error
  | warn
  | info
  | debug
  | trace
deriving DecidableEq, Repr

namespace LogLevel

/-- A higher rank takes more notes. -/
def rank : LogLevel → Nat
  | .off => 0
  | .error => 1
  | .warn => 2
  | .info => 3
  | .debug => 4
  | .trace => 5

/-- Whether a note of level `noted` is taken at this level. -/
def takes (level noted : LogLevel) : Bool :=
  noted.rank ≤ level.rank

/-- The name of a level. -/
def name : LogLevel → Text
  | .off => "OFF".toList
  | .error => "ERROR".toList
  | .warn => "WARN".toList
  | .info => "INFO".toList
  | .debug => "DEBUG".toList
  | .trace => "TRACE".toList

end LogLevel

/-- A note with its level and the part of the program that took it. -/
structure LogRecord where
  level : LogLevel
  target : Text
  message : Text
deriving DecidableEq, Repr

/-- Something that happens at a depth of nested rules. -/
inductive Event where
  /-- A rule is applied to the front of a text. -/
  | considering (depth : Nat) (input : Text) (rule : Rule)
  /-- An alternative of the rule is attempted. -/
  | attempting (depth : Nat) (alternative : Alternative)
  /-- The attempt matched without reaching the end of the text. -/
  | leftOver (depth : Nat) (rest : Text) (alternative : Alternative)
  /-- Every attempt failed. -/
  | noAlternative (depth : Nat) (rule : Text)
  /-- The chosen attempt matched nothing. -/
  | nothingConsumed (depth : Nat) (rule : Text)
  /-- A rule that the alternative refers to failed. -/
  | nestedFailure (depth : Nat) (name : Text) (alternative : Alternative)
  /-- A symbol of the alternative did not match. -/
  | mismatch (depth : Nat) (symbol : Symbol) (alternative : Alternative)
deriving DecidableEq

namespace Event

/-- How much the event matters. -/
def level : Event → LogLevel
  | .considering _ _ _ => .debug
  | .attempting _ _ => .trace
  | .leftOver _ _ _ => .debug
  | .noAlternative _ _ => .debug
  | .nothingConsumed _ _ => .debug
  | .nestedFailure _ _ _ => .debug
  | .mismatch _ _ _ => .trace

/-- The number of rules around the event. -/
def depth : Event → Nat
  | .considering depth _ _ => depth
  | .attempting depth _ => depth
  | .leftOver depth _ _ => depth
  | .noAlternative depth _ => depth
  | .nothingConsumed depth _ => depth
  | .nestedFailure depth _ _ => depth
  | .mismatch depth _ _ => depth

/-- What is said of the event. -/
def wording : Event → Text
  | .considering _ input rule =>
      "considering '".toList ++ input ++ "' with rule ".toList ++ rule.display
  | .attempting _ alternative => "alternative ".toList ++ alternative.display
  | .leftOver _ rest alternative =>
      ['\''] ++ rest ++ "' left over after ".toList ++ alternative.display
  | .noAlternative _ rule => "FAILED: no alternative of ".toList ++ rule ++ " matched".toList
  | .nothingConsumed _ rule =>
      "FAILED: ".toList ++ rule ++ " matched without consuming input".toList
  | .nestedFailure _ name alternative =>
      "FAILED: ".toList ++ name ++ " in ".toList ++ alternative.display
  | .mismatch _ symbol alternative =>
      "FAILED: ".toList ++ symbol.name ++ " does not match in ".toList
        ++ alternative.display

/-- What is said of the event, indented by two spaces per depth. -/
def message (event : Event) : Text :=
  Text.spaces (event.depth * 2) ++ event.wording

/-- The record of the event. -/
def record (event : Event) : LogRecord :=
  ⟨event.level, "bnf_interp::parser".toList, event.message⟩

end Event

/-- A defect of a grammar that ends a search at once. -/
inductive Defect where
  /-- A rule is referred to that does not exist. -/
  | missingRule (name : Text)
  /-- Rules are nested more deeply than the limit allows. -/
  | limitReached (limit : Nat)
deriving DecidableEq, Repr

/-- The events of a computation, and its result unless a defect ended it. -/
structure Traced (α : Type) where
  events : List Event
  result : Except Defect α

namespace Traced

/-- Goes on with the result, if there is one; events follow each other. -/
def andThen {α β : Type} (first : Traced α) (next : α → Traced β) : Traced β :=
  match first.result with
  | .error defect => ⟨first.events, .error defect⟩
  | .ok value =>
      let second := next value
      ⟨first.events ++ second.events, second.result⟩

instance : Monad Traced where
  pure value := ⟨[], .ok value⟩
  bind := andThen

/-- Ends the computation. -/
def defect {α : Type} (defect : Defect) : Traced α :=
  ⟨[], .error defect⟩

/-- Notes an event that the level takes. -/
def note (level : LogLevel) (event : Event) : Traced Unit :=
  ⟨if level.takes event.level then [event] else [], .ok ()⟩

end Traced

end BnfParsing

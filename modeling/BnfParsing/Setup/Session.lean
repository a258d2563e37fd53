import BnfParsing.Setup

/-!
Contract: a setup that is changed and asked, one request after the other.

A change that fails leaves the setup as it is. A question goes to the parser that
would be built at the time and never changes the setup.

Owns: requests, their answers, and sessions.

Does not own: what a change does, or how answers are written.
-/

set_option autoImplicit false

namespace BnfParsing.Setup

/-- A question to the parser of a setup. -/
inductive Query where
  /-- The tree of an input. -/
  | parse (input : Text)
  /-- The tree of an input, if there is one. -/
  | tryParse (input : Text)
  /-- The rule of a name, if there is one. -/
  | rule (name : Text)
  /-- All rules. -/
  | grammar

inductive Request where
  | change (step : Step)
  | ask (query : Query)

/-- What a request comes to. Where a setup is changed, or should have been, the
answer shows what the setup can be built into afterwards. -/
inductive Answer where
  | changed (notes : List LogRecord) (built : Except Failure Parser)
  | refused (failure : Failure) (built : Except Failure Parser)
  | parsed (events : List Event) (outcome : Except Failure Tree)
  | tried (events : List Event) (outcome : Except Defect (Option Tree))
  | rule (found : Option Rule)
  | grammar (grammar : Grammar)

/-- Whether an answer is an error. -/
def Answer.isFailure : Answer → Bool
  | .refused _ _ => true
  | .parsed _ (.error _) => true
  | .tried _ (.error _) => true
  | _ => false

/-- The answer to a question, which fails if there is no parser to ask. -/
def answer (setup : Setup) (query : Query) : Answer :=
  match setup.build with
  | .error failure => .refused failure setup.build
  | .ok parser =>
      match query with
      | .parse input =>
          let (events, outcome) := parser.parse input
          .parsed events outcome
      | .tryParse input =>
          let traced := parser.tryParse input
          .tried traced.events traced.result
      | .rule name => .rule (parser.grammar.rule? name)
      | .grammar => .grammar parser.grammar

/-- The setup after a request, with the answer. -/
def respond (setup : Setup) : Request → Setup × Answer
  | .change step =>
      let next := setup.after step
      (next,
        match setup.perform step with
        | .ok (_, notes) => .changed notes next.build
        | .error failure => .refused failure next.build)
  | .ask query => (setup, setup.answer query)

/-- The setup after requests, with their answers. -/
def session (setup : Setup) : List Request → Setup × List Answer
  | [] => (setup, [])
  | request :: requests =>
      let (next, answer) := setup.respond request
      let (final, answers) := next.session requests
      (final, answer :: answers)

end BnfParsing.Setup

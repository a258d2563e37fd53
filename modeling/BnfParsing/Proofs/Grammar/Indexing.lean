import BnfParsing.Grammar.Index
import BnfParsing.Proofs.Grammar.Editing
import BnfParsing.Proofs.Setup.Build

/-!
Contract: rules and their index stay in step under all changes.

Owns:
- the place of a name in a grammar;
- when indexed rules stand for a grammar, and that every change keeps it so;
- what rules and index hold after any changes, from the rules that were given.

Does not own: what a change does to the alternatives of a rule.
-/

set_option autoImplicit false

namespace BnfParsing

namespace Grammar

variable {grammar : Grammar} {name : Text} {position : Nat}

/-! ## Places of names -/

theorem position?_eq_findIdx? (grammar : Grammar) (name : Text) :
    grammar.position? name = grammar.names.findIdx? (· == name) := by
  rw [position?, names, List.findIdx?_map]
  rfl

theorem position?_eq_none : grammar.position? name = none ↔ ¬ grammar.Defines name := by
  simp [position?, Defines]

/-- Names are distinct, so a name is found where a rule has it. -/
theorem position?_eq_some :
    grammar.position? name = some position ↔
      ∃ rule, grammar.rules[position]? = some rule ∧ rule.name = name := by
  have named : (∃ rule, grammar.rules[position]? = some rule ∧ rule.name = name) ↔
      grammar.names[position]? = some name := by
    rw [names, List.getElem?_map, Option.map_eq_some_iff]
  rw [position?_eq_findIdx?, named, List.findIdx?_eq_some_iff_getElem, List.getElem?_eq_some_iff]
  constructor
  · rintro ⟨within, sameName, -⟩
    exact ⟨within, by simpa using sameName⟩
  · rintro ⟨within, sameName⟩
    refine ⟨within, by simpa using sameName, fun earlier before earlierSame => ?_⟩
    -- an earlier rule of the name would be a second one
    have nodup : grammar.names.Nodup := grammar.names_nodup
    have samePlace : earlier = position :=
      nodup.getElem_inj_iff.mp ((beq_iff_eq.mp earlierSame).trans sameName.symm)
    omega

theorem position?_edit (edited : Text) (change : List Alternative → List Alternative) :
    (grammar.edit edited change).position? name = grammar.position? name := by
  rw [position?_eq_findIdx?, position?_eq_findIdx?, names_edit]

/-- A rule that is added at the end is the last one. -/
theorem position?_of_rules_concat {longer : Grammar} {rule : Rule}
    (rules : longer.rules = grammar.rules ++ [rule]) (undefined : ¬ grammar.Defines rule.name) :
    longer.position? name =
      if rule.name = name then some grammar.rules.length else grammar.position? name := by
  have behind : longer.position? name =
      (grammar.position? name).or
        (if rule.name = name then some grammar.rules.length else none) := by
    rw [position?, rules, List.findIdx?_append, ← position?]
    by_cases sameName : rule.name = name <;> simp [sameName]
  rw [behind]
  by_cases sameName : rule.name = name
  · rw [if_pos sameName, if_pos sameName, position?_eq_none.mpr (sameName ▸ undefined), Option.none_or]
  · rw [if_neg sameName, if_neg sameName, Option.or_none]

/-- Editing the rule of a name is editing the rule at its place. -/
theorem rules_edit_eq_modify (found : grammar.position? name = some position)
    (change : List Alternative → List Alternative) :
    (grammar.edit name change).rules =
      grammar.rules.modify position
        fun rule => { rule with alternatives := change rule.alternatives } := by
  rw [rules_edit]
  refine List.ext_getElem? fun index => ?_
  rw [List.getElem?_modify, List.getElem?_map]
  cases atIndex : grammar.rules[index]? with
  | none => rfl
  | some rule =>
      have samePlace : rule.name = name ↔ position = index := by
        have rulePosition := position?_eq_some.mpr ⟨rule, atIndex, rfl⟩
        constructor
        · rintro rfl
          exact Option.some.inj (found.symm.trans rulePosition)
        · rintro rfl
          obtain ⟨other, otherAtIndex, otherName⟩ := position?_eq_some.mp found
          rw [atIndex, Option.some.injEq] at otherAtIndex
          rw [otherAtIndex, otherName]
      simp only [samePlace, Option.map_some, Option.map_eq_map]

end Grammar

namespace IndexedRules

variable {indexed : IndexedRules} {grammar : Grammar} {name : Text}

/-! ## Both parts in step -/

/-- The rules are those of a grammar, and the index gives the places of their
names and of nothing else. -/
structure Represents (indexed : IndexedRules) (grammar : Grammar) : Prop where
  rules_eq : indexed.rules = grammar.rules
  position_eq : ∀ name, indexed.position? name = grammar.position? name

namespace Represents

theorem empty : IndexedRules.empty.Represents Grammar.empty :=
  ⟨rfl, fun _ => Std.HashMap.getElem?_empty⟩

theorem rule?_eq (represents : indexed.Represents grammar) (name : Text) :
    indexed.rule? name = grammar.rule? name := by
  rw [IndexedRules.rule?, represents.position_eq, represents.rules_eq]
  cases found : grammar.position? name with
  | none => exact (Grammar.rule?_eq_none.mpr (Grammar.position?_eq_none.mp found)).symm
  | some position =>
      obtain ⟨rule, atPosition, rfl⟩ := Grammar.position?_eq_some.mp found
      rw [Option.bind_some, atPosition, Grammar.rule?_of_mem (List.mem_of_getElem? atPosition)]

theorem modify?_of_defines (represents : indexed.Represents grammar)
    (defined : grammar.Defines name) (change : List Alternative → List Alternative) :
    ∃ changed,
      indexed.modify? name (fun rule => { rule with alternatives := change rule.alternatives }) =
        some changed ∧ changed.Represents (grammar.edit name change) := by
  cases found : grammar.position? name with
  | none => exact absurd defined (Grammar.position?_eq_none.mp found)
  | some position =>
      refine ⟨_, by rw [modify?, represents.position_eq, found, Option.map_some], ?_,
        fun other => ?_⟩
      · rw [represents.rules_eq, Grammar.rules_edit_eq_modify found]
      · rw [Grammar.position?_edit, ← represents.position_eq]
        rfl

theorem modify?_of_not_defines (represents : indexed.Represents grammar)
    (undefined : ¬ grammar.Defines name) (change : Rule → Rule) :
    indexed.modify? name change = none := by
  rw [modify?, represents.position_eq, Grammar.position?_eq_none.mpr undefined, Option.map_none]

theorem push (represents : indexed.Represents grammar) {rule : Rule} {longer : Grammar}
    (rules : longer.rules = grammar.rules ++ [rule]) (undefined : ¬ grammar.Defines rule.name) :
    (indexed.push rule).Represents longer := by
  refine ⟨?_, fun name => ?_⟩
  · rw [rules, ← represents.rules_eq]
    rfl
  · rw [Grammar.position?_of_rules_concat rules undefined, ← represents.position_eq,
      ← represents.rules_eq, position?, IndexedRules.push, Std.HashMap.getElem?_insert]
    simp only [beq_iff_eq, position?]

/-- A rule is merged in step: it changes the one of its name or goes to the end. -/
theorem merge (represents : indexed.Represents grammar) (rule : Rule)
    (place : List Alternative → List Alternative → List Alternative) :
    ((indexed.modify? rule.name fun existing =>
        { existing with alternatives := place rule.alternatives existing.alternatives }).getD
      (indexed.push rule)).Represents (grammar.merge rule place) := by
  by_cases defined : grammar.Defines rule.name
  · obtain ⟨changed, modified, stillRepresents⟩ :=
      represents.modify?_of_defines defined (place rule.alternatives)
    rw [modified, Option.getD_some, Grammar.merge_of_defines defined]
    exact stillRepresents
  · rw [represents.modify?_of_not_defines defined, Option.getD_none]
    exact represents.push (Grammar.rules_merge_of_not_defines defined place) defined

theorem add (represents : indexed.Represents grammar) (rule : Rule) :
    (indexed.add rule).Represents (grammar.add rule) :=
  represents.merge rule fun added existing => existing ++ added

theorem extend (represents : indexed.Represents grammar) (rules : List Rule) :
    (indexed.extend rules).Represents (grammar.extend rules) := by
  induction rules generalizing indexed grammar with
  | nil => exact represents
  | cons rule rules inductionHypothesis => exact inductionHypothesis (represents.add rule)

/-- An edit of a rule happens in step, and is nothing without the rule. -/
theorem edit (represents : indexed.Represents grammar) (name : Text)
    (change : List Alternative → List Alternative) :
    ((indexed.modify? name fun rule =>
        { rule with alternatives := change rule.alternatives }).getD indexed).Represents
      (grammar.edit name change) := by
  by_cases defined : grammar.Defines name
  · obtain ⟨changed, modified, stillRepresents⟩ := represents.modify?_of_defines defined change
    rw [modified, Option.getD_some]
    exact stillRepresents
  · rw [represents.modify?_of_not_defines defined, Option.getD_none,
      Grammar.edit_of_not_defines defined]
    exact represents

theorem addCase_of_not_defines (represents : indexed.Represents grammar)
    (undefined : ¬ grammar.Defines name) (position : Nat) (case : Alternative) :
    indexed.addCase position name case = (indexed, false) := by
  rw [IndexedRules.addCase, represents.modify?_of_not_defines undefined]

theorem addCase_of_defines (represents : indexed.Represents grammar)
    (defined : grammar.Defines name) (position : Nat) (case : Alternative) :
    ∃ changed, indexed.addCase position name case = (changed, true) ∧
      changed.Represents (grammar.addCase position name case).1 := by
  obtain ⟨changed, modified, stillRepresents⟩ :=
    represents.modify?_of_defines defined (Rule.insertAt position [case])
  refine ⟨changed, ?_, ?_⟩
  · simp only [IndexedRules.addCase, Rule.insert, modified]
  · rw [Grammar.addCase_of_defines defined]
    exact stillRepresents

theorem perform (represents : indexed.Represents grammar) (edit : Grammar.Edit) :
    (indexed.perform edit).Represents (grammar.perform edit) := by
  cases edit with
  | add rule => exact represents.add rule
  | insert position rule => exact represents.merge rule (Rule.insertAt position)
  | extend rules => exact represents.extend rules
  | addCase position name case =>
      by_cases defined : grammar.Defines name
      · obtain ⟨changed, added, stillRepresents⟩ :=
          represents.addCase_of_defines defined position case
        rw [IndexedRules.perform, added]
        exact stillRepresents
      · rw [IndexedRules.perform, Grammar.perform,
          represents.addCase_of_not_defines defined, Grammar.addCase_of_not_defines defined]
        exact represents
  | appendTo name added => exact represents.edit name (· ++ added)
  | insertInto position name added => exact represents.edit name (Rule.insertAt position added)

theorem run (represents : indexed.Represents grammar) (edits : List Grammar.Edit) :
    (indexed.run edits).Represents (grammar.run edits) := by
  induction edits generalizing indexed grammar with
  | nil => exact represents
  | cons edit edits inductionHypothesis => exact inductionHypothesis (represents.perform edit)

end Represents

/-- Collecting rules and changing them goes in step. -/
theorem represents_run (collected : List Rule) (edits : List Grammar.Edit) :
    ((ofList collected).run edits).Represents ((Grammar.ofList collected).run edits) :=
  (Represents.empty.extend collected).run edits

end IndexedRules

/-- After any changes of collected rules the index gives the place of each name
and of nothing else, and names are distinct and in the order of their first
definition, so by default a parser starts from the first rule that was added. The
alternatives of a name are those given for it, placed as on a plain list; a case
for a name without a rule changes nothing. -/
theorem Grammar.run_exact (collected : List Rule) (edits : List Grammar.Edit) :
    let indexed := (IndexedRules.ofList collected).run edits
    let grammar := (Grammar.ofList collected).run edits
    let placements := Grammar.placementsOf collected edits
    indexed.rules = grammar.rules ∧
      (∀ name, indexed.rule? name = grammar.rule? name) ∧
      (∀ name position, indexed.positions[name]? = some position ↔
        ∃ rule : Rule, indexed.rules[position]? = some rule ∧ rule.name = name) ∧
      (indexed.rules.map Rule.name).Nodup ∧
      indexed.rules.map Rule.name = (Placement.definedNames placements).eraseDups ∧
      (∀ setup : Setup, setup.grammar = grammar → setup.start = none →
        setup.build.map (fun parser => parser.start.name) =
          match (Placement.definedNames placements).head? with
          | some first => .ok first
          | none => .error .noStartRule) ∧
      (∀ name, (indexed.rule? name).map Rule.alternatives = Placement.replay placements name) ∧
      (∀ rule ∈ indexed.rules,
        rule.alternatives.Perm (Placement.given placements rule.name)) ∧
      (∀ name ∈ Placement.definedNames placements, ∀ position case,
        (indexed.addCase position name case).2 = true ∧
          (grammar.addCase position name case).2 = true) ∧
      ∀ name, name ∉ Placement.definedNames placements → ∀ position case,
        indexed.addCase position name case = (indexed, false) ∧
          grammar.addCase position name case = (grammar, false) := by
  intro indexed grammar placements
  have represents : indexed.Represents grammar := IndexedRules.represents_run collected edits
  have replays : grammar.Replays placements := Grammar.replays_run collected edits
  have names : indexed.rules.map Rule.name = grammar.names := by
    rw [represents.rules_eq, Grammar.names]
  refine ⟨represents.rules_eq, represents.rule?_eq, fun name position => ?_, ?_, ?_, ?_,
    fun name => ?_, ?_, fun name defined position case => ?_,
    fun name undefined position case => ?_⟩
  · rw [represents.rules_eq, ← Grammar.position?_eq_some, ← represents.position_eq]
    rfl
  · rw [names]
    exact grammar.names_nodup
  · rw [names, replays.names_eq]
  · intro setup sameGrammar unchosen
    have startName := setup.startName_build
    rw [Setup.startRule?_map_name, Setup.startFailure, unchosen, sameGrammar,
      replays.head?_names] at startName
    exact startName
  · rw [represents.rule?_eq, ← replays.alternatives_eq, Grammar.alternatives?]
  · rw [represents.rules_eq]
    exact fun rule member => replays.alternatives_perm member
  · have hasRule := replays.defines_iff.mpr defined
    obtain ⟨changed, added, -⟩ := represents.addCase_of_defines hasRule position case
    rw [added, Grammar.addCase_of_defines hasRule]
    exact ⟨rfl, rfl⟩
  · have noRule := mt replays.defines_iff.mp undefined
    exact ⟨represents.addCase_of_not_defines noRule position case,
      Grammar.addCase_of_not_defines noRule position case⟩

/-- A case of one letter. -/
def Alternative.ofLetter (letter : Char) : Alternative where
  symbols := [.terminal [letter] true]

/-- Rules of which two have the same name. -/
def Grammar.collectedLetters : List Rule :=
  [⟨"<s>".toList, [.ofLetter 'a']⟩, ⟨"<t>".toList, [.ofLetter 'b', .ofLetter 'c']⟩,
    ⟨"<s>".toList, [.ofLetter 'd']⟩]

/-- Changes at the front, in the middle and behind the end of a rule, and a case
that comes before its rule. -/
def Grammar.letterEdits : List Grammar.Edit :=
  [.insert 1 ⟨"<t>".toList, [.ofLetter 'e', .ofLetter 'f']⟩,
    .addCase 0 "<u>".toList (.ofLetter 'g'), .add ⟨"<u>".toList, [.ofLetter 'h']⟩,
    .addCase 9 "<s>".toList (.ofLetter 'i'), .appendTo "<u>".toList [.ofLetter 'j'],
    .insertInto 0 "<s>".toList [.ofLetter 'k']]

theorem Grammar.letterEdits_run_exact :
    let indexed := (IndexedRules.ofList collectedLetters).run letterEdits
    let setup : Setup := { grammar := (Grammar.ofList collectedLetters).run letterEdits }
    indexed.rules.map Rule.name = ["<s>".toList, "<t>".toList, "<u>".toList] ∧
      setup.build.map (fun parser => parser.start.name) = .ok "<s>".toList ∧
      (indexed.rule? "<s>".toList).map Rule.alternatives =
        some (['k', 'a', 'd', 'i'].map .ofLetter) ∧
      (indexed.rule? "<t>".toList).map Rule.alternatives =
        some (['b', 'e', 'f', 'c'].map .ofLetter) ∧
      (indexed.rule? "<u>".toList).map Rule.alternatives = some (['h', 'j'].map .ofLetter) ∧
      indexed.addCase 0 "<v>".toList (.ofLetter 'l') = (indexed, false) := by
  intro indexed setup
  obtain ⟨-, -, -, -, names, start, alternatives, -, -, unknown⟩ :=
    run_exact collectedLetters letterEdits
  refine ⟨names.trans (by decide), (start setup rfl rfl).trans rfl,
    (alternatives _).trans (by decide), (alternatives _).trans (by decide),
    (alternatives _).trans (by decide), (unknown _ (by decide) _ _).1⟩

end BnfParsing

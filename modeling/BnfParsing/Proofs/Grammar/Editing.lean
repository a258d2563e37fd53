import BnfParsing.Grammar.Edit
import BnfParsing.Proofs.Grammar.References
import Mathlib.Data.List.Induction

/-!
Contract: what a grammar holds after any changes.

Every change comes down to placing blocks of alternatives: a block goes to the
rule of a name, to its end or to a position, and may make the rule if there is
none. So the alternatives of a rule can be had from the blocks for its name
alone, on a plain list.

Owns:
- placements, and the changes in terms of them;
- the names and the alternatives of a grammar after placements;
- that no alternative is lost or comes up twice on the way.

Does not own: how the rule of a name is found.
-/

set_option autoImplicit false

namespace BnfParsing

/-! ## Placements on a plain list -/

/-- A block of alternatives for the rule of a name. -/
structure Placement where
  name : Text
  block : List Alternative
  /-- Where the block goes among the alternatives; without a position to the end. -/
  position : Option Nat
  /-- Whether the block becomes a rule if there is none of the name. -/
  defines : Bool

namespace Placement

variable {name : Text} {placements : List Placement} {placement : Placement}
variable {alternatives : List Alternative}

/-- The list with the block as a whole at its position, or at the end if the list
is shorter. -/
def applyTo (placement : Placement) (existing : List Alternative) : List Alternative :=
  match placement.position with
  | none => existing ++ placement.block
  | some position =>
      let cut := min position existing.length
      existing.take cut ++ placement.block ++ existing.drop cut

/-- What a placement makes of the alternatives of a name, if it has any rule. -/
def step (name : Text) (current : Option (List Alternative)) (placement : Placement) :
    Option (List Alternative) :=
  if placement.name = name then
    match current with
    | some existing => some (placement.applyTo existing)
    | none => if placement.defines then some placement.block else none
  else current

/-- The alternatives of a name after placements from nothing. -/
def replay (placements : List Placement) (name : Text) : Option (List Alternative) :=
  placements.foldl (step name) none

/-- The names that placements define, in order and as often as they do. -/
def definedNames (placements : List Placement) : List Text :=
  (placements.filter Placement.defines).map Placement.name

/-- The placements for a name from the first one on that defines it. -/
def effective (placements : List Placement) (name : Text) : List Placement :=
  (placements.filter fun placement => placement.name == name).dropWhile
    fun placement => !placement.defines

/-- The alternatives given for a name since it is defined. -/
def given (placements : List Placement) (name : Text) : List Alternative :=
  (effective placements name).flatMap Placement.block

theorem step_of_name_ne {current : Option (List Alternative)} (otherName : placement.name ≠ name) :
    step name current placement = current :=
  if_neg otherName

theorem step_none :
    step placement.name none placement =
      if placement.defines then some placement.block else none :=
  if_pos rfl

theorem step_some (existing : List Alternative) :
    step placement.name (some existing) placement = some (placement.applyTo existing) :=
  if_pos rfl

theorem replay_concat :
    replay (placements ++ [placement]) name = step name (replay placements name) placement := by
  rw [replay, replay, List.foldl_append]
  rfl

theorem definedNames_concat :
    definedNames (placements ++ [placement]) =
      definedNames placements ++ if placement.defines then [placement.name] else [] := by
  rw [definedNames, definedNames, List.filter_append, List.map_append]
  cases defines : placement.defines <;> simp [defines]

theorem effective_concat :
    effective (placements ++ [placement]) name =
      effective placements name ++
        if placement.name = name ∧ (effective placements name ≠ [] ∨ placement.defines)
          then [placement] else [] := by
  rw [effective, effective, List.filter_append, List.dropWhile_append]
  generalize (placements.filter fun placement => placement.name == name).dropWhile
    (fun placement => !placement.defines) = earlier
  by_cases sameName : placement.name = name
  · cases defines : placement.defines <;> cases earlier <;> simp [sameName, defines]
  · cases earlier <;> simp [sameName]

/-- A name has no alternatives as long as no placement for it takes effect. -/
theorem replay_eq_none_iff_effective :
    replay placements name = none ↔ effective placements name = [] := by
  induction placements using List.reverseRecOn with
  | nil => simp [replay, effective]
  | append_singleton placements placement inductionHypothesis =>
      rw [replay_concat, effective_concat]
      by_cases sameName : placement.name = name
      · subst sameName
        cases current : replay placements placement.name with
        | none =>
            have noEffect := inductionHypothesis.mp current
            rw [step_none]
            cases placement.defines <;> simp [noEffect]
        | some existing =>
            have effect : effective placements placement.name ≠ [] := by
              intro noEffect
              simp [inductionHypothesis.mpr noEffect] at current
            rw [step_some]
            simp [effect]
      · rw [step_of_name_ne sameName]
        simp [sameName, inductionHypothesis]

theorem applyTo_perm (placement : Placement) (existing : List Alternative) :
    (placement.applyTo existing).Perm (existing ++ placement.block) := by
  unfold applyTo
  cases placement.position with
  | none => exact .refl _
  | some position =>
      simp only
      generalize min position existing.length = cut
      have moved : (existing.take cut ++ (placement.block ++ existing.drop cut)).Perm
          (existing.take cut ++ (existing.drop cut ++ placement.block)) :=
        List.perm_append_comm.append_left _
      rwa [← List.append_assoc, ← List.append_assoc, List.take_append_drop] at moved

/-- A placement only puts alternatives between those that are there. -/
theorem sublist_applyTo (placement : Placement) (existing : List Alternative) :
    existing.Sublist (placement.applyTo existing) := by
  unfold applyTo
  cases placement.position with
  | none => exact List.sublist_append_left existing placement.block
  | some position =>
      simp only
      generalize min position existing.length = cut
      have split : (existing.take cut ++ existing.drop cut).Sublist
          (existing.take cut ++ placement.block ++ existing.drop cut) :=
        (List.sublist_append_left _ _).append (List.Sublist.refl _)
      rwa [List.take_append_drop] at split

/-- Replaying keeps every alternative given for the name, each as often as it is
given. -/
theorem perm_given (replayed : replay placements name = some alternatives) :
    alternatives.Perm (given placements name) := by
  induction placements using List.reverseRecOn generalizing alternatives with
  | nil => simp [replay] at replayed
  | append_singleton placements placement inductionHypothesis =>
      rw [replay_concat] at replayed
      rw [given, effective_concat, List.flatMap_append, ← given]
      by_cases sameName : placement.name = name
      · subst sameName
        cases current : replay placements placement.name with
        | none =>
            have noEffect := replay_eq_none_iff_effective.mp current
            rw [current, step_none, Option.ite_none_right_eq_some, Option.some.injEq] at replayed
            simp [given, noEffect, replayed]
        | some existing =>
            have effect : effective placements placement.name ≠ [] := by
              intro noEffect
              simp [replay_eq_none_iff_effective.mpr noEffect] at current
            rw [current, step_some, Option.some.injEq] at replayed
            rw [if_pos ⟨rfl, .inl effect⟩, List.flatMap_singleton, ← replayed]
            exact (applyTo_perm placement existing).trans
              ((inductionHypothesis current).append_right _)
      · rw [step_of_name_ne sameName] at replayed
        rw [if_neg (fun both => sameName both.1), List.flatMap_nil, List.append_nil]
        exact inductionHypothesis replayed

/-- Cutting a list behind its end is cutting it at its end. -/
theorem applyTo_eq_insertAt (name : Text) (block : List Alternative) (position : Nat)
    (defines : Bool) :
    (Placement.mk name block (some position) defines).applyTo =
      Rule.insertAt position block := by
  funext existing
  rw [Rule.insertAt, List.take_eq_take_min, List.drop_eq_drop_min]
  rfl

/-- A whole rule, for the end of the rule of its name. -/
def ofRule (rule : Rule) : Placement :=
  ⟨rule.name, rule.alternatives, none, true⟩

end Placement

namespace Grammar

variable {grammar : Grammar} {name : Text} {placement : Placement}

/-! ## Look-up after a change -/

/-- The names of the rules, in order. -/
def names (grammar : Grammar) : List Text :=
  grammar.rules.map Rule.name

theorem mem_names : name ∈ grammar.names ↔ grammar.Defines name := by
  rw [names, List.mem_map, Defines]

/-- The alternatives of a name, if it has a rule. -/
def alternatives? (grammar : Grammar) (name : Text) : Option (List Alternative) :=
  (grammar.rule? name).map Rule.alternatives

theorem alternatives?_eq_none : grammar.alternatives? name = none ↔ ¬ grammar.Defines name := by
  rw [alternatives?, Option.map_eq_none_iff, rule?_eq_none]

/-- The rule of a name, from its alternatives. -/
theorem rule?_eq_map_alternatives? (grammar : Grammar) (name : Text) :
    grammar.rule? name = (grammar.alternatives? name).map (Rule.mk name) := by
  rw [alternatives?]
  cases found : grammar.rule? name with
  | none => rfl
  | some rule =>
      obtain ⟨-, rfl⟩ := rule?_eq_some found
      rfl

theorem rules_edit (edited : Text) (change : List Alternative → List Alternative) :
    (grammar.edit edited change).rules = grammar.rules.map fun rule =>
      if rule.name = edited then { rule with alternatives := change rule.alternatives }
      else rule := rfl

theorem names_edit (edited : Text) (change : List Alternative → List Alternative) :
    (grammar.edit edited change).names = grammar.names := by
  rw [names, names, rules_edit, List.map_map]
  refine List.map_congr_left fun rule _ => ?_
  simp only [Function.comp_apply]
  split <;> rfl

theorem alternatives?_edit (edited : Text) (change : List Alternative → List Alternative) :
    (grammar.edit edited change).alternatives? name =
      if edited = name then (grammar.alternatives? name).map change
      else grammar.alternatives? name := by
  have keepsName : (fun rule : Rule => rule.name == name) ∘ (fun rule : Rule =>
      if rule.name = edited then { rule with alternatives := change rule.alternatives }
      else rule) = fun rule => rule.name == name := by
    funext rule
    rw [Function.comp_apply]
    split <;> rfl
  rw [alternatives?, alternatives?, rule?, rules_edit, List.find?_map, keepsName, ← rule?]
  cases found : grammar.rule? name with
  | none => simp
  | some rule =>
      obtain ⟨-, rfl⟩ := rule?_eq_some found
      by_cases sameName : rule.name = edited
      · simp [sameName]
      · simp [sameName, Ne.symm sameName]

theorem rule?_edit_of_ne {edited : Text} (differs : edited ≠ name)
    (change : List Alternative → List Alternative) :
    (grammar.edit edited change).rule? name = grammar.rule? name := by
  rw [rule?_eq_map_alternatives?, rule?_eq_map_alternatives?, alternatives?_edit, if_neg differs]

theorem rule?_edit_self {rule : Rule} (member : rule ∈ grammar.rules)
    (change : List Alternative → List Alternative) :
    (grammar.edit rule.name change).rule? rule.name =
      some ⟨rule.name, change rule.alternatives⟩ := by
  rw [rule?_eq_map_alternatives?, alternatives?_edit, if_pos rfl, alternatives?,
    rule?_of_mem member]
  rfl

theorem ext_rules {other : Grammar} (sameRules : grammar.rules = other.rules) :
    grammar = other := by
  cases grammar
  cases other
  cases sameRules
  rfl

theorem edit_of_not_defines (undefined : ¬ grammar.Defines name)
    (change : List Alternative → List Alternative) : grammar.edit name change = grammar := by
  apply ext_rules
  rw [rules_edit]
  refine (List.map_congr_left fun rule member => if_neg ?_).trans (List.map_id _)
  exact fun sameName => undefined ⟨rule, member, sameName⟩

theorem contains_eq_false_iff : grammar.contains name = false ↔ ¬ grammar.Defines name := by
  rw [← contains_iff_defines, Bool.not_eq_true]

theorem rules_merge_of_not_defines {rule : Rule} (undefined : ¬ grammar.Defines rule.name)
    (place : List Alternative → List Alternative → List Alternative) :
    (grammar.merge rule place).rules = grammar.rules ++ [rule] := by
  rw [merge, dif_pos (contains_eq_false_iff.mpr undefined)]

theorem merge_of_defines {rule : Rule} (defined : grammar.Defines rule.name)
    (place : List Alternative → List Alternative → List Alternative) :
    grammar.merge rule place = grammar.edit rule.name (place rule.alternatives) := by
  rw [merge, dif_neg fun absent => contains_eq_false_iff.mp absent defined]

/-! ## Placements in a grammar -/

/-- The grammar with a block at its place. -/
def place (grammar : Grammar) (placement : Placement) : Grammar :=
  if placement.defines then
    grammar.merge ⟨placement.name, placement.block⟩ fun _ => placement.applyTo
  else grammar.edit placement.name placement.applyTo

/-- A placement makes a rule, or else it is an edit. -/
theorem place_cases (grammar : Grammar) (placement : Placement) :
    (¬ grammar.Defines placement.name ∧ placement.defines = true ∧
      (grammar.place placement).rules =
        grammar.rules ++ [⟨placement.name, placement.block⟩]) ∨
    ((grammar.Defines placement.name ∨ placement.defines = false) ∧
      grammar.place placement = grammar.edit placement.name placement.applyTo) := by
  cases defines : placement.defines with
  | false => exact .inr ⟨.inr rfl, by simp [place, defines]⟩
  | true =>
      rw [place, if_pos defines]
      by_cases defined : grammar.Defines placement.name
      · exact .inr ⟨.inl defined, merge_of_defines defined _⟩
      · exact .inl ⟨defined, rfl, rules_merge_of_not_defines defined _⟩

theorem alternatives?_place (grammar : Grammar) (placement : Placement) (name : Text) :
    (grammar.place placement).alternatives? name =
      Placement.step name (grammar.alternatives? name) placement := by
  rcases place_cases grammar placement with ⟨undefined, defines, rules⟩ | ⟨noRule, edits⟩
  · have absent := alternatives?_eq_none.mpr undefined
    have missing := rule?_eq_none.mpr undefined
    rw [alternatives?, rule?, rules, List.find?_append, ← rule?]
    by_cases sameName : placement.name = name
    · subst sameName
      rw [absent, missing, Placement.step_none, if_pos defines]
      simp
    · rw [Placement.step_of_name_ne sameName, alternatives?]
      cases grammar.rule? name <;> simp [sameName]
  · rw [edits, alternatives?_edit]
    by_cases sameName : placement.name = name
    · subst sameName
      rw [if_pos rfl]
      cases current : grammar.alternatives? placement.name with
      | none =>
          have noDefinition : placement.defines = false :=
            noRule.resolve_left (alternatives?_eq_none.mp current)
          simp [Placement.step_none, noDefinition]
      | some existing => rw [Placement.step_some, Option.map_some]
    · rw [if_neg sameName, Placement.step_of_name_ne sameName]

/-- What a grammar holds after placements from nothing: a rule for each defined
name, in the order of first definition, with the alternatives of a replay. -/
structure Replays (grammar : Grammar) (placements : List Placement) : Prop where
  names_eq : grammar.names = (Placement.definedNames placements).eraseDups
  alternatives_eq : ∀ name, grammar.alternatives? name = Placement.replay placements name

theorem replays_empty : empty.Replays [] := ⟨rfl, fun _ => rfl⟩

theorem eraseDups_concat (names : List Text) (name : Text) :
    (names ++ [name]).eraseDups =
      if name ∈ names then names.eraseDups else names.eraseDups ++ [name] := by
  rw [List.eraseDups_append, List.cons_removeAll]
  by_cases member : name ∈ names <;> simp [member, List.eraseDups_cons]

theorem eraseDups_of_nodup {names : List Text} (distinct : names.Nodup) :
    names.eraseDups = names := by
  induction names using List.reverseRecOn with
  | nil => rfl
  | append_singleton names name inductionHypothesis =>
      rw [← List.concat_eq_append, List.nodup_concat] at distinct
      rw [eraseDups_concat, if_neg distinct.1, inductionHypothesis distinct.2]

/-- Dropping repetitions of the second list alone drops none of the whole. -/
theorem eraseDups_append_eraseDups (first second : List Text) :
    (first ++ second.eraseDups).eraseDups = (first ++ second).eraseDups := by
  induction second using List.reverseRecOn with
  | nil => rfl
  | append_singleton second name inductionHypothesis =>
      rw [eraseDups_concat]
      by_cases known : name ∈ second
      · rw [if_pos known, inductionHypothesis, ← List.append_assoc, eraseDups_concat,
          if_pos (List.mem_append_right first known)]
      · rw [if_neg known, ← List.append_assoc, ← List.append_assoc, eraseDups_concat,
          eraseDups_concat, inductionHypothesis]
        simp [List.mem_eraseDups]

namespace Replays

variable {placements : List Placement}

theorem defines_iff (replays : grammar.Replays placements) :
    grammar.Defines name ↔ name ∈ Placement.definedNames placements := by
  rw [← mem_names, replays.names_eq, List.mem_eraseDups]

/-- One more placement. -/
theorem place (replays : grammar.Replays placements) (placement : Placement) :
    (grammar.place placement).Replays (placements ++ [placement]) := by
  constructor
  · rw [Placement.definedNames_concat]
    rcases place_cases grammar placement with ⟨undefined, defines, rules⟩ | ⟨noRule, edits⟩
    · have absent : placement.name ∉ Placement.definedNames placements :=
        fun member => undefined (replays.defines_iff.mpr member)
      rw [if_pos defines, eraseDups_concat, if_neg absent, ← replays.names_eq, names, rules,
        List.map_append]
      rfl
    · rw [edits, names_edit, replays.names_eq]
      cases defines : placement.defines with
      | false => simp
      | true =>
          have member : placement.name ∈ Placement.definedNames placements :=
            replays.defines_iff.mp (noRule.resolve_right (by simp [defines]))
          rw [if_pos rfl, eraseDups_concat, if_pos member]
  · intro name
    rw [alternatives?_place, replays.alternatives_eq, Placement.replay_concat]

theorem foldl_place (replays : grammar.Replays placements) (more : List Placement) :
    (more.foldl Grammar.place grammar).Replays (placements ++ more) := by
  induction more generalizing grammar placements with
  | nil => rwa [List.append_nil]
  | cons placement more inductionHypothesis =>
      rw [List.append_cons]
      exact inductionHypothesis (replays.place placement)

/-- The first rule is the first one that has been defined. -/
theorem head?_names (replays : grammar.Replays placements) :
    grammar.names.head? = (Placement.definedNames placements).head? := by
  rw [replays.names_eq]
  cases Placement.definedNames placements with
  | nil => rfl
  | cons first rest => rw [List.eraseDups_cons, List.head?_cons, List.head?_cons]

/-- Every alternative given for the name of a rule is there, each as often as it
is given. -/
theorem alternatives_perm (replays : grammar.Replays placements) {rule : Rule}
    (member : rule ∈ grammar.rules) :
    rule.alternatives.Perm (Placement.given placements rule.name) := by
  apply Placement.perm_given
  rw [← replays.alternatives_eq, alternatives?, rule?_of_mem member, Option.map_some]

end Replays

/-! ## Changes as placements -/

/-- The placements of a change. -/
def Edit.placements : Edit → List Placement
  | .add rule => [.ofRule rule]
  | .insert position rule => [⟨rule.name, rule.alternatives, some position, true⟩]
  | .extend rules => rules.map .ofRule
  | .addCase position name case => [⟨name, [case], some position, false⟩]
  | .appendTo name added => [⟨name, added, none, false⟩]
  | .insertInto position name added => [⟨name, added, some position, false⟩]

theorem add_eq_place (grammar : Grammar) (rule : Rule) :
    grammar.add rule = grammar.place (.ofRule rule) := rfl

theorem extend_eq_foldl_place (grammar : Grammar) (rules : List Rule) :
    grammar.extend rules = (rules.map Placement.ofRule).foldl place grammar := by
  rw [List.foldl_map]
  rfl

theorem addCase_of_not_defines (undefined : ¬ grammar.Defines name) (position : Nat)
    (case : Alternative) : grammar.addCase position name case = (grammar, false) := by
  rw [addCase, if_neg]
  rwa [contains_iff_defines]

theorem addCase_of_defines (defined : grammar.Defines name) (position : Nat)
    (case : Alternative) :
    grammar.addCase position name case =
      (grammar.edit name (Rule.insertAt position [case]), true) := by
  rw [addCase, if_pos (contains_iff_defines.mpr defined)]

theorem perform_eq_foldl_place (grammar : Grammar) (edit : Edit) :
    grammar.perform edit = edit.placements.foldl place grammar := by
  cases edit with
  | add rule => rfl
  | insert position rule =>
      simp only [perform, Edit.placements, List.foldl_cons, List.foldl_nil, place, if_true,
        Placement.applyTo_eq_insertAt]
      rfl
  | extend rules => exact extend_eq_foldl_place grammar rules
  | addCase position name case =>
      simp only [perform, Edit.placements, List.foldl_cons, List.foldl_nil, place, if_false,
        Placement.applyTo_eq_insertAt, Bool.false_eq_true]
      by_cases defined : grammar.Defines name
      · rw [addCase_of_defines defined]
      · rw [addCase_of_not_defines defined, edit_of_not_defines defined]
  | appendTo name added => rfl
  | insertInto position name added =>
      simp only [perform, Edit.placements, List.foldl_cons, List.foldl_nil, place, if_false,
        Placement.applyTo_eq_insertAt, Bool.false_eq_true]

theorem run_eq_foldl_place (grammar : Grammar) (edits : List Edit) :
    grammar.run edits = (edits.flatMap Edit.placements).foldl place grammar := by
  induction edits generalizing grammar with
  | nil => rfl
  | cons edit edits inductionHypothesis =>
      rw [List.flatMap_cons, List.foldl_append, ← perform_eq_foldl_place, ← inductionHypothesis]
      rfl

theorem exists_alternatives?_foldl_place {existing : List Alternative}
    (current : grammar.alternatives? name = some existing) (placements : List Placement) :
    ∃ alternatives, (placements.foldl place grammar).alternatives? name = some alternatives ∧
      existing.Sublist alternatives := by
  induction placements generalizing grammar existing with
  | nil => exact ⟨existing, current, List.Sublist.refl existing⟩
  | cons placement placements inductionHypothesis =>
      have placed := alternatives?_place grammar placement name
      rw [current] at placed
      by_cases sameName : placement.name = name
      · rw [← sameName, Placement.step_some, sameName] at placed
        obtain ⟨alternatives, found, sublist⟩ := inductionHypothesis placed
        exact ⟨alternatives, found, (placement.sublist_applyTo existing).trans sublist⟩
      · rw [Placement.step_of_name_ne sameName] at placed
        exact inductionHypothesis placed

/-- Whatever the changes, a rule stays and keeps its alternatives in their order. -/
theorem exists_rule?_run {rule : Rule} (member : rule ∈ grammar.rules) (edits : List Edit) :
    ∃ kept, (grammar.run edits).rule? rule.name = some kept ∧
      rule.alternatives.Sublist kept.alternatives := by
  have current : grammar.alternatives? rule.name = some rule.alternatives := by
    rw [alternatives?, rule?_of_mem member, Option.map_some]
  obtain ⟨alternatives, found, sublist⟩ :=
    exists_alternatives?_foldl_place current (edits.flatMap Edit.placements)
  refine ⟨⟨rule.name, alternatives⟩, ?_, sublist⟩
  rw [run_eq_foldl_place, rule?_eq_map_alternatives?, found, Option.map_some]

/-- The placements of collecting rules and then changing the grammar. -/
def placementsOf (collected : List Rule) (edits : List Edit) : List Placement :=
  collected.map .ofRule ++ edits.flatMap Edit.placements

theorem replays_run (collected : List Rule) (edits : List Edit) :
    ((ofList collected).run edits).Replays (placementsOf collected edits) := by
  rw [run_eq_foldl_place, ofList, extend_eq_foldl_place]
  exact (replays_empty.foldl_place (collected.map .ofRule)).foldl_place _

end Grammar

end BnfParsing

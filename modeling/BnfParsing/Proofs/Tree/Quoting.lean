import BnfParsing.Proofs.Tree.Statements

/-!
Contract: labels inside the quotes of a digraph.

Backslashes are doubled and quotes become entities, but an ampersand stays as it is.
So no label ends its string early, and a label that already spells the entity out is
written like one that holds a quote in its place. No other two labels are written alike.

Owns:
- the labels that are written alike;
- pairs of backslashes, and the quoted strings of a text;
- the quoted strings of a rendered digraph.

Does not own: how a program that draws the graph shows a label.
-/

set_option autoImplicit false

namespace BnfParsing.Digraph

/-! ## Labels that are written alike -/

/-- What stands for a quote inside quotes. -/
def quoteEntity : Text := "&quot;".toList

/-- The text with the quote in place of every entity that spells it out. -/
def readEntities : Text → Text
  | [] => []
  | '&' :: 'q' :: 'u' :: 'o' :: 't' :: ';' :: rest => '"' :: readEntities rest
  | character :: rest => character :: readEntities rest

/-- The text with one backslash in place of every two, and with the quote in place of
its entity. -/
def readLabel : Text → Text
  | [] => []
  | '\\' :: '\\' :: rest => '\\' :: readLabel rest
  | '&' :: 'q' :: 'u' :: 'o' :: 't' :: ';' :: rest => '"' :: readLabel rest
  | character :: rest => character :: readLabel rest

theorem escape_append (front back : Text) :
    escape (front ++ back) = escape front ++ escape back := by
  simp only [escape, Text.replaceChar, List.flatMap_append]

theorem escape_cons (character : Char) (rest : Text) :
    escape (character :: rest) = escape [character] ++ escape rest :=
  escape_append [character] rest

theorem replaceChar_singleton {target character : Char} (differs : character ≠ target)
    (replacement : Text) : Text.replaceChar target replacement [character] = [character] := by
  rw [Text.replaceChar, List.flatMap_singleton, if_neg differs]

theorem escape_plain {character : Char} (notBackslash : character ≠ '\\')
    (notQuote : character ≠ '"') : escape [character] = [character] := by
  rw [escape, replaceChar_singleton notBackslash, replaceChar_singleton notQuote]

/-- No escape starts with one of these characters, so they stand for themselves. -/
theorem prefix_of_prefix_escape {word : Text} (plain : ∀ character ∈ word,
    character ≠ '\\' ∧ character ≠ '&') {text : Text} (isPrefix : word <+: escape text) :
    word <+: text := by
  induction word generalizing text with
  | nil => exact List.nil_prefix
  | cons first word inductionHypothesis =>
      rw [List.forall_mem_cons] at plain
      cases text with
      | nil => exact absurd (List.prefix_nil.mp isPrefix) (List.cons_ne_nil first word)
      | cons character rest =>
          rw [escape_cons] at isPrefix
          by_cases isBackslash : character = '\\'
          · subst isBackslash
            exact absurd (List.cons_prefix_cons.mp isPrefix).1 plain.1.1
          by_cases isQuote : character = '"'
          · subst isQuote
            exact absurd (List.cons_prefix_cons.mp isPrefix).1 plain.1.2
          rw [escape_plain isBackslash isQuote, List.singleton_append,
            List.cons_prefix_cons] at isPrefix
          exact List.cons_prefix_cons.mpr
            ⟨isPrefix.1, inductionHypothesis plain.2 isPrefix.2⟩

theorem readLabel_escape (label : Text) : readLabel (escape label) = readEntities label := by
  fun_induction readEntities label with
  | case1 => rfl
  | case2 rest inductionHypothesis =>
      have entity : escape quoteEntity = quoteEntity := by decide
      show readLabel (escape (quoteEntity ++ rest)) = _
      rw [escape_append, entity, ← inductionHypothesis]
      rfl
  | case3 character rest noEntity inductionHypothesis =>
      rw [escape_cons]
      by_cases isBackslash : character = '\\'
      · subst isBackslash
        exact congrArg ('\\' :: ·) inductionHypothesis
      by_cases isQuote : character = '"'
      · subst isQuote
        exact congrArg ('"' :: ·) inductionHypothesis
      rw [escape_plain isBackslash isQuote, List.singleton_append, readLabel,
        inductionHypothesis]
      · rintro - rfl -
        exact isBackslash rfl
      · -- an ampersand that starts an entity of the escaped label starts one of the label
        rintro others rfl spelled
        have quot : ['q', 'u', 'o', 't', ';'] <+: escape rest := ⟨others, spelled.symm⟩
        obtain ⟨behind, rfl⟩ := prefix_of_prefix_escape (by simp) quot
        exact noEntity behind rfl rfl

theorem escape_readEntities (label : Text) : escape (readEntities label) = escape label := by
  fun_induction readEntities label with
  | case1 => rfl
  | case2 rest inductionHypothesis =>
      have entity : escape ['"'] = escape quoteEntity := by decide
      rw [escape_cons, entity, inductionHypothesis, ← escape_append]
      rfl
  | case3 character rest noEntity inductionHypothesis =>
      rw [escape_cons, inductionHypothesis, ← escape_cons]

/-- Two labels are written alike exactly if they are the same one with quotes for their
entities. -/
theorem escape_eq_iff {left right : Text} :
    escape left = escape right ↔ readEntities left = readEntities right := by
  constructor
  · intro same
    rw [← readLabel_escape, same, readLabel_escape]
  · intro same
    rw [← escape_readEntities, same, escape_readEntities]

theorem length_readEntities_le (label : Text) : (readEntities label).length ≤ label.length := by
  fun_induction readEntities label with
  | case1 => exact Nat.le_refl _
  | case2 rest inductionHypothesis =>
      simp only [List.length_cons]
      omega
  | case3 character rest noEntity inductionHypothesis =>
      simp only [List.length_cons]
      omega

theorem readEntities_eq_self_iff {label : Text} :
    readEntities label = label ↔ ¬ quoteEntity <:+: label := by
  fun_induction readEntities label with
  | case1 => decide
  | case2 rest inductionHypothesis =>
      have spelled : quoteEntity <:+: quoteEntity ++ rest := (List.prefix_append _ _).isInfix
      refine iff_of_false ?_ (not_not_intro spelled)
      -- an entity is longer than the quote it stands for
      intro same
      have shorter := length_readEntities_le rest
      have sameLength := congrArg List.length same
      simp only [List.length_cons] at sameLength
      omega
  | case3 character rest noEntity inductionHypothesis =>
      have notHere : ¬ quoteEntity <+: character :: rest := by
        rintro ⟨behind, spelled⟩
        obtain ⟨rfl, rfl⟩ := List.cons.inj spelled
        exact noEntity behind rfl rfl
      rw [List.cons_inj_right, inductionHypothesis, List.infix_cons_iff, not_or]
      exact (and_iff_right notHere).symm

/-! ## Quoted strings -/

/-- Backslashes come in pairs, counted from the front. -/
inductive Paired : Text → Prop where
  | nil : Paired []
  | pair {rest : Text} (paired : Paired rest) : Paired ('\\' :: '\\' :: rest)
  | other {character : Char} {rest : Text} (notBackslash : character ≠ '\\')
      (paired : Paired rest) : Paired (character :: rest)

theorem Paired.append {front back : Text} (frontPaired : Paired front) (backPaired : Paired back) :
    Paired (front ++ back) := by
  induction frontPaired with
  | nil => exact backPaired
  | pair _ inductionHypothesis => exact .pair inductionHypothesis
  | other notBackslash _ inductionHypothesis => exact .other notBackslash inductionHypothesis

theorem paired_of_not_mem {text : Text} (noBackslash : '\\' ∉ text) : Paired text := by
  induction text with
  | nil => exact .nil
  | cons character rest inductionHypothesis =>
      rw [List.mem_cons, not_or] at noBackslash
      exact .other (Ne.symm noBackslash.1) (inductionHypothesis noBackslash.2)

/-- The text can stand between two quotes: it neither holds a quote nor ends with a
backslash that would take the closing one along. -/
structure Quotable (text : Text) : Prop where
  noQuote : '"' ∉ text
  paired : Paired text

theorem Quotable.append {front back : Text} (frontQuotable : Quotable front)
    (backQuotable : Quotable back) : Quotable (front ++ back) where
  noQuote member :=
    (List.mem_append.mp member).elim frontQuotable.noQuote backQuotable.noQuote
  paired := frontQuotable.paired.append backQuotable.paired

theorem quotable_of_not_mem {text : Text} (noQuote : '"' ∉ text) (noBackslash : '\\' ∉ text) :
    Quotable text :=
  ⟨noQuote, paired_of_not_mem noBackslash⟩

theorem quotable_escape (label : Text) : Quotable (escape label) := by
  induction label with
  | nil => exact quotable_of_not_mem (by decide) (by decide)
  | cons character rest inductionHypothesis =>
      rw [escape_cons]
      refine .append ?_ inductionHypothesis
      by_cases isBackslash : character = '\\'
      · subst isBackslash
        exact ⟨by decide, .pair .nil⟩
      by_cases isQuote : character = '"'
      · subst isQuote
        exact quotable_of_not_mem (by decide) (by decide)
      rw [escape_plain isBackslash isQuote]
      exact quotable_of_not_mem (by simpa using Ne.symm isQuote)
        (by simpa using Ne.symm isBackslash)

/-- The strings between quotes in the order in which they stand in a text, as they are
written there, if the last one is closed. The characters of a string that has been
opened are the latest first; inside it a backslash takes the next character along. -/
def stringsFrom : (opened : Option Text) → Text → Option (List Text)
  | none, [] => some []
  | some _, [] => none
  | none, '"' :: rest => stringsFrom (some []) rest
  | none, _ :: rest => stringsFrom none rest
  | some body, '"' :: rest => (stringsFrom none rest).map (body.reverse :: ·)
  | some body, '\\' :: character :: rest => stringsFrom (some (character :: '\\' :: body)) rest
  | some body, character :: rest => stringsFrom (some (character :: body)) rest

/-- The strings between quotes of a text, if all of them are closed. -/
def strings? (text : Text) : Option (List Text) :=
  stringsFrom none text

theorem strings?_append {front : Text} (noQuote : '"' ∉ front) (rest : Text) :
    strings? (front ++ rest) = strings? rest := by
  induction front with
  | nil => rfl
  | cons character front inductionHypothesis =>
      rw [List.mem_cons, not_or] at noQuote
      rw [← inductionHypothesis noQuote.2, strings?, List.cons_append, stringsFrom]
      · rfl
      · exact Ne.symm noQuote.1

theorem strings?_of_not_mem {text : Text} (noQuote : '"' ∉ text) : strings? text = some [] := by
  have end? := strings?_append noQuote []
  rwa [List.append_nil] at end?

/-- What can stand between quotes stays inside the string that is open. -/
theorem stringsFrom_some {body : Text} (quotable : Quotable body) (opened rest : Text) :
    stringsFrom (some opened) (body ++ rest) =
      stringsFrom (some (body.reverse ++ opened)) rest := by
  obtain ⟨noQuote, paired⟩ := quotable
  induction paired generalizing opened with
  | nil => rfl
  | pair _ inductionHypothesis =>
      simp only [List.mem_cons, not_or] at noQuote
      rw [List.cons_append, List.cons_append, stringsFrom, inductionHypothesis _ noQuote.2.2]
      simp
  | other notBackslash _ inductionHypothesis =>
      rw [List.mem_cons, not_or] at noQuote
      rw [List.cons_append, stringsFrom, inductionHypothesis _ noQuote.2]
      · simp
      · exact Ne.symm noQuote.1
      · rintro - - rfl -
        exact notBackslash rfl

/-- A text that can stand between quotes ends at the second one. -/
theorem strings?_quoted {body : Text} (quotable : Quotable body) (rest : Text) :
    strings? ('"' :: (body ++ '"' :: rest)) = (strings? rest).map (body :: ·) := by
  have opened : strings? ('"' :: (body ++ '"' :: rest)) =
      stringsFrom (some []) (body ++ '"' :: rest) := rfl
  rw [opened, stringsFrom_some quotable, stringsFrom, List.append_nil, List.reverse_reverse]
  rfl

/-! ## The strings of a digraph -/

/-- The strings of the statement about a node: its style, and its label at the end. -/
def nodeStrings (kind : NodeKind) (label : Text) : List Text :=
  [(style kind).1, "filled".toList, (style kind).2.1, (style kind).2.2, escape label]

theorem quote_not_mem_ofNat (number : Nat) : '"' ∉ Text.ofNat number := by
  intro member
  have isDigit := Nat.isDigit_of_mem_toDigits (by decide) (by decide) member
  contradiction

theorem quotable_style (kind : NodeKind) :
    Quotable (style kind).1 ∧ Quotable (style kind).2.1 ∧ Quotable (style kind).2.2 := by
  have plain (text : Text) (isPlain : '"' ∉ text ∧ '\\' ∉ text) : Quotable text :=
    quotable_of_not_mem isPlain.1 isPlain.2
  cases kind with
  | rule => exact ⟨plain _ (by decide), plain _ (by decide), plain _ (by decide)⟩
  | leaf => exact ⟨plain _ (by decide), plain _ (by decide), plain _ (by decide)⟩
  | capture => exact ⟨plain _ (by decide), plain _ (by decide), plain _ (by decide)⟩

/-- The statement about a node has five strings, and nothing of it runs on into what
follows. -/
theorem strings?_node (id : Nat) (kind : NodeKind) (label rest : Text) :
    strings? ((Statement.node id kind label).text ++ rest) =
      (strings? rest).map (nodeStrings kind label ++ ·) := by
  obtain ⟨fontColor, fillColor, shape⟩ := quotable_style kind
  have text : (Statement.node id kind label).text =
      "  ".toList ++ Text.ofNat id ++ (" [fontcolor=".toList ++ ['"']) ++ (style kind).1
        ++ ('"' :: (",style=".toList ++ ('"' :: ("filled".toList ++ '"' ::
          (",fillcolor=".toList ++ ['"']))))) ++ (style kind).2.1
        ++ ('"' :: (",shape=".toList ++ ['"'])) ++ (style kind).2.2
        ++ ('"' :: (",label=".toList ++ ['"'])) ++ escape label ++ ('"' :: "];\n".toList) := rfl
  rw [text]
  simp only [List.append_assoc, List.cons_append, List.nil_append]
  rw [strings?_append (by decide), strings?_append (quote_not_mem_ofNat id),
    strings?_append (by decide), strings?_quoted fontColor, strings?_append (by decide),
    strings?_quoted (quotable_of_not_mem (by decide) (by decide)), strings?_append (by decide),
    strings?_quoted fillColor, strings?_append (by decide), strings?_quoted shape,
    strings?_append (by decide), strings?_quoted (quotable_escape label),
    strings?_append (by decide)]
  cases strings? rest <;> rfl

theorem quote_not_mem_edge (parent child : Nat) : '"' ∉ (Statement.edge parent child).text := by
  have text : (Statement.edge parent child).text =
      "  ".toList ++ Text.ofNat parent ++ " -> ".toList ++ Text.ofNat child ++ ";\n".toList := rfl
  rw [text]
  simp only [List.mem_append, not_or]
  exact ⟨⟨⟨⟨by decide, quote_not_mem_ofNat parent⟩, by decide⟩, quote_not_mem_ofNat child⟩,
    by decide⟩

theorem strings?_entry (entry : Entry) (rest : Text) :
    strings? (entry.statements.flatMap Statement.text ++ rest) =
      (strings? rest).map (nodeStrings entry.node.kind entry.node.label ++ ·) := by
  rw [Entry.statements, List.flatMap_cons, List.append_assoc, strings?_node]
  cases entry.parent? with
  | none => rfl
  | some parent =>
      have edge : (List.map (fun parent => Statement.edge parent entry.id)
          (some parent).toList).flatMap Statement.text = (Statement.edge parent entry.id).text :=
        List.append_nil _
      rw [edge, strings?_append (quote_not_mem_edge parent entry.id)]

theorem strings?_entries (written : List Entry) (rest : Text) :
    strings? ((written.flatMap Entry.statements).flatMap Statement.text ++ rest) =
      (strings? rest).map ((written.map Entry.node).flatMap
        (fun node => nodeStrings node.kind node.label) ++ ·) := by
  induction written with
  | nil => exact Option.map_id'.symm
  | cons entry others inductionHypothesis =>
      rw [List.flatMap_cons, List.flatMap_append, List.append_assoc, strings?_entry,
        inductionHypothesis, Option.map_map, List.map_cons, List.flatMap_cons]
      simp only [Function.comp_def, List.append_assoc]

/-- The strings of a rendered digraph are those of the nodes in pre-order, whatever the
labels hold. -/
theorem strings?_render (tree : Tree) :
    strings? (Format.dot.render tree) =
      some (tree.nodes.flatMap fun node => nodeStrings node.kind node.label) := by
  have nodes : (numbered tree).map Entry.node = tree.nodes := map_node_entries tree none 0
  rw [render_dot_eq, List.append_assoc, strings?_append (by decide), strings?_entries, nodes,
    strings?_of_not_mem (by decide), Option.map_some, List.append_nil]

/-- Two labels are written alike exactly if they become the same text once every entity
in them is read as the quote it stands for, so labels that spell out no such entity are
told apart. No written label holds a quote, all its backslashes come in pairs, and the
strings of a whole digraph end where the written labels do. -/
theorem labels_told_apart (left right : Text) (tree : Tree) :
    (escape left = escape right ↔ readEntities left = readEntities right) ∧
      ((escape left = escape right ↔ left = right) ∨
        quoteEntity <:+: left ∨ quoteEntity <:+: right) ∧
      ('"' ∉ escape left ∧ Paired (escape left)) ∧
      strings? (Format.dot.render tree) =
        some (tree.nodes.flatMap fun node => nodeStrings node.kind node.label) := by
  refine ⟨escape_eq_iff, ?_, ⟨(quotable_escape left).noQuote, (quotable_escape left).paired⟩,
    strings?_render tree⟩
  by_cases leftSpelled : quoteEntity <:+: left
  · exact .inr (.inl leftSpelled)
  by_cases rightSpelled : quoteEntity <:+: right
  · exact .inr (.inr rightSpelled)
  rw [escape_eq_iff, readEntities_eq_self_iff.mpr leftSpelled,
    readEntities_eq_self_iff.mpr rightSpelled]
  exact .inl Iff.rfl

/-- A quote and the entity that stands for it are two labels, but they are written the
same. -/
theorem quote_written_like_entity :
    ¬ ∀ left right : Text, escape left = escape right → left = right := by
  intro toldApart
  have same : ['"'] = "&quot;".toList := toldApart ['"'] "&quot;".toList (by decide)
  contradiction

end BnfParsing.Digraph

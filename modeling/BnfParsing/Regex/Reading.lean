import BnfParsing.Regex.ClassName
import BnfParsing.Regex.Expression
import BnfParsing.Unicode.CaseMapping

/-!
Contract: the written form of regular expressions.

Owns:
- flags, escapes, bracketed classes with set operations, groups, repetitions
  and alternation, read from left to right into an `Expression`;
- the limits on nesting and on the size of a matcher.

Does not own: which match an expression prefers.

A pattern is refused with `none`; no caller distinguishes the reasons.
-/

set_option autoImplicit false

namespace BnfParsing.Regex.Reading

open BnfParsing.Unicode

/-- The settings that an expression may switch for the rest of a group. -/
structure Flags where
  ignoreCase : Bool := false
  multiLine : Bool := false
  dotMatchesNewline : Bool := false
  swapGreed : Bool := false
  unicode : Bool := true
  carriageReturns : Bool := false
  ignoreSpace : Bool := false
deriving DecidableEq, Repr, Inhabited

/-- The flags after switching the one with the given letter. -/
def Flags.switch? (flags : Flags) (letter : Char) (enabled : Bool) : Option Flags :=
  match letter with
  | 'i' => some { flags with ignoreCase := enabled }
  | 'm' => some { flags with multiLine := enabled }
  | 's' => some { flags with dotMatchesNewline := enabled }
  | 'U' => some { flags with swapGreed := enabled }
  | 'u' => some { flags with unicode := enabled }
  | 'R' => some { flags with carriageReturns := enabled }
  | 'x' => some { flags with ignoreSpace := enabled }
  | _ => none

/-- The deepest nesting of groups, repetitions, classes and lists. -/
def nestingLimit : Nat := 250

/-- An expression with the depth of its written form. -/
structure Nested where
  expression : Expression
  depth : Nat
deriving Inhabited

/-! ## Blanks between parts -/

private def skipFrom (inComment : Bool) : Text → Text
  | [] => []
  | character :: rest =>
      if inComment then skipFrom (character != '\n') rest
      else if Text.isBlank character then skipFrom false rest
      else if character == '#' then skipFrom true rest
      else character :: rest

/-- What follows blanks and comments, where the flags let them be ignored. -/
def skipIgnored (flags : Flags) (text : Text) : Text :=
  if flags.ignoreSpace then skipFrom false text else text

/-! ## Escapes and classes of one character -/

/-- The digits and the rest, read until `close`; ignored blanks may stand between. -/
private def readUntil (flags : Flags) (close : Char) : (fuel : Nat) → Text →
    Option (Text × Text)
  | 0, _ => none
  | fuel + 1, text =>
      match skipIgnored flags text with
      | [] => none
      | character :: rest =>
          if character = close then some ([], rest)
          else do
            let (content, rest) ← readUntil flags close fuel rest
            return (character :: content, rest)

private def hexValue? (character : Char) : Option Nat :=
  if '0' ≤ character ∧ character ≤ '9' then some (character.toNat - '0'.toNat)
  else if 'a' ≤ character ∧ character ≤ 'f' then some (character.toNat - 'a'.toNat + 10)
  else if 'A' ≤ character ∧ character ≤ 'F' then some (character.toNat - 'A'.toNat + 10)
  else none

private def hexNumber? (digits : Text) : Option Nat :=
  digits.foldlM (fun value digit => (hexValue? digit).map (value * 16 + ·)) 0

/-- The character with a code point, if it has one. -/
private def charOfCode? (code : Nat) : Option Char :=
  if code.isValidChar then some (Char.ofNat code) else none

private def readDigits (flags : Flags) : (count : Nat) → Text → Option (Text × Text)
  | 0, text => some ([], text)
  | count + 1, text =>
      match skipIgnored flags text with
      | [] => none
      | digit :: rest => do
          let (digits, rest) ← readDigits flags count rest
          return (digit :: digits, rest)

/-- One thing that may stand alone or inside a bracketed class. -/
inductive Primitive where
  /-- A character; `rawByte` if it was written as a two-digit code. -/
  | literal (character : Char) (rawByte : Bool)
  | any
  | assertion (condition : Assertion)
  /-- A set under a name, before folding and negation are applied. -/
  | decimal (negated : Bool)
  | blank (negated : Bool)
  | wordChar (negated : Bool)
  | named (set : CodePointSet) (negated : Bool)

private def readHexadecimal (flags : Flags) (digitCount : Nat) (text : Text) :
    Option (Primitive × Text) :=
  match skipIgnored flags text with
  | [] => none
  | '{' :: rest => do
      let (digits, rest) ← readUntil flags '}' (rest.length + 1) rest
      if digits.isEmpty then none
      let character ← (← hexNumber? digits) |> charOfCode?
      return (.literal character false, skipIgnored flags rest)
  | text => do
      let (digits, rest) ← readDigits flags digitCount text
      let character ← (← hexNumber? digits) |> charOfCode?
      return (.literal character (digitCount == 2), skipIgnored flags rest)

private def splitAtFirst (separator : Text) (text : Text) : Option (Text × Text) :=
  (Text.occurrences separator text).head?.map fun position =>
    (text.take position, text.drop (position + separator.length))

/-- The set for the content of a named class. -/
private def namedSet? (content : Text) : Option CodePointSet :=
  match splitAtFirst ['!', '='] content with
  | some (name, value) => ClassName.valued? name value
  | none =>
      match splitAtFirst [':'] content with
      | some (name, value) => ClassName.valued? name value
      | none =>
          match splitAtFirst ['='] content with
          | some (name, value) => ClassName.valued? name value
          | none => ClassName.single? content

private def readNamed (flags : Flags) (negated : Bool) (text : Text) :
    Option (Primitive × Text) :=
  match skipIgnored flags text with
  | [] => none
  | '{' :: rest => do
      let (content, rest) ← readUntil flags '}' (rest.length + 1) rest
      let set ← namedSet? content
      return (.named set negated, rest)
  | '\\' :: _ => none
  | letter :: rest => do
      let set ← ClassName.single? [letter]
      return (.named set negated, skipIgnored flags rest)

private def isEdgeNameChar (character : Char) : Bool :=
  character.isAlpha || character == '-'

private def readEdgeName (flags : Flags) : (fuel : Nat) → Text → Text × Text
  | 0, text => ([], text)
  | fuel + 1, text =>
      match text with
      | [] => ([], [])
      | character :: rest =>
          if isEdgeNameChar character then
            let (name, rest) := readEdgeName flags fuel (skipIgnored flags rest)
            (character :: name, rest)
          else ([], character :: rest)

/-- A word boundary, or the special one that braces after it name. Braces that
do not start with a letter or a hyphen belong to a repetition. -/
private def readBoundary (flags : Flags) (text : Text) : Option (Primitive × Text) :=
  let asciiOnly := !flags.unicode
  let plain : Option (Primitive × Text) :=
    some (.assertion (.word .boundary asciiOnly), text)
  match text with
  | '{' :: inner =>
      match skipIgnored flags inner with
      | [] => none
      | first :: rest =>
          if isEdgeNameChar first then
            match readEdgeName flags (rest.length + 1) (first :: rest) with
            | (name, '}' :: rest) =>
                let edge? : Option WordEdge :=
                  match String.ofList name with
                  | "start" => some .start
                  | "end" => some .stop
                  | "start-half" => some .startHalf
                  | "end-half" => some .stopHalf
                  | _ => none
                edge?.map fun edge => (.assertion (.word edge asciiOnly), rest)
            | _ => none
          else plain
  | _ => plain

/-- Whether a backslash may stand in front of the character for no other
purpose than to take it literally. -/
private def isEscapable (character : Char) : Bool :=
  character.toNat < 0x80 && !character.isAlphanum && character != '<' && character != '>'

/-- What a backslash and the following text stand for. -/
private def readEscape (flags : Flags) : Text → Option (Primitive × Text)
  | [] => none
  | letter :: rest =>
      let asciiOnly := !flags.unicode
      match letter with
      | 'x' => readHexadecimal flags 2 rest
      | 'u' => readHexadecimal flags 4 rest
      | 'U' => readHexadecimal flags 8 rest
      | 'p' => readNamed flags false rest
      | 'P' => readNamed flags true rest
      | 'd' => some (.decimal false, rest)
      | 'D' => some (.decimal true, rest)
      | 's' => some (.blank false, rest)
      | 'S' => some (.blank true, rest)
      | 'w' => some (.wordChar false, rest)
      | 'W' => some (.wordChar true, rest)
      | 'a' => some (.literal '\x07' false, rest)
      | 'f' => some (.literal '\x0C' false, rest)
      | 't' => some (.literal '\t' false, rest)
      | 'n' => some (.literal '\n' false, rest)
      | 'r' => some (.literal '\r' false, rest)
      | 'v' => some (.literal '\x0B' false, rest)
      | 'A' => some (.assertion .textStart, rest)
      | 'z' => some (.assertion .textEnd, rest)
      | 'b' => readBoundary flags rest
      | 'B' => some (.assertion (.word .noBoundary asciiOnly), rest)
      | '<' => some (.assertion (.word .start asciiOnly), rest)
      | '>' => some (.assertion (.word .stop asciiOnly), rest)
      | _ => if isEscapable letter then some (.literal letter false, rest) else none

/-! ## Sets -/

/-- Without Unicode, sets range over bytes. -/
private def everything (flags : Flags) : CodePointSet :=
  if flags.unicode then .full else .ofRange 0 0xFF

private def asciiFoldingClosure (set : CodePointSet) : CodePointSet :=
  let letters := (List.range 26).map fun index => (0x41 + index, 0x61 + index)
  letters.foldl (fun closure (upper, lower) =>
    if set.contains upper || set.contains lower then
      (closure.union (.singleton upper)).union (.singleton lower)
    else closure) set

private def foldIfAsked (flags : Flags) (set : CodePointSet) : CodePointSet :=
  if flags.ignoreCase then
    if flags.unicode then foldingClosure set else asciiFoldingClosure set
  else set

/-- The set, closed under folding if case is ignored, then complemented if
negated. A set of bytes has to stay within ASCII. -/
private def finishSet? (flags : Flags) (negated : Bool) (set : CodePointSet) :
    Option CodePointSet :=
  let folded := foldIfAsked flags set
  let finished := if negated then (everything flags).diff folded else folded
  if flags.unicode || finished.isAscii then some finished else none

private def perlSet? (flags : Flags) (negated : Bool) (unicodeSet : CodePointSet)
    (asciiName : String) : Option CodePointSet :=
  let plain := if flags.unicode then unicodeSet
    else (ClassName.ascii? asciiName.toList).getD .empty
  let finished := if negated then (everything flags).diff plain else plain
  if flags.unicode || finished.isAscii then some finished else none

/-- The set of a primitive that stands for a named set. -/
private def primitiveSet? (flags : Flags) : Primitive → Option CodePointSet
  | .decimal negated => perlSet? flags negated Category.decimalNumber "digit"
  | .blank negated => perlSet? flags negated Property.whiteSpace "space"
  | .wordChar negated => perlSet? flags negated Property.word "word"
  | .named set negated => if flags.unicode then finishSet? flags negated set else none
  | _ => none

/-- The code point of a literal inside a bracketed class. -/
private def literalCode? (flags : Flags) (character : Char) (rawByte : Bool) : Option Nat :=
  if flags.unicode || rawByte || character.toNat < 0x80 then some character.toNat else none

/-- The expression of a primitive outside of brackets. -/
private def primitiveExpression? (flags : Flags) : Primitive → Option Expression
  | .literal character rawByte =>
      if !flags.unicode && rawByte && 0x80 ≤ character.toNat then none
      else
        let single := CodePointSet.singleton character.toNat
        if !flags.unicode && 0x80 ≤ character.toNat then some (.oneOf single)
        else some (.oneOf (foldIfAsked flags single))
  | .any =>
      if !flags.unicode then none
      else
        let excluded : CodePointSet :=
          if flags.dotMatchesNewline then .empty
          else if flags.carriageReturns then ⟨[0x0A, 0x0B, 0x0D, 0x0E]⟩
          else .singleton 0x0A
        some (.oneOf excluded.compl)
  | .assertion condition => some (.assertion condition)
  | primitive => (primitiveSet? flags primitive).map .oneOf

/-! ## Bracketed classes -/

/-- An operation on the two sets around it. -/
inductive SetOperation where
  | intersection
  | difference
  | symmetricDifference

private def SetOperation.apply : SetOperation → CodePointSet → CodePointSet → CodePointSet
  | .intersection, left, right => left.inter right
  | .difference, left, right => left.diff right
  | .symmetricDifference, left, right => left.symmDiff right

/-- The items of one class read so far, with their number and their depth. -/
structure Items where
  set : CodePointSet := .empty
  count : Nat := 0
  depth : Nat := 0

private def Items.add (items : Items) (set : CodePointSet) (depth : Nat) : Items :=
  ⟨items.set.union set, items.count + 1, max items.depth depth⟩

/-- The depth of the items as one operand; a list of several is one level. -/
private def Items.nesting (items : Items) : Nat :=
  if items.count ≤ 1 then items.depth else items.depth + 1

/-- What waits for a class or an operand to end. -/
inductive Pending where
  /-- The class around an inner one, which is negated or not. -/
  | opened (outer : Items) (negated : Bool)
  /-- An operation with its left operand. -/
  | operation (operation : SetOperation) (left : CodePointSet) (depth : Nat)

/-- The operand, combined with the operation that waits for it, if any. -/
private def closeOperand (flags : Flags) (items : Items) (pending : List Pending) :
    CodePointSet × Nat × List Pending :=
  match pending with
  | .operation operation left depth :: pending =>
      (operation.apply (foldIfAsked flags left) (foldIfAsked flags items.set),
        max depth items.nesting + 1, pending)
  | pending => (items.set, items.nesting, pending)

private def pushOperation (flags : Flags) (operation : SetOperation) (items : Items)
    (pending : List Pending) : List Pending :=
  let (left, depth, pending) := closeOperand flags items pending
  .operation operation left depth :: pending

/-- The hyphens and the closing bracket that are literal at the start of a class. -/
private def readOpening (flags : Flags) : (fuel : Nat) → Items → Text → Option (Items × Text)
  | 0, _, _ => none
  | fuel + 1, items, text =>
      match text with
      | [] => none
      | '-' :: rest =>
          readOpening flags fuel (items.add (.singleton '-'.toNat) 0) (skipIgnored flags rest)
      | ']' :: rest =>
          if items.count = 0 then
            match skipIgnored flags rest with
            | [] => none
            | rest => some (items.add (.singleton ']'.toNat) 0, rest)
          else some (items, text)
      | _ => some (items, text)

/-- The start of a class after its bracket: whether it is negated, its first
literals, and the rest. -/
private def openClass (flags : Flags) (text : Text) : Option (Bool × Items × Text) :=
  match skipIgnored flags text with
  | '^' :: rest => do
      let rest := skipIgnored flags rest
      let (items, rest) ← readOpening flags (rest.length + 1) {} rest
      return (true, items, rest)
  | rest => do
      let (items, rest) ← readOpening flags (rest.length + 1) {} rest
      return (false, items, rest)

/-- An ASCII class such as `[:alpha:]`, given the text after its first bracket. -/
private def readAsciiClass (text : Text) : Option (CodePointSet × Bool × Text) :=
  match text with
  | ':' :: rest =>
      let (negated, rest) :=
        match rest with
        | '^' :: rest => (true, rest)
        | rest => (false, rest)
      let name := rest.takeWhile (· ≠ ':')
      match rest.drop name.length with
      | ':' :: ']' :: rest => (ClassName.ascii? name).map fun set => (set, negated, rest)
      | _ => none
  | _ => none

private def readClassItem (flags : Flags) : Text → Option (Primitive × Text)
  | [] => none
  | '\\' :: rest => readEscape flags rest
  | character :: rest => some (.literal character false, rest)

/-- The set of a primitive as an item of a class. -/
private def itemSet? (flags : Flags) : Primitive → Option CodePointSet
  | .literal character rawByte =>
      (literalCode? flags character rawByte).map CodePointSet.singleton
  | .any => none
  | .assertion _ => none
  | primitive => primitiveSet? flags primitive

/-- One item or one range of a class. -/
private def readClassRange (flags : Flags) (text : Text) : Option (CodePointSet × Text) := do
  let (first, rest) ← readClassItem flags text
  let rest := skipIgnored flags rest
  let alone : Option (CodePointSet × Text) := (itemSet? flags first).map (·, rest)
  match rest with
  | [] => none
  | '-' :: afterHyphen =>
      match skipIgnored flags afterHyphen with
      | [] => none
      | ']' :: _ => alone
      | '-' :: _ => alone
      | afterHyphen =>
          let (second, rest) ← readClassItem flags afterHyphen
          match first, second with
          | .literal low lowRaw, .literal high highRaw =>
              if low.toNat ≤ high.toNat then
                let low ← literalCode? flags low lowRaw
                let high ← literalCode? flags high highRaw
                return (.ofRange low high, rest)
              else none
          | _, _ => none
  | _ => alone

/-- Reads the items of a class until the outermost bracket closes. Every turn
consumes a character, so the length of the text is enough fuel. -/
private def readClass (flags : Flags) : (fuel : Nat) → Items → List Pending → Text →
    Option (CodePointSet × Nat × Text)
  | 0, _, _, _ => none
  | fuel + 1, items, pending, text =>
      match skipIgnored flags text with
      | [] => none
      | '[' :: rest =>
          match readAsciiClass rest with
          | some (set, negated, rest) => do
              let set ← finishSet? flags negated set
              readClass flags fuel (items.add set 0) pending rest
          | none => do
              let (negated, inner, rest) ← openClass flags rest
              readClass flags fuel inner (.opened items negated :: pending) rest
      | ']' :: rest =>
          let (set, depth, pending) := closeOperand flags items pending
          match pending with
          | [.opened _ negated] => do
              let set ← finishSet? flags negated set
              return (set, depth + 1, rest)
          | .opened outer negated :: pending => do
              let set ← finishSet? flags negated set
              readClass flags fuel (outer.add set (depth + 1)) pending rest
          | _ => none
      | '&' :: '&' :: rest =>
          readClass flags fuel {} (pushOperation flags .intersection items pending) rest
      | '-' :: '-' :: rest =>
          readClass flags fuel {} (pushOperation flags .difference items pending) rest
      | '~' :: '~' :: rest =>
          readClass flags fuel {} (pushOperation flags .symmetricDifference items pending) rest
      | text => do
          let (set, rest) ← readClassRange flags text
          readClass flags fuel (items.add set 0) pending rest

/-! ## Sequences, choices and groups -/

/-- A part of a sequence: an expression, or a switch of flags, which cannot be
repeated. -/
inductive Part where
  | expression (nested : Nested)
  | switch

/-- What a group interrupted, and how the group is numbered. -/
structure Frame where
  parts : List Part
  branches : List Nested
  flags : Flags
  index : Option Nat

/-- The state between two parts. Lists hold the latest element first. -/
structure State where
  rest : Text
  flags : Flags := {}
  parts : List Part := []
  branches : List Nested := []
  frames : List Frame := []
  groupCount : Nat := 0
  names : List Text := []

private def Part.nested? : Part → Option Nested
  | .expression nested => some nested
  | .switch => none

/-- The sequence of parts. Two or more are one level of nesting. -/
private def joinParts (reversed : List Part) : Nested :=
  let nested := reversed.reverse.filterMap Part.nested?
  let expression :=
    match nested.map Nested.expression with
    | [] => Expression.empty
    | first :: others => others.foldl .sequence first
  let depth := (nested.map Nested.depth).foldl max 0
  ⟨expression, if reversed.length ≤ 1 then depth else depth + 1⟩

/-- The choice between branches. Two or more are one level of nesting. -/
private def joinBranches (reversed : List Nested) : Nested :=
  let branches := reversed.reverse
  let expression :=
    match (branches.map Nested.expression).reverse with
    | [] => Expression.empty
    | last :: others => others.foldl (fun choices branch => .choice branch choices) last
  let depth := (branches.map Nested.depth).foldl max 0
  ⟨expression, if branches.length ≤ 1 then depth else depth + 1⟩

private def State.push (state : State) (nested : Nested) (rest : Text) : State :=
  { state with rest := rest, parts := .expression nested :: state.parts }

/-- Switches flags up to the colon or parenthesis that ends the list. -/
private def readFlags (flags : Flags) : (seen : Text) → (enabled afterMinus : Bool) → Text →
    Option (Flags × Text × Char × Text)
  | _, _, _, [] => none
  | seen, enabled, afterMinus, letter :: rest =>
      if letter = ':' ∨ letter = ')' then
        if afterMinus then none else some (flags, seen, letter, rest)
      else if seen.contains letter then none
      else if letter = '-' then readFlags flags (letter :: seen) false true rest
      else do
        let flags ← flags.switch? letter enabled
        readFlags flags (letter :: seen) enabled false rest

private def isGroupNameStart (character : Char) : Bool :=
  character == '_' || Property.alphabetic.containsChar character

private def isGroupNameChar (character : Char) : Bool :=
  isGroupNameStart character || Category.number.containsChar character
    || character == '.' || character == '[' || character == ']'

private def readGroupName (text : Text) : Option (Text × Text) :=
  let name := text.takeWhile (· ≠ '>')
  match name, text.drop name.length with
  | first :: others, '>' :: rest =>
      if isGroupNameStart first && others.all isGroupNameChar then some (name, rest) else none
  | _, _ => none

private def State.enterGroup (state : State) (index : Option Nat) (flags : Flags)
    (rest : Text) : State :=
  { state with
    rest := rest
    flags := flags
    parts := []
    branches := []
    frames := ⟨state.parts, state.branches, state.flags, index⟩ :: state.frames }

private def State.enterNumbered (state : State) (rest : Text) : State :=
  { state.enterGroup (some (state.groupCount + 1)) state.flags rest with
    groupCount := state.groupCount + 1 }

private def State.enterNamed (state : State) (text : Text) : Option State := do
  let (name, rest) ← readGroupName text
  if state.names.contains name then none
  let entered := state.enterNumbered rest
  return { entered with names := name :: state.names }

/-- What an opening parenthesis starts, given the text after it. -/
private def State.openGroup (state : State) (text : Text) : Option State :=
  match skipIgnored state.flags text with
  | '?' :: '=' :: _ => none
  | '?' :: '!' :: _ => none
  | '?' :: '<' :: '=' :: _ => none
  | '?' :: '<' :: '!' :: _ => none
  | '?' :: 'P' :: '<' :: rest => state.enterNamed rest
  | '?' :: '<' :: rest => state.enterNamed rest
  | '?' :: rest => do
      let (flags, seen, terminator, rest) ← readFlags state.flags [] true false rest
      if terminator = ')' then
        if seen.isEmpty then none
        else return { state with rest := rest, flags := flags, parts := .switch :: state.parts }
      else return state.enterGroup none flags rest
  | rest => some (state.enterNumbered rest)

/-- The sequence and choice read since the last open group. -/
private def State.body (state : State) : Nested :=
  joinBranches (joinParts state.parts :: state.branches)

private def State.closeGroup (state : State) (rest : Text) : Option State :=
  match state.frames with
  | [] => none
  | frame :: frames =>
      let body := state.body
      let expression :=
        match frame.index with
        | some index => Expression.group index body.expression
        | none => body.expression
      some
        { state with
          rest := rest
          flags := frame.flags
          parts := .expression ⟨expression, body.depth + 1⟩ :: frame.parts
          branches := frame.branches
          frames := frames }

/-- Repeats the latest part; whether fewer copies are preferred is read from
`text`. -/
private def State.repeatLast (state : State) (least : Nat) (most : Option Nat) (text : Text) :
    Option State :=
  match state.parts with
  | .expression nested :: parts =>
      let (lazily, rest) :=
        match text with
        | '?' :: rest => (true, rest)
        | rest => (false, rest)
      let expression :=
        nested.expression.repeated least most (lazily == state.flags.swapGreed)
      some { state with
        rest := rest
        parts := .expression ⟨expression, nested.depth + 1⟩ :: parts }
  | _ => none

/-- A decimal number below 2^32, with blanks around it. -/
private def readDecimal (flags : Flags) : (fuel : Nat) → (digits : Text) → Text →
    Option (Option Nat × Text)
  | 0, _, _ => none
  | fuel + 1, digits, text =>
      match text with
      | [] => none
      | character :: rest =>
          if character.isDigit then
            readDecimal flags fuel (character :: digits) (skipIgnored flags rest)
          else
            let rest := (character :: rest).dropWhile Text.isBlank
            if digits.isEmpty then some (none, rest)
            else
              let value := digits.reverse.foldl
                (fun value digit => value * 10 + (digit.toNat - '0'.toNat)) 0
              if value < UInt32.size then some (some value, rest) else none

private def State.repeatCounted (state : State) (text : Text) : Option State := do
  let flags := state.flags
  let decimal (text : Text) : Option (Option Nat × Text) :=
    readDecimal flags (text.length + 1) [] ((skipIgnored flags text).dropWhile Text.isBlank)
  let (least?, rest) ← decimal text
  let least ← least?
  match rest with
  | '}' :: rest => state.repeatLast least (some least) (skipIgnored flags rest)
  | ',' :: rest =>
      match skipIgnored flags rest with
      | '}' :: rest => state.repeatLast least none (skipIgnored flags rest)
      | rest =>
          let (most?, rest) ← decimal rest
          let most ← most?
          match rest with
          | '}' :: rest =>
              if least ≤ most then
                state.repeatLast least (some most) (skipIgnored flags rest)
              else none
          | _ => none
  | _ => none

private def State.pushPrimitive (state : State) (primitive : Primitive) (rest : Text) :
    Option State := do
  let expression ← primitiveExpression? state.flags primitive
  return state.push ⟨expression, 0⟩ rest

/-- Reads one part in front of the rest. -/
private def State.step (state : State) (character : Char) (rest : Text) : Option State :=
  match character with
  | '(' => state.openGroup rest
  | ')' => state.closeGroup rest
  | '|' =>
      some { state with
        rest := rest
        parts := []
        branches := joinParts state.parts :: state.branches }
  | '[' => do
      let (negated, items, inside) ← openClass state.flags rest
      let (set, depth, rest) ←
        readClass state.flags (rest.length + 1) items [.opened {} negated] inside
      return state.push ⟨.oneOf set, depth⟩ rest
  | '?' => state.repeatLast 0 (some 1) rest
  | '*' => state.repeatLast 0 none rest
  | '+' => state.repeatLast 1 none rest
  | '{' => state.repeatCounted rest
  | '.' => state.pushPrimitive .any rest
  | '^' =>
      let condition : Assertion :=
        if !state.flags.multiLine then .textStart
        else if state.flags.carriageReturns then .anyLineStart else .lineStart
      state.pushPrimitive (.assertion condition) rest
  | '$' =>
      let condition : Assertion :=
        if !state.flags.multiLine then .textEnd
        else if state.flags.carriageReturns then .anyLineEnd else .lineEnd
      state.pushPrimitive (.assertion condition) rest
  | '\\' => do
      let (primitive, rest) ← readEscape state.flags rest
      state.pushPrimitive primitive rest
  | character => state.pushPrimitive (.literal character false) rest

/-- Reads parts until the text ends with every group closed. Every turn
consumes a character, so the length of the text is enough fuel. -/
private def readParts : (fuel : Nat) → State → Option Nested
  | 0, _ => none
  | fuel + 1, state =>
      match skipIgnored state.flags state.rest with
      | [] => if state.frames.isEmpty then some state.body else none
      | character :: rest => do
          let state ← state.step character rest
          readParts fuel state

end Reading

/-- The expression that a pattern is written for, unless it is malformed,
nested too deeply, or in need of too large a matcher. -/
def Expression.ofPattern? (pattern : Text) : Option Expression := do
  let nested ← Reading.readParts (pattern.length + 1) ⟨pattern, {}, [], [], [], 0, []⟩
  if Reading.nestingLimit < nested.depth then none
  if Expression.costLimit < nested.expression.cost then none
  return nested.expression

end BnfParsing.Regex

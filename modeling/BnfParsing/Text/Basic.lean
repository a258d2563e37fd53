/-!
Contract: texts as sequences of characters, and the few cutting operations the
rest of the library is built from.

Owns:
- `Text`, its length in UTF-8 bytes and the blank characters;
- trimming, cutting after a number of bytes, splitting at a separator
  character and into lines;
- the substring search used for separators and replacements.

Does not own: case mapping, display width or quoting of characters.
-/

set_option autoImplicit false

namespace BnfParsing

/-- A text is the list of its characters. -/
abbrev Text := List Char

namespace Text

/-- Number of bytes the text takes in UTF-8. -/
def byteLength : Text → Nat
  | [] => 0
  | character :: rest => character.utf8Size + byteLength rest

/-- The characters with the Unicode property White_Space. -/
def isBlank (character : Char) : Bool :=
  let code := character.toNat
  (0x9 ≤ code && code ≤ 0xD) || code == 0x20 || code == 0x85 || code == 0xA0
    || code == 0x1680 || (0x2000 ≤ code && code ≤ 0x200A) || code == 0x2028
    || code == 0x2029 || code == 0x202F || code == 0x205F || code == 0x3000

/-- The text without the blanks in front. -/
def trimStart (text : Text) : Text :=
  text.dropWhile isBlank

/-- The text without the blanks at its end. -/
def trimEnd : Text → Text
  | [] => []
  | character :: rest =>
      match trimEnd rest with
      | [] => if isBlank character then [] else [character]
      | kept => character :: kept

/-- The text without the blanks at both ends. -/
def trim (text : Text) : Text :=
  trimEnd (trimStart text)

/-- Whether the text has no character other than blanks. -/
def isAllBlank (text : Text) : Bool :=
  text.all isBlank

/-- What lies at a byte offset of a text. -/
inductive ByteCut where
  /-- The text is shorter than the offset. -/
  | short
  /-- The offset falls inside a character. -/
  | inside
  /-- The offset is the end of `front`. -/
  | after (front : Text)
deriving DecidableEq, Repr

/-- One more character in front of a cut. -/
def ByteCut.cons (character : Char) : ByteCut → ByteCut
  | .after front => .after (character :: front)
  | cut => cut

/-- Cuts a text after `count` bytes. -/
def cutBytes (count : Nat) : Text → ByteCut
  | [] => if count = 0 then .after [] else .short
  | character :: rest =>
      if count = 0 then .after []
      else if character.utf8Size ≤ count then
        (cutBytes (count - character.utf8Size) rest).cons character
      else .inside

/-- The parts between the separators; one more than there are separators. -/
def splitOn (separator : Char) : Text → List Text
  | [] => [[]]
  | character :: rest =>
      if character = separator then [] :: splitOn separator rest
      else
        match splitOn separator rest with
        | [] => [[character]]
        | part :: parts => (character :: part) :: parts

/-- The parts joined with `separator` between neighbours. -/
def join (separator : Text) : List Text → Text
  | [] => []
  | [part] => part
  | part :: parts => part ++ separator ++ join separator parts

/-- A reversed line without a carriage return at its end. -/
def withoutReturn (reversed : Text) : Text :=
  match reversed with
  | '\r' :: rest => rest
  | _ => reversed

/-- The lines of a text behind the reversed start of its first line. -/
def linesFrom (reversed : Text) : Text → List Text
  | [] => if reversed.isEmpty then [] else [reversed.reverse]
  | '\n' :: rest => (withoutReturn reversed).reverse :: linesFrom [] rest
  | character :: rest => linesFrom (character :: reversed) rest

/-- The lines of a text. A line ends with a newline, which may follow a
carriage return; a last line without a newline counts if it is not empty. -/
def lines (text : Text) : List Text :=
  linesFrom [] text

/-- The occurrences in a text that starts at `position`; none of them starts in
the `skipped` characters of the one before. -/
def occurrencesFrom (pattern : Text) : (position skipped : Nat) → Text → List Nat
  | _, _, [] => []
  | position, skipped + 1, _ :: rest =>
      occurrencesFrom pattern (position + 1) skipped rest
  | position, 0, character :: rest =>
      if pattern.isPrefixOf (character :: rest) then
        position :: occurrencesFrom pattern (position + 1) (pattern.length - 1) rest
      else occurrencesFrom pattern (position + 1) 0 rest

/-- The character positions at which a non-empty `pattern` occurs, taken from
left to right without overlap. -/
def occurrences (pattern text : Text) : List Nat :=
  occurrencesFrom pattern 0 0 text

/-- Each character `target` replaced by `replacement`. -/
def replaceChar (target : Char) (replacement : Text) (text : Text) : Text :=
  text.flatMap fun character => if character = target then replacement else [character]

/-- An ASCII letter in lower case; any other character as it is. -/
def asciiLower (character : Char) : Char :=
  if 'A' ≤ character ∧ character ≤ 'Z' then Char.ofNat (character.toNat + 32) else character

/-- A number in decimal digits. -/
def ofNat (number : Nat) : Text :=
  Nat.toDigits 10 number

/-- A run of `count` spaces. -/
def spaces (count : Nat) : Text :=
  List.replicate count ' '

/-- The text padded with spaces on the right to `width` characters. -/
def padRight (width : Nat) (text : Text) : Text :=
  text ++ spaces (width - text.length)

/-- Whether a text sorts before another one by code points, which is the order
of their UTF-8 bytes. -/
def precedes : Text → Text → Bool
  | _, [] => false
  | [], _ :: _ => true
  | left :: lefts, right :: rights =>
      if left = right then precedes lefts rights else left.toNat < right.toNat

end Text

end BnfParsing

import BnfParsing.Text.Basic
import BnfParsing.Unicode.Property

/-!
Contract: texts in quotes for listings.

Owns: the escapes of quotes, backslashes, control characters, characters
without a shape, and combining characters.

Does not own: the escapes of grammars and of written trees.
-/

set_option autoImplicit false

namespace BnfParsing.Quoted

open BnfParsing.Unicode

/-- The characters without a visible shape of their own, other than the space:
controls, formats, separators, code points without a character, and what a
display may ignore. -/
def shapeless : CodePointSet :=
  CodePointSet.diff
    (.unions [Category.other, Category.separator, Property.defaultIgnorableCodePoint])
    (.singleton 0x20)

/-- A character by its code point. -/
def byCode (character : Char) : Text :=
  "\\u\x7b".toList ++ Nat.toDigits 16 character.toNat ++ ['\x7d']

/-- A character inside quotes. A combining character is escaped where it would
combine with what is not part of the text. -/
def escapeChar (escapeSingle escapeCombining : Bool) (character : Char) : Text :=
  match character with
  | '\x00' => ['\\', '0']
  | '\t' => ['\\', 't']
  | '\r' => ['\\', 'r']
  | '\n' => ['\\', 'n']
  | '\\' => ['\\', '\\']
  | '"' => ['\\', '"']
  | '\'' => if escapeSingle then ['\\', '\''] else ['\'']
  | _ =>
      if escapeCombining && Property.graphemeExtend.containsChar character then
        byCode character
      else if shapeless.containsChar character then byCode character
      else [character]

/-- The text in double quotes, every combining character escaped. -/
def debug (text : Text) : Text :=
  '"' :: text.flatMap (escapeChar false true) ++ ['"']

/-- The text for single quotes; a combining character is escaped at the front
only. -/
def inner : Text → Text
  | [] => []
  | first :: rest => escapeChar true true first ++ rest.flatMap (escapeChar true false)

end BnfParsing.Quoted

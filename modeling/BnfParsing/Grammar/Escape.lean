import BnfParsing.Text.Basic

/-!
Contract: the `\uXXXX` escapes of literals and patterns.

Owns:
- decoding of UTF-16 code units, in which a unit without its partner becomes
  the replacement character;
- resolving escapes, where two backslashes stand for themselves.

Does not own: escapes with a meaning inside regular expressions.
-/

set_option autoImplicit false

namespace BnfParsing.Escape

/-- What stands for a surrogate without its partner. -/
def replacement : Char := '\uFFFD'

/-- The first unit of a pair. -/
def isHighSurrogate (unit : Nat) : Bool :=
  0xD800 ≤ unit && unit ≤ 0xDBFF

/-- The second unit of a pair. -/
def isLowSurrogate (unit : Nat) : Bool :=
  0xDC00 ≤ unit && unit ≤ 0xDFFF

/-- The text of a list of UTF-16 code units. -/
def decodeUnits : List Nat → Text
  | [] => []
  | [unit] =>
      [if isHighSurrogate unit || isLowSurrogate unit then replacement else Char.ofNat unit]
  | unit :: next :: rest =>
      if isHighSurrogate unit then
        if isLowSurrogate next then
          Char.ofNat (0x10000 + (unit - 0xD800) * 0x400 + (next - 0xDC00)) :: decodeUnits rest
        else replacement :: decodeUnits (next :: rest)
      else if isLowSurrogate unit then replacement :: decodeUnits (next :: rest)
      else Char.ofNat unit :: decodeUnits (next :: rest)

/-- The value of a hexadecimal digit. -/
def hexDigit? (digit : Char) : Option Nat :=
  if '0' ≤ digit ∧ digit ≤ '9' then some (digit.toNat - '0'.toNat)
  else if 'a' ≤ digit ∧ digit ≤ 'f' then some (digit.toNat - 'a'.toNat + 10)
  else if 'A' ≤ digit ∧ digit ≤ 'F' then some (digit.toNat - 'A'.toNat + 10)
  else none

/-- The code unit written with four hexadecimal digits. -/
def unit? (first second third fourth : Char) : Option Nat := do
  let first ← hexDigit? first
  let second ← hexDigit? second
  let third ← hexDigit? third
  let fourth ← hexDigit? fourth
  return ((first * 16 + second) * 16 + third) * 16 + fourth

/-- The part of a malformed escape that an error shows: six bytes, or all that
is left if the sixth byte does not end a character. -/
def shown (tail : Text) : Text :=
  match Text.cutBytes 6 tail with
  | .after front => front
  | _ => tail

/-- Resolves escapes; `units` are those just read, the latest first. -/
def resolveFrom (units : List Nat) : Text → Except Text Text
  | [] => .ok (decodeUnits units.reverse)
  | '\\' :: 'u' :: first :: second :: third :: fourth :: rest =>
      match unit? first second third fourth with
      | some unit => resolveFrom (unit :: units) rest
      | none => .error (shown ('\\' :: 'u' :: first :: second :: third :: fourth :: rest))
  | '\\' :: 'u' :: rest => .error (shown ('\\' :: 'u' :: rest))
  | '\\' :: '\\' :: rest => do
      let resolved ← resolveFrom [] rest
      return decodeUnits units.reverse ++ '\\' :: '\\' :: resolved
  | character :: rest => do
      let resolved ← resolveFrom [] rest
      return decodeUnits units.reverse ++ character :: resolved

/-- The text with its escapes resolved, or the text of the first malformed one.
Other backslashes are kept, and a pair of them never starts an escape. -/
def resolve (text : Text) : Except Text Text :=
  resolveFrom [] text

end BnfParsing.Escape

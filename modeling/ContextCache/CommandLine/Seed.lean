import ContextCache.Text.Blank
import ContextCache.Text.Natural

/-!
Contract: seeds as they are written on a command line.

A seed is a 64-bit number in decimal digits, or in hexadecimal digits behind `0x`
or `0X`. Blanks around it do not count, and underscores may stand anywhere
behind the radix mark.

Owns:
- reading a seed.

Does not own: reading numbers.
-/

namespace ContextCache.CommandLine

/-- The greatest seed. -/
def maxSeed : Nat := UInt64.size - 1

/-- A text without its underscores. -/
def withoutUnderscores (text : List Char) : List Char :=
  text.filter fun character => character != '_'

/-- The radix of a trimmed seed, and its digits with their underscores. -/
def radixAndDigits : List Char → Nat × List Char
  | '0' :: 'x' :: digits => (16, digits)
  | '0' :: 'X' :: digits => (16, digits)
  | digits => (10, digits)

/-- Reads a seed. -/
def readSeed (raw : String) : Except Text.NaturalFault UInt64 :=
  let (radix, digits) := radixAndDigits (Text.trim raw.toList)
  match Text.readNatural radix maxSeed (withoutUnderscores digits) with
  | .ok value => .ok (UInt64.ofNat value)
  | .error fault => .error fault

end ContextCache.CommandLine

/-!
Contract: reading a natural number that has to fit a limit.

A number is an optional plus sign and one or more digits. Leading zeros are
allowed. Of several faults the first one in reading order is reported, and of a
character that is no digit and a number already too great it is the character.

Owns:
- digits in a radix, reading, and the three ways in which reading fails.

Does not own: blanks and separators, which a caller takes away first.
-/

namespace ContextCache.Text

/-- Why a text is no number within the limit. -/
inductive NaturalFault where
  | empty
  | invalidDigit
  | overflow
deriving DecidableEq, Repr

/-- The value of a digit in a radix of at most sixteen; letters may have either case. -/
def digit? (radix : Nat) (character : Char) : Option Nat :=
  let code := character.toNat
  let value? :=
    if 48 ≤ code ∧ code ≤ 57 then some (code - 48)
    else if 97 ≤ code ∧ code ≤ 102 then some (code - 87)
    else if 65 ≤ code ∧ code ≤ 70 then some (code - 55)
    else none
  value?.filter fun value => value < radix

/-- Reads on after digits that were worth `value`. -/
def readDigits (radix limit : Nat) : Nat → List Char → Except NaturalFault Nat
  | value, [] => .ok value
  | value, character :: rest =>
    match digit? radix character with
    | none => .error .invalidDigit
    | some digit =>
      let extended := value * radix + digit
      if limit < extended then .error .overflow else readDigits radix limit extended rest

/-- Reads a whole text as a natural number of at most `limit`. -/
def readNatural (radix limit : Nat) : List Char → Except NaturalFault Nat
  | [] => .error .empty
  | ['+'] => .error .invalidDigit
  | '+' :: digits => readDigits radix limit 0 digits
  | digits => readDigits radix limit 0 digits

end ContextCache.Text

import ContextCache.Text.Hidden

/-!
Contract: a text in quotation marks, with everything visible.

Quotation marks and backslashes are escaped by a backslash, four controls have a
letter of their own, and every other character without a glyph is shown by its
number in lower-case hexadecimal digits.

Owns:
- the escape of one character and the quoted form of a text.

Does not own: the class of characters without a glyph.
-/

namespace ContextCache.Text

/-- The number of a character between braces. -/
def numbered (character : Char) : String :=
  "\\u\x7b" ++ String.ofList (Nat.toDigits 16 character.toNat) ++ "\x7d"

/-- One character as it stands between quotation marks. -/
def escaped (character : Char) : String :=
  if character = '\x00' then "\\0"
  else if character = '\t' then "\\t"
  else if character = '\n' then "\\n"
  else if character = '\r' then "\\r"
  else if character = '"' then "\\\""
  else if character = '\\' then "\\\\"
  else if isHidden character then numbered character
  else character.toString

/-- A text between quotation marks. -/
def quoted (text : String) : String :=
  "\"" ++ String.join (text.toList.map escaped) ++ "\""

end ContextCache.Text

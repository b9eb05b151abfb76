/-!
Contract: blank characters at the ends of a text.

Blank characters are those with the `White_Space` property: the ASCII blanks, the
next-line character, and the spaces and separators of other scripts. A zero-width
space and a byte order mark are not among them.

Owns:
- the class of blank characters and trimming.

Does not own: what the trimmed text means.
-/

namespace ContextCache.Text

/-- The `White_Space` property. -/
def isBlank (character : Char) : Bool :=
  let code := character.toNat
  (0x9 ≤ code && code ≤ 0xd) || code == 0x20 || code == 0x85 || code == 0xa0 ||
    code == 0x1680 || (0x2000 ≤ code && code ≤ 0x200a) || code == 0x2028 ||
    code == 0x2029 || code == 0x202f || code == 0x205f || code == 0x3000

/-- A text without the blank characters at its two ends. -/
def trim (text : List Char) : List Char :=
  ((text.dropWhile isBlank).reverse.dropWhile isBlank).reverse

end ContextCache.Text

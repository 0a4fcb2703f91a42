import MarkupTemplate.Text.Ranges

/-!
# Blank characters

White space is the `White_Space` property, which has no zero-width character
and no byte order mark. Its table has been the same since version 6.3 of the Unicode
Standard. A text is trimmed at its start, at its end or at both.
-/

namespace MarkupTemplate.Text

/-- Code points of white space, in ascending order. -/
def blankRanges : List (Nat × Nat) := [
    (0x0009, 0x000D), (0x0020, 0x0020), (0x0085, 0x0085), (0x00A0, 0x00A0), (0x1680, 0x1680),
    (0x2000, 0x200A), (0x2028, 0x2029), (0x202F, 0x202F), (0x205F, 0x205F), (0x3000, 0x3000)]

/-- Whether a character is white space. -/
def isBlank (character : Char) : Bool :=
  inRanges blankRanges character.toNat

/-- Drops the white space in front of a text. -/
def trimStart (characters : List Char) : List Char :=
  characters.dropWhile isBlank

/-- Drops the white space at the end of a text. -/
def trimEnd (characters : List Char) : List Char :=
  (characters.reverse.dropWhile isBlank).reverse

/-- Drops the white space at both ends of a text. -/
def trim (characters : List Char) : List Char :=
  trimEnd (trimStart characters)

end MarkupTemplate.Text

import Selectivity.Text.CodeRanges

/-!
# Blanks

The white space characters of every script, and the texts left when blanks are removed from the
ends.
-/

namespace Selectivity.Text

/-- White space, the four separators below the plain space included; a zero-width space is none. -/
def blankRanges : CodeRanges :=
  [(0x09, 0x0D), (0x1C, 0x20), (0x85, 0x85), (0xA0, 0xA0), (0x1680, 0x1680),
   (0x2000, 0x200A), (0x2028, 0x2029), (0x202F, 0x202F), (0x205F, 0x205F),
   (0x3000, 0x3000)]

def isBlank (character : Char) : Bool :=
  blankRanges.contains character.toNat

def trimStart (text : List Char) : List Char :=
  text.dropWhile isBlank

/-- The text without the characters of a class at either end. -/
def trimWhere (dropped : Char → Bool) (text : List Char) : List Char :=
  ((text.dropWhile dropped).reverse.dropWhile dropped).reverse

/-- The text without blanks at either end. -/
def trim (text : List Char) : List Char :=
  trimWhere isBlank text

end Selectivity.Text

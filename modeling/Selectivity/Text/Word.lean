import Selectivity.Text.Alphanumeric

/-!
# Words

Names and literals of a query are words: they consist of letters and numbers of any script and of
underscores.
-/

namespace Selectivity.Text

/-- A letter or number of any script, or an underscore. -/
def isWordChar (character : Char) : Bool :=
  if character.toNat < 0x80 then
    character.isAlphanum || character == '_'
  else
    alphanumericRanges.contains character.toNat

/-- A word: at least one character, and word characters only. -/
def isWord (text : List Char) : Bool :=
  !text.isEmpty && text.all isWordChar

end Selectivity.Text

import Selectivity.Text.Blank
import Selectivity.Text.DecimalDigit

/-!
# Numerals

Whole numbers are written in base ten without leading zeros. A text is read as a whole number
more freely: blanks around it, a sign, leading zeros, digits of any script and single underscores
between digits are allowed. A numeral of too many digits is neither read nor written.
-/

namespace Selectivity.Text

/-- The ASCII digit of a value below ten. -/
def digitChar (value : Nat) : Char :=
  Char.ofNat ('0'.toNat + value)

/-- The digits of a natural number in base ten, most significant first. -/
def digits (number : Nat) : List Char :=
  if number < 10 then [digitChar number]
  else digits (number / 10) ++ [digitChar (number % 10)]
termination_by number
decreasing_by omega

/-- The numeral of an integer: a minus sign if it is negative, then its digits. -/
def numeral (number : Int) : List Char :=
  if number < 0 then '-' :: digits number.natAbs else digits number.natAbs

/-- An ASCII digit. -/
def isDigit (character : Char) : Bool :=
  '0' ≤ character && character ≤ '9'

/-- The number that a row of ASCII digits stands for. -/
def digitsValue (text : List Char) : Nat :=
  text.foldl (fun value character => value * 10 + (character.toNat - '0'.toNat)) 0

/-- Reads a sign; without one the number is not negative. -/
def splitSign : List Char → Bool × List Char
  | '-' :: rest => (true, rest)
  | '+' :: rest => (false, rest)
  | text => (false, text)

/-- The signed number with the given magnitude. -/
def signed (negative : Bool) (magnitude : Nat) : Int :=
  if negative then -(magnitude : Int) else magnitude

/-- Reads the rest of a row of digits after at least one digit: an underscore needs a digit
behind it. -/
def restOfDigits? (value : Nat) : List Char → Option Nat
  | [] => some value
  | '_' :: character :: rest =>
      match digitValue? character with
      | some digit => restOfDigits? (value * 10 + digit) rest
      | none => none
  | character :: rest =>
      match digitValue? character with
      | some digit => restOfDigits? (value * 10 + digit) rest
      | none => none

/-- Reads a whole row of digits of any script, with single underscores between digits. -/
def unsigned? : List Char → Option Nat
  | [] => none
  | character :: rest =>
      match digitValue? character with
      | some digit => restOfDigits? digit rest
      | none => none

/-- The most digits that a numeral can have. -/
def digitLimit : Nat :=
  4300

/-- Is the number too long to be written? -/
def exceedsDigits (number : Nat) : Bool :=
  Nat.pow 10 digitLimit ≤ number

theorem exceedsDigits_eq_true_iff {number : Nat} :
    exceedsDigits number = true ↔ Nat.pow 10 digitLimit ≤ number :=
  decide_eq_true_iff

theorem exceedsDigits_eq_false_iff {number : Nat} :
    exceedsDigits number = false ↔ ¬ Nat.pow 10 digitLimit ≤ number :=
  decide_eq_false_iff_not

-- The power is not to be computed while a statement is elaborated.
attribute [irreducible] exceedsDigits

/-- The numeral of an integer as a text, if it is not too long to be written. -/
def numeral? (number : Int) : Option String :=
  if exceedsDigits number.natAbs then none else some (toString number)

/-- Does a row of digits, with underscores between them, have more digits than the limit allows, if
there is one? Zeros in front count. -/
def exceeds (limit : Option Nat) (text : List Char) : Bool :=
  limit.any fun most => most < text.countP (· != '_')

/-- Does a row of digits, with underscores between them, have too many digits to be read? -/
def hasTooManyDigits (text : List Char) : Bool :=
  exceeds (some digitLimit) text

/-- A blank that may stand around a number: white space, but none of the four separators. -/
def isNumeralBlank (character : Char) : Bool :=
  isBlank character && !(0x1C ≤ character.toNat && character.toNat ≤ 0x1F)

/-- Reads a whole number in its free form. -/
def integer? (text : List Char) : Option Int :=
  match splitSign (trimWhere isNumeralBlank text) with
  | (negative, rest) =>
      if hasTooManyDigits rest then none else (unsigned? rest).map (signed negative)

end Selectivity.Text

import Selectivity.Number.Binary64

/-!
# Decimal numbers

How the number is found that a decimal text stands for. The text has digits with at most one point
among them, it may have a sign and an exponent, and ASCII blanks may stand around it. Its exact
value is rounded once to a 64-bit number. There are also words for the infinite numbers.
-/

namespace Selectivity.Decimal

open Text

/-- The ASCII blanks, which may stand around a number. -/
def isAsciiBlank (character : Char) : Bool :=
  character == ' ' || (0x09 ≤ character.toNat && character.toNat ≤ 0x0D)

/-- The parts of a decimal text. -/
structure Parts where
  negative : Bool
  whole : List Char
  fraction : List Char
  exponent : Int
  deriving DecidableEq, Repr

/-- Reads the digits of an exponent, which end the text. -/
def exponent? (text : List Char) : Option Int :=
  match splitSign text with
  | (negative, rest) =>
      if !rest.isEmpty && rest.all isDigit then some (signed negative (digitsValue rest))
      else none

/-- Reads what stands behind the digits of a decimal text. -/
def exponentOf? : List Char → Option Int
  | [] => some 0
  | letter :: rest => if letter == 'e' || letter == 'E' then exponent? rest else none

/-- Reads the parts of a decimal text. -/
def parts? (text : List Char) : Option Parts :=
  match splitSign (trimWhere isAsciiBlank text) with
  | (negative, unsigned) =>
      match unsigned.span isDigit with
      | (whole, '.' :: rest) =>
          match rest.span isDigit with
          | (fraction, after) =>
              (exponentOf? after).map fun exponent => ⟨negative, whole, fraction, exponent⟩
      | (whole, after) =>
          (exponentOf? after).map fun exponent => ⟨negative, whole, [], exponent⟩

/-- The nearest 64-bit number to a natural number times a power of ten. Powers are not computed
where the result is infinite or zero in any case. -/
def scale (negative : Bool) (number : Nat) (exponent : Int) : Binary64 :=
  if number = 0 then .zero negative
  else if Binary64.wholeLimit ≤ exponent then .infinite negative
  else if 0 ≤ exponent then Binary64.nearest negative (number * Nat.pow 10 exponent.toNat) 1
  else if Binary64.bitLength number + 3 * exponent < -(Binary64.placeLimit + 1) then .zero negative
  else Binary64.nearest negative number (Nat.pow 10 (-exponent).toNat)

/-- The number that the parts stand for, unless there is no digit. -/
def Parts.value? (parts : Parts) : Option Binary64 :=
  let digits := parts.whole ++ parts.fraction
  if digits.isEmpty then none
  else
    some (scale parts.negative (digitsValue digits) (parts.exponent - parts.fraction.length))

/-- The words for the infinite numbers, in small letters, and whether these are negative. -/
def infinityWords : List (List Char × Bool) :=
  [("inf".toList, false), ("+inf".toList, false), ("-inf".toList, true),
   ("infinity".toList, false), ("+infinity".toList, false), ("-infinity".toList, true)]

/-- The infinite number of a word in letters of either case. -/
def infinity? (text : List Char) : Option Binary64 :=
  (infinityWords.lookup (text.map Char.toLower)).map .infinite

/-- The number that a text stands for. -/
def value? (text : List Char) : Option Binary64 :=
  (infinity? text).or ((parts? text).bind Parts.value?)

end Selectivity.Decimal

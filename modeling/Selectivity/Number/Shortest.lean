import Selectivity.Number.Decimal

/-!
# The text of a 64-bit number

A 64-bit number is written with the fewest digits that are read back as the same number, and with
those nearest to it. It is written in full with a point if it is at least a ten-thousandth and
below ten to the sixteenth, and with a power of ten otherwise.
-/

namespace Selectivity.Binary64

/-- A number of digits and the power of ten that they are multiplied by. -/
structure Digits where
  number : Nat
  exponent : Int
  deriving DecidableEq, Repr

/-- More decimal places than any finite number has in front of its first digit. -/
def leadingPlaces : Nat :=
  330

/-- The power of ten that is just above a quotient. -/
def magnitude (numerator denominator : Nat) : Int :=
  (Text.digits (numerator * Nat.pow 10 leadingPlaces / denominator)).length - leadingPlaces

/-- The two neighbours of a quotient among the multiples of a power of ten, the nearer one
first. -/
def neighbours (numerator denominator : Nat) (exponent : Int) : List Digits :=
  let upper := numerator * Nat.pow 10 (-exponent).toNat
  let lower := denominator * Nat.pow 10 exponent.toNat
  let near := roundQuotient upper lower
  let below := upper / lower
  [⟨near, exponent⟩, ⟨if near = below then below + 1 else below, exponent⟩]

/-- The most digits that are needed. -/
def mostDigits : Nat :=
  17

/-- The fewest digits that are read back as the given parts. -/
def shortest (parts places : Nat) : Digits :=
  let denominator := Nat.pow 2 places
  let top := magnitude parts denominator
  let candidates := (List.range' 1 mostDigits).flatMap fun (count : Nat) =>
    neighbours parts denominator (top - count)
  (candidates.find? fun digits =>
    Decimal.scale false digits.number digits.exponent == .finite parts places).getD ⟨parts, 0⟩

/-- The digits without the zeros at their end. -/
def dropFinalZeros (digits : List Char) : List Char :=
  (digits.reverse.dropWhile (· == '0')).reverse

/-- Digits with the point behind the given number of them. -/
def positional (digits : List Char) (point : Int) : List Char :=
  if point ≤ 0 then ['0', '.'] ++ List.replicate (-point).toNat '0' ++ digits
  else
    let whole := digits.take point.toNat
    let fraction := digits.drop point.toNat
    whole ++ List.replicate (point.toNat - whole.length) '0' ++ ['.'] ++
      (if fraction.isEmpty then ['0'] else fraction)

/-- Digits with the point behind the first of them and a power of ten. -/
def scientific (digits : List Char) (exponent : Int) : List Char :=
  let fraction := digits.drop 1
  let power := Text.digits exponent.natAbs
  digits.take 1 ++ (if fraction.isEmpty then [] else '.' :: fraction) ++
    ['e', if exponent < 0 then '-' else '+'] ++
    List.replicate (2 - power.length) '0' ++ power

/-- The text of a number of parts that is not zero. -/
def magnitudeText (parts places : Nat) : List Char :=
  let found := shortest parts places
  let digits := Text.digits found.number
  let point := digits.length + found.exponent
  if -4 < point ∧ point ≤ 16 then positional (dropFinalZeros digits) point
  else scientific (dropFinalZeros digits) (point - 1)

def text : Binary64 → List Char
  | .infinite false => "inf".toList
  | .infinite true => "-inf".toList
  | .negativeZero => "-0.0".toList
  | .finite significand places =>
      if significand = 0 then "0.0".toList
      else if significand < 0 then '-' :: magnitudeText significand.natAbs places
      else magnitudeText significand.natAbs places

end Selectivity.Binary64

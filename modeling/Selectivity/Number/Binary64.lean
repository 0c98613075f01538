import Selectivity.Text.Numeral

/-!
# 64-bit numbers

A 64-bit number is a whole number of parts, where a part is one divided by a power of two, or it
is infinite. It has at most 53 significant bits and at most 1074 binary places. Rounding goes to
the nearest such number, and of two that are equally near to the one with an even last bit. What
would have more than 1024 bits in front of the point is infinite, and what becomes zero keeps its
sign.
-/

namespace Selectivity

/-- A 64-bit number. -/
inductive Binary64 where
  /-- The number `significand / 2 ^ places`, with as few places as possible. -/
  | finite (significand : Int) (places : Nat)
  | negativeZero
  | infinite (negative : Bool)
  deriving DecidableEq, Repr

namespace Binary64

def precision : Nat :=
  53

/-- The most binary places behind the point. -/
def placeLimit : Nat :=
  1074

/-- The most bits in front of the point. -/
def wholeLimit : Nat :=
  1024

def zero (negative : Bool) : Binary64 :=
  if negative then .negativeZero else .finite 0 0

/-- The number of bits of a natural number. -/
def bitLength (number : Nat) : Nat :=
  if number = 0 then 0 else number.log2 + 1

/-- The nearest whole number to a quotient, and of two the even one. -/
def roundQuotient (numerator denominator : Nat) : Nat :=
  let quotient := numerator / denominator
  let rest := 2 * (numerator % denominator)
  if rest < denominator then quotient
  else if denominator < rest then quotient + 1
  else quotient + quotient % 2

/-- The nearest natural number that has the significant bits of a 64-bit number. -/
def round (number : Nat) : Nat :=
  let unit := Nat.pow 2 (bitLength number - precision)
  roundQuotient number unit * unit

/-- The nearest 64-bit number to an integer that is not beyond the largest of them. -/
def ofInt (number : Int) : Binary64 :=
  .finite (if number < 0 then -(round number.natAbs : Int) else round number.natAbs) 0

/-- A number of parts with as few places as possible. -/
def reduce (negative : Bool) (parts : Nat) : (places : Nat) → Binary64
  | 0 => .finite (Text.signed negative parts) 0
  | places + 1 =>
      if parts % 2 = 0 then reduce negative (parts / 2) places
      else .finite (Text.signed negative parts) (places + 1)

/-- The number of binary places that a 64-bit number near to a quotient can have. -/
def placesNear (numerator denominator : Nat) : Nat :=
  min placeLimit
    (precision + placeLimit - bitLength (numerator * Nat.pow 2 placeLimit / denominator))

/-- The nearest 64-bit number to a quotient with a sign. -/
def nearest (negative : Bool) (numerator denominator : Nat) : Binary64 :=
  let places := placesNear numerator denominator
  let unit := Nat.pow 2 (bitLength (numerator / denominator) - precision)
  let parts := roundQuotient (numerator * Nat.pow 2 places) (denominator * unit) * unit
  if parts = 0 then zero negative
  else if Nat.pow 2 wholeLimit ≤ parts / Nat.pow 2 places then .infinite negative
  else reduce negative parts places

/-- The whole part of a finite number. -/
def whole? : Binary64 → Option Int
  | .finite significand places => some (significand.tdiv (Nat.pow 2 places))
  | .negativeZero => some 0
  | .infinite _ => none

/-- The whole number that a number is equal to. -/
def exactWhole? : Binary64 → Option Int
  | .finite whole 0 => some whole
  | .negativeZero => some 0
  | _ => none

end Binary64

end Selectivity

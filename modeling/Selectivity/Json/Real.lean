import Selectivity.Number.Shortest

/-!
# Numbers that are not whole

A number that is not written as a whole number stands for the nearest 64-bit number, and there is
one standard way to write that: with the fewest digits, or by a name if it is infinite or no number.
-/

namespace Selectivity

/-- The standard form of a 64-bit number. -/
def Binary64.standardForm : Binary64 → String
  | .infinite false => "Infinity"
  | .infinite true => "-Infinity"
  | value => String.ofList value.text

namespace Json

/-- The standard form of a number that was written in any way. -/
def realForm (text : List Char) : String :=
  match Decimal.value? text with
  | none => "NaN"
  | some value => value.standardForm

end Json

end Selectivity

import Selectivity.Statistics.Label
import Selectivity.Text.Numeral

/-!
# Attributes

An attribute is a named column together with the number of distinct values it takes, which is
never below one. Counts come from outside as integers and are checked where they enter. A count that
is refused is told, and that fails if it has too many digits to be written.
-/

namespace Selectivity

/-- Why a statistic is refused. -/
inductive StatisticFault where
  | negativeTupleCount (count : Int)
  | valueCountBelowOne (column : Label) (count : Int)
  /-- The count is out of bounds, and has too many digits to be told. -/
  | unwritable (count : Int)
  /-- The count is no whole number. Such counts are not modelled. -/
  | notWhole
  deriving DecidableEq, Repr

namespace StatisticFault

/-- The text that tells a refused statistic, if there is one. -/
def message? : StatisticFault → Option String
  | .negativeTupleCount count =>
      (Text.numeral? count).map fun numeral =>
        s!"Tuple count must not be negative, but was {numeral}"
  | .valueCountBelowOne column count =>
      (Text.numeral? count).map fun numeral =>
        s!"Value count of attribute '{column.display}' must be at least 1, but was {numeral}"
  | .unwritable _ => none
  | .notWhole => none

/-- Does the fault tell the count that is refused? -/
def isTold : StatisticFault → Bool
  | .negativeTupleCount _ => true
  | .valueCountBelowOne _ _ => true
  | _ => false

/-- The fault for a count that is out of bounds: the given one, which tells the count, if the count
can be written. -/
def ofRefusal (count : Int) (told : StatisticFault) : StatisticFault :=
  if Text.exceedsDigits count.natAbs then .unwritable count else told

end StatisticFault

/-- A named column and its number of distinct values. -/
structure Attribute where
  /-- The name; attributes of one name describe one column. -/
  name : Label
  valueCount : Nat
  valueCount_pos : 0 < valueCount
  deriving DecidableEq, Repr

namespace Attribute

/-- The attribute with an offered value count, if the count is at least one. -/
def ofCount (name : Label) (count : Int) : Except StatisticFault Attribute :=
  if positive : 1 ≤ count then
    .ok ⟨name, count.toNat, by omega⟩
  else
    .error (.ofRefusal count (.valueCountBelowOne name count))

/-- The same column with another value count. -/
def withValueCount (column : Attribute) (count : Nat) (positive : 0 < count) :
    Attribute :=
  ⟨column.name, count, positive⟩

/-- The short form, `name:count`. -/
def render (column : Attribute) : String :=
  s!"{column.name.display}:{column.valueCount}"

/-- The constructor form, with the name as a literal. -/
def expression (column : Attribute) : String :=
  s!"Attribute({column.name.literal}, value_count={column.valueCount})"

/-- Do two attributes have names of the same worth and the same value count? -/
def agrees (left right : Attribute) : Bool :=
  left.name.agrees right.name && left.valueCount == right.valueCount

end Attribute

end Selectivity

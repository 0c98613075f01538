import Selectivity.Json.Agreement
import Selectivity.Json.Real

/-!
# Cells

The entries of a table. Two things stand for an entry that is missing: the number that is no
number, in a column of numbers and wherever a file leaves a field out, and the empty value.
-/

namespace Selectivity

/-- An entry of a table. -/
inductive Cell where
  /-- The number that is no number. -/
  | missing
  | null
  | integer (value : Int)
  | real (value : Binary64)
  | text (value : String)
  | flag (value : Bool)
  | compound (value : Json)
  deriving DecidableEq, Repr

/-- Why an entry is no count. -/
inductive CountFault where
  | notANumber
  /-- The empty value, a list or an object has no number. -/
  | noNumber
  | infinite
  deriving DecidableEq, Repr

namespace Cell

def isMissing : Cell → Bool
  | .missing => true
  | .null => true
  | _ => false

/-- Does an item of a list miss? A list of one item misses if that does, and of other lists it
cannot be told. -/
def itemMisses? : Json → Option Bool
  | .null => some true
  | .array [item] => itemMisses? item
  | .array _ => none
  | item => some item.isNoNumber

/-- Does the entry miss, as far as this can be told? -/
def misses? : Cell → Option Bool
  | .compound value => itemMisses? value
  | cell => some cell.isMissing

/-- Is the entry a list or an object? -/
def isCompound : Cell → Bool
  | .compound _ => true
  | _ => false

/-- Is the entry a number, or does the number miss? -/
def isNumber : Cell → Bool
  | .missing => true
  | .integer _ => true
  | .real _ => true
  | _ => false

/-- The entry for a number in its standard form. -/
def ofStandard (standard : String) : Cell :=
  match Decimal.value? standard.toList with
  | some value => .real value
  | none => .missing

/-- The whole number that an entry stands for. A text is read freely. -/
def count : Cell → Except CountFault Int
  | .missing => .error .notANumber
  | .null => .error .noNumber
  | .integer value => .ok value
  | .real value =>
      match value.whole? with
      | some whole => .ok whole
      | none => .error .infinite
  | .text value =>
      match Text.integer? value.toList with
      | some number => .ok number
      | none => .error .notANumber
  | .flag value => .ok (if value then 1 else 0)
  | .compound _ => .error .noNumber

/-- The value of an entry that is used as a name. -/
def label : Cell → Json
  | .missing => .real "NaN"
  | .null => .null
  | .integer value => .integer value
  | .real value => .real value.standardForm
  | .text value => .string value
  | .flag value => .boolean value
  | .compound value => value

def ofValue : Json → Cell
  | .null => .null
  | .boolean value => .flag value
  | .integer value => .integer value
  | .real standard => .ofStandard standard
  | .string value => .text value
  | value => .compound value

/-- The value by which entries are compared: truth values and 64-bit numbers count as the whole
numbers that they are equal to. -/
def key : Cell → Cell
  | .flag value => .integer (if value then 1 else 0)
  | .real value =>
      match value.exactWhole? with
      | some whole => .integer whole
      | none => .real value
  | cell => cell

end Cell

end Selectivity

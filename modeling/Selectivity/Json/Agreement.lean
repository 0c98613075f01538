import Selectivity.Json.Display
import Selectivity.Number.Decimal

/-!
# Agreement of values

Two values agree if they are worth the same. A truth value is worth one or zero, a number may be
written as a whole number or not, and the members of an object may come in any order. What stands
in place of a number without being one agrees with nothing.
-/

namespace Selectivity.Json

/-- The form by which numbers are compared that are not written as whole numbers. -/
def realKey (standard : String) : Json :=
  match (Decimal.value? standard.toList).bind Binary64.exactWhole? with
  | some whole => .integer whole
  | none => .real standard

mutual

/-- The form by which a value is compared. -/
def key : Json → Json
  | .boolean value => .integer (if value then 1 else 0)
  | .real standard => realKey standard
  | .array items => .array (keys items)
  | .object members => .object (memberKeys members)
  | value => value

/-- The forms by which the items of a list are compared. -/
def keys : List Json → List Json
  | [] => []
  | item :: rest => key item :: keys rest

/-- The members of an object in the order of their names, each in the form by which it is
compared. -/
def memberKeys : List (String × Json) → List (String × Json)
  | [] => []
  | (name, value) :: rest => insertMember name (key value) (memberKeys rest)

end

/-- Does the value stand in place of a number without being one? -/
def isNoNumber : Json → Bool
  | .real standard => standard == "NaN"
  | _ => false

def agrees (left right : Json) : Bool :=
  !left.isNoNumber && left.key == right.key

end Selectivity.Json

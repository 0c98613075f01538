import Selectivity.Text.Quoted

/-!
# Conditions

A condition compares an attribute with a literal value or with another attribute. Joins know the
second form only.
-/

namespace Selectivity

/-- The equality of two attributes. -/
structure Comparison where
  left : String
  right : String
  deriving DecidableEq, Repr

/-- The written form, `left=right`. -/
def Comparison.render (comparison : Comparison) : String :=
  comparison.left ++ "=" ++ comparison.right

/-- A condition on the tuples of a relation. -/
inductive Predicate where
  | equalsValue (column value : String)
  | equalsAttribute (comparison : Comparison)
  deriving DecidableEq, Repr

namespace Predicate

/-- The names of the attributes in a condition. -/
def attributes : Predicate → List String
  | .equalsValue column _ => [column]
  | .equalsAttribute comparison => [comparison.left, comparison.right]

/-- The two texts of a condition, in the order in which they are written. -/
def parts : Predicate → String × String
  | .equalsValue column value => (column, value)
  | .equalsAttribute comparison => (comparison.left, comparison.right)

/-- The written form, `attribute="value"` or `left=right`. -/
def render : Predicate → String
  | .equalsValue column value => column ++ "=\"" ++ value ++ "\""
  | .equalsAttribute comparison => comparison.render

/-- The constructor form, with both texts as quoted literals. -/
def expression : Predicate → String
  | .equalsValue column value =>
      "AttrEqValue(attribute=" ++ Text.quotedText column ++ ", value=" ++
        Text.quotedText value ++ ")"
  | .equalsAttribute comparison =>
      "AttrEqAttr(left=" ++ Text.quotedText comparison.left ++ ", right=" ++
        Text.quotedText comparison.right ++ ")"

end Predicate

end Selectivity

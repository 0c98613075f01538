import Selectivity.Predicate

/-!
# Operators

What a node of a plan does to its inputs. A scan has no input and carries the statistics of its
base relation; the type of these is a parameter, so that they can be held by value or by
reference. An operator of a foreign kind is only known by name: it can stand in a plan and be
printed, and it has no size.
-/

namespace Selectivity

/-- What a node does to its inputs. -/
inductive Operator (Base : Type) where
  | scan (name : String) (base : Base)
  | project (attributes : List String)
  /-- Keeps the tuples of its only input that satisfy a condition. Without a condition it has no
  size. -/
  | select (condition : Option Predicate)
  | product
  | join (condition : Comparison)
  | foreign (kind : String)
  deriving DecidableEq, Repr

namespace Operator

/-- The name of the kind of operator. -/
def kind {Base : Type} : Operator Base → String
  | .scan .. => "Scan"
  | .project .. => "Project"
  | .select .. => "Select"
  | .product => "Product"
  | .join .. => "Join"
  | .foreign kind => kind

def caption {Base : Type} : Operator Base → String
  | .scan name _ => name
  | .project attributes => "π (" ++ String.intercalate ", " attributes ++ ")"
  | .select none => "σ (None)"
  | .select (some condition) => "σ (" ++ condition.render ++ ")"
  | .product => "⨯"
  | .join condition => "⋈ (" ++ condition.render ++ ")"
  | .foreign _ => "?"

def hasCondition {Base : Type} : Operator Base → Bool
  | .select condition => condition.isSome
  | .join _ => true
  | _ => false

/-- The operator with its base statistics replaced. -/
def mapBase {Base Other : Type} (image : Base → Other) : Operator Base → Operator Other
  | .scan name base => .scan name (image base)
  | .project attributes => .project attributes
  | .select condition => .select condition
  | .product => .product
  | .join condition => .join condition
  | .foreign kind => .foreign kind

theorem mapBase_congr {Base Other : Type} {first second : Base → Other}
    {operator : Operator Base}
    (same : ∀ name base, operator = .scan name base → first base = second base) :
    operator.mapBase first = operator.mapBase second := by
  cases operator with
  | scan name base => exact congrArg (Operator.scan name) (same name base rfl)
  | project attributes => rfl
  | select condition => rfl
  | product => rfl
  | join condition => rfl
  | «foreign» kind => rfl

/-- Do two operators do the same, whatever the statistics of their base relations are? -/
def sameWork {Base Other : Type} : Operator Base → Operator Other → Bool
  | .scan left _, .scan right _ => left == right
  | .project left, .project right => left == right
  | .select left, .select right => left == right
  | .product, .product => true
  | .join left, .join right => left == right
  | .foreign left, .foreign right => left == right
  | _, _ => false

/-- The texts that go into the digest of an operator. Both forms of a condition contribute their
two texts alike. -/
def digest {Base : Type} : Operator Base → List String
  | .scan name _ => ["Scan", name]
  | .project attributes => "Project" :: attributes
  | .select none => ["Select"]
  | .select (some condition) => ["Select", condition.parts.1, condition.parts.2]
  | .product => ["Product"]
  | .join condition => ["Join", condition.left, condition.right]
  | .foreign kind => [kind]

/-- May the operator have this number of inputs? -/
def accepts {Base : Type} (operator : Operator Base) (inputs : Nat) : Bool :=
  match operator with
  | .scan .. => inputs == 0
  | .project .. => inputs == 1
  | .select .. => inputs == 1
  | .product => 2 ≤ inputs
  | .join .. => inputs == 2
  | .foreign _ => true

@[simp]
theorem hasCondition_mapBase {Base Other : Type} (image : Base → Other)
    (operator : Operator Base) : (operator.mapBase image).hasCondition = operator.hasCondition := by
  cases operator <;> rfl

@[simp]
theorem accepts_mapBase {Base Other : Type} (image : Base → Other)
    (operator : Operator Base) (inputs : Nat) :
    (operator.mapBase image).accepts inputs = operator.accepts inputs := by
  cases operator <;> rfl

end Operator

end Selectivity

import Selectivity.NameSet
import Selectivity.Operator
import Selectivity.Statistics.Relation
import Selectivity.Tree

/-!
# Plans

A plan is a tree of operators. Next to its operator each node has room for the relation that it
puts out. The inputs of an operator are the trees below it, from left to right.
-/

namespace Selectivity

/-- A node of a plan without its inputs. -/
structure PlanNode where
  operator : Operator Relation
  output : Option Relation
  deriving DecidableEq, Repr

/-- A tree of operators with the relations that they put out. -/
abbrev Plan := Tree PlanNode

namespace Plan

/-- A plan whose output is not known yet. -/
def apply (operator : Operator Relation) (inputs : List Plan) : Plan :=
  .node ⟨operator, none⟩ inputs

def operator (plan : Plan) : Operator Relation :=
  plan.label.operator

def caption (plan : Plan) : String :=
  plan.operator.caption

/-- Is the output of the root known? -/
def isEstimated (plan : Plan) : Bool :=
  plan.label.output.isSome

/-- The operators of a plan, each one before its inputs. -/
def walk (plan : Plan) : List (Operator Relation) :=
  plan.preorder.map PlanNode.operator

/-- The names under which a plan scans relations. -/
def relations : Plan → List String :=
  Tree.fold fun node below =>
    match node.operator with
    | .scan name _ => [name]
    | _ => NameSet.union below

/-- Do two plans consist of the same operators? Statistics do not count. -/
def sameAs (left right : Plan) : Bool :=
  Tree.agree (fun left right => left.operator.sameWork right.operator) left right

/-- The digests of the operators, in the shape of the plan. Plans that are the same have the same
fingerprint. -/
def fingerprint : Plan → Tree (List String) :=
  Tree.map fun node => node.operator.digest

end Plan

end Selectivity

import Selectivity.Plan.Basic

/-!
# Canonical plans

The shape of every plan that a query stands for: a projection, if one was asked for, over
selections over joins over products of scans, each operator applied to all that came before it.
The joins of one line share the scan of their relation.
-/

namespace Selectivity.Query

/-- A relation that is scanned under its name. -/
structure BaseScan (Base : Type) where
  name : String
  base : Base
  deriving DecidableEq, Repr

def BaseScan.operator {Base : Type} (scan : BaseScan Base) : Operator Base :=
  .scan scan.name scan.base

/-- The joins of one line. -/
structure JoinGroup (Base : Type) where
  scan : BaseScan Base
  /-- The conditions, one for each join. -/
  conditions : List Comparison
  deriving DecidableEq, Repr

/-- The parts of a canonical plan. -/
structure CanonicalPlan (Base : Type) where
  projection : Option (List String)
  first : BaseScan Base
  others : List (BaseScan Base)
  /-- The joins, line by line. -/
  joins : List (JoinGroup Base)
  /-- The selections, innermost first. -/
  selections : List Predicate
  deriving DecidableEq, Repr

/-- Extends a node by each item in turn, passing a state along. -/
def chain {State Node Item : Type} (extend : State → Node → Item → State × Node)
    (state : State) (node : Node) : List Item → State × Node
  | [] => (state, node)
  | item :: rest =>
      let (state, node) := extend state node item
      chain extend state node rest

namespace CanonicalPlan

variable {Base State Node : Type}

/-- All scans of the plan, those of the products first and then one for each line of joins. -/
def scans (plan : CanonicalPlan Base) : List (BaseScan Base) :=
  plan.first :: plan.others ++ plan.joins.map JoinGroup.scan

/-- Combines a node with the scan of a further relation. -/
def extendProduct (make : State → Operator Base → List Node → State × Node)
    (state : State) (left : Node) (scan : BaseScan Base) : State × Node :=
  let (state, right) := make state scan.operator []
  make state .product [left, right]

/-- Joins a node with a further relation, once for each condition. The relation is scanned
once. -/
def extendJoins (make : State → Operator Base → List Node → State × Node)
    (state : State) (left : Node) (group : JoinGroup Base) : State × Node :=
  let (state, right) := make state group.scan.operator []
  chain (fun state left condition => make state (.join condition) [left, right])
    state left group.conditions

/-- Selects from what a node puts out. -/
def extendSelection (make : State → Operator Base → List Node → State × Node)
    (state : State) (input : Node) (condition : Predicate) : State × Node :=
  make state (.select (some condition)) [input]

/-- Makes the nodes of a canonical plan with a given way of making one node, and returns the
root. -/
def assemble (make : State → Operator Base → List Node → State × Node)
    (plan : CanonicalPlan Base) (state : State) : State × Node :=
  let (state, first) := make state plan.first.operator []
  let (state, products) := chain (extendProduct make) state first plan.others
  let (state, joined) := chain (extendJoins make) state products plan.joins
  let (state, selected) := chain (extendSelection make) state joined plan.selections
  match plan.projection with
  | none => (state, selected)
  | some attributes => make state (.project attributes) [selected]

end CanonicalPlan

end Selectivity.Query

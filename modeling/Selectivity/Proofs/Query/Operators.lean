import Selectivity.Proofs.Query.Shape

/-!
# The operators of a canonical plan

The parts of a canonical plan denote one tree of operators: each product, join and selection is
applied to all that came before it. Nodes of the canonical shape have exactly these operators, so
the parts settle everything about a plan but the places of its nodes.
-/

namespace Selectivity.Query

variable {Base : Type}

def BaseScan.leaf (scan : BaseScan Base) : Tree (Operator Base) :=
  .node scan.operator []

def productWith (left : Tree (Operator Base)) (scan : BaseScan Base) : Tree (Operator Base) :=
  .node .product [left, scan.leaf]

/-- The joins of what came before with a further relation, one for each condition. -/
def joinWith (left : Tree (Operator Base)) (group : JoinGroup Base) : Tree (Operator Base) :=
  group.conditions.foldl (fun left condition => .node (.join condition) [left, group.scan.leaf])
    left

def selectBy (input : Tree (Operator Base)) (condition : Predicate) : Tree (Operator Base) :=
  .node (.select (some condition)) [input]

/-- The projection of what came before, unless all attributes are kept. -/
def projectTo (input : Tree (Operator Base)) : Option (List String) → Tree (Operator Base)
  | none => input
  | some attributes => .node (.project attributes) [input]

/-- The operators that the parts of a canonical plan denote. -/
def CanonicalPlan.tree (plan : CanonicalPlan Base) : Tree (Operator Base) :=
  let products := plan.others.foldl productWith plan.first.leaf
  let joined := plan.joins.foldl joinWith products
  let selected := plan.selections.foldl selectBy joined
  projectTo selected plan.projection

/-- The operators of a node and of those below it. -/
def operators (node : Node) : Tree (Operator RelationRef) :=
  node.map PlacedOperator.operator

theorem operators_node (ref : NodeRef) (operator : Operator RelationRef) (inputs : List Node) :
    operators (.node ⟨ref, operator⟩ inputs) = .node operator (inputs.map operators) :=
  Tree.map_node _ _ _

theorem operators_at (scan : BaseScan RelationRef) (ref : NodeRef) :
    operators (scan.at ref) = scan.leaf :=
  operators_node ref scan.operator []

theorem ProductTree.operators_eq {root : Node} {scans : List (BaseScan RelationRef)}
    (tree : ProductTree root scans) :
    ∃ first others, scans = first :: others ∧
      operators root = others.foldl productWith first.leaf := by
  induction tree with
  | scan scan ref => exact ⟨scan, [], rfl, operators_at scan ref⟩
  | product scan right ref tree induction =>
      obtain ⟨first, others, rfl, same⟩ := induction
      refine ⟨first, others ++ [scan], rfl, ?_⟩
      rw [operators_node, List.map_cons, List.map_singleton, same, operators_at,
        List.foldl_append]
      rfl

theorem JoinChain.operators_eq {left right root : Node} {conditions : List Comparison}
    (chain : JoinChain left right root conditions) :
    operators root = conditions.foldl
      (fun left condition => .node (.join condition) [left, operators right]) (operators left) := by
  induction chain with
  | start => rfl
  | join condition ref chain induction =>
      rw [operators_node, List.map_cons, List.map_singleton, induction, List.foldl_append]
      rfl

theorem JoinTree.operators_eq {products root : Node} {groups : List (JoinGroup RelationRef)}
    (tree : JoinTree products root groups) :
    operators root = groups.foldl joinWith (operators products) := by
  induction tree with
  | start => rfl
  | group group ref tree chain induction =>
      rw [chain.operators_eq, operators_at, induction, List.foldl_append]
      rfl

theorem SelectionChain.operators_eq {joined root : Node} {conditions : List Predicate}
    (chain : SelectionChain joined root conditions) :
    operators root = conditions.foldl selectBy (operators joined) := by
  induction chain with
  | start => rfl
  | select condition ref chain induction =>
      rw [operators_node, List.map_singleton, induction, List.foldl_append]
      rfl

theorem Projected.operators_eq {selected root : Node} {projection : Option (List String)}
    (projected : Projected selected root projection) :
    operators root = projectTo (operators selected) projection := by
  cases projected with
  | all => rfl
  | project attributes ref => exact operators_node ref _ [selected]

theorem Canonical.operators_eq {root : Node} {plan : CanonicalPlan RelationRef}
    (canonical : Canonical root plan) : operators root = plan.tree := by
  obtain ⟨products, joined, selected, product, join, selection, projection⟩ := canonical.shape
  obtain ⟨first, others, parts, same⟩ := product.operators_eq
  cases parts
  rw [projection.operators_eq, selection.operators_eq, join.operators_eq, same]
  rfl

end Selectivity.Query

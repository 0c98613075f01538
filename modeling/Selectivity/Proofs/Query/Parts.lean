import Selectivity.Proofs.Query.Shape

/-!
# The parts of a canonical plan

Every operator of a canonical plan stands for one of its parts or multiplies them. So whatever holds
of products, and of each scan, join, selection and projection that is listed in the parts, holds of
all nodes.
-/

namespace Selectivity.Query

/-- The operator stands for one of the parts of a canonical plan, or is a product of them. -/
inductive PartOf (plan : CanonicalPlan RelationRef) : Operator RelationRef → Prop where
  | scan {scan : BaseScan RelationRef} (member : scan ∈ plan.scans) : PartOf plan scan.operator
  | product : PartOf plan .product
  | join {group : JoinGroup RelationRef} {condition : Comparison} (member : group ∈ plan.joins)
      (listed : condition ∈ group.conditions) : PartOf plan (.join condition)
  | select {condition : Predicate} (member : condition ∈ plan.selections) :
      PartOf plan (.select (some condition))
  | project {attributes : List String} (kept : plan.projection = some attributes) :
      PartOf plan (.project attributes)

variable {plan : CanonicalPlan RelationRef}

theorem forall_preorder_node {holds : PlacedOperator → Prop} {placed : PlacedOperator}
    {inputs : List Node} (own : holds placed)
    (below : ∀ input ∈ inputs, ∀ other ∈ input.preorder, holds other) :
    ∀ other ∈ Tree.preorder (.node placed inputs), holds other := by
  intro other member
  rcases Tree.mem_preorder_node.mp member with rfl | ⟨input, listed, within⟩
  · exact own
  · exact below input listed other within

theorem BaseScan.parts {scan : BaseScan RelationRef} (member : scan ∈ plan.scans) (ref : NodeRef) :
    ∀ placed ∈ (scan.at ref).preorder, PartOf plan placed.operator :=
  forall_preorder_node (.scan member) nofun

theorem ProductTree.parts {root : Node} {members : List (BaseScan RelationRef)}
    (tree : ProductTree root members) (among : ∀ scan ∈ members, scan ∈ plan.scans) :
    ∀ placed ∈ root.preorder, PartOf plan placed.operator := by
  induction tree with
  | scan scan ref => exact BaseScan.parts (among scan List.mem_cons_self) ref
  | @product left members scan right ref tree induction =>
      have earlier := induction fun other member => among other (List.mem_append_left _ member)
      have last :=
        BaseScan.parts (among scan (List.mem_append_right _ List.mem_cons_self)) right
      exact forall_preorder_node .product
        (List.forall_mem_cons.mpr ⟨earlier, List.forall_mem_singleton.mpr last⟩)

theorem JoinChain.parts {left right root : Node} {conditions : List Comparison}
    (chain : JoinChain left right root conditions)
    (lefts : ∀ placed ∈ left.preorder, PartOf plan placed.operator)
    (rights : ∀ placed ∈ right.preorder, PartOf plan placed.operator)
    (among : ∀ condition ∈ conditions, PartOf plan (.join condition)) :
    ∀ placed ∈ root.preorder, PartOf plan placed.operator := by
  induction chain with
  | start => exact lefts
  | join condition ref chain induction =>
      have earlier := induction fun other member => among other (List.mem_append_left _ member)
      exact forall_preorder_node (among condition (List.mem_append_right _ List.mem_cons_self))
        (List.forall_mem_cons.mpr ⟨earlier, List.forall_mem_singleton.mpr rights⟩)

theorem JoinTree.parts {products root : Node} {groups : List (JoinGroup RelationRef)}
    (tree : JoinTree products root groups)
    (sources : ∀ placed ∈ products.preorder, PartOf plan placed.operator)
    (among : ∀ group ∈ groups, group ∈ plan.joins) :
    ∀ placed ∈ root.preorder, PartOf plan placed.operator := by
  induction tree with
  | start => exact sources
  | group group ref tree chain induction =>
      have earlier := induction fun other member => among other (List.mem_append_left _ member)
      have joined := among group (List.mem_append_right _ List.mem_cons_self)
      have scanned : group.scan ∈ plan.scans :=
        List.mem_append_right _ (List.mem_map_of_mem joined)
      exact chain.parts earlier (BaseScan.parts scanned ref) fun condition listed =>
        .join joined listed

theorem SelectionChain.parts {joined root : Node} {conditions : List Predicate}
    (chain : SelectionChain joined root conditions)
    (sources : ∀ placed ∈ joined.preorder, PartOf plan placed.operator)
    (among : ∀ condition ∈ conditions, condition ∈ plan.selections) :
    ∀ placed ∈ root.preorder, PartOf plan placed.operator := by
  induction chain with
  | start => exact sources
  | select condition ref chain induction =>
      have earlier := induction fun other member => among other (List.mem_append_left _ member)
      exact forall_preorder_node
        (.select (among condition (List.mem_append_right _ List.mem_cons_self)))
        (List.forall_mem_singleton.mpr earlier)

theorem Canonical.parts {root : Node} (canonical : Canonical root plan) :
    ∀ placed ∈ root.preorder, PartOf plan placed.operator := by
  obtain ⟨products, joined, selected, product, join, selection, projection⟩ := canonical.shape
  have sources : ∀ placed ∈ products.preorder, PartOf plan placed.operator :=
    product.parts fun scan member => List.mem_append_left _ member
  have joins := join.parts sources fun group member => member
  have selections := selection.parts joins fun condition member => member
  generalize kept : plan.projection = attributes at projection
  cases projection with
  | all => exact selections
  | project attributes ref =>
      exact forall_preorder_node (.project kept) (List.forall_mem_singleton.mpr selections)

end Selectivity.Query

import Selectivity.Proofs.Estimation.Bounds
import Selectivity.Proofs.Statistics.Sources

/-!
# Estimates keep within the base relations

What a node puts out keeps within the base relations that the plan below it scans, each scan taken as
often as it is used. The proof follows the plan: a scan puts out its base relation, and every other
operator stays within what its inputs stay within.
-/

namespace Selectivity

/-- The base relations that a plan scans, from left to right and as often as they are scanned. -/
def Plan.bases (plan : Plan) : List Relation :=
  plan.walk.filterMap Operator.base?

theorem Plan.bases_node (node : PlanNode) (inputs : List Plan) :
    Plan.bases (.node node inputs) =
      node.operator.base?.toList ++ (inputs.map Plan.bases).flatten := by
  have below : (inputs.flatMap Tree.preorder).map PlanNode.operator =
      inputs.flatMap Plan.walk := List.map_flatMap
  rw [bases, walk, Tree.preorder_node, List.map_cons, below, List.filterMap_cons,
    List.filterMap_flatMap, List.flatMap_def]
  cases node.operator.base? <;> rfl

namespace Query.Grew

variable {start after : Store} {node : Node}

/-- The node has put out a relation that keeps within the base relations of its plan. -/
def KeepsWithin (start after : Store) (node : Node) : Prop :=
  ∃ output, after.outputRelation? node.ref = some output ∧
    output.Within (start.plan node).bases

/-- An operator over inputs that keep within the base relations of their plans does so as well. -/
theorem keepsWithin_node (wellFormed : start.WellFormed) (sound : Store.Sound start after)
    {placed : PlacedOperator} {inputs : List Node} (grew : Grew start after (.node placed inputs))
    (below : List.Forall₂ Relation.Within (inputs.map fun input => (start.plan input).bases)
      (inputs.filterMap fun input => after.outputRelation? input.ref)) :
    KeepsWithin start after (.node placed inputs) := by
  obtain ⟨-, output, shown, estimates⟩ := grew.ruled wellFormed sound
  have fits := wellFormed.nodes placed.ref _ grew.stored
  refine ⟨output, shown, ?_⟩
  rw [Store.plan_node, Plan.bases_node, List.map_map]
  obtain ⟨ref, operator⟩ := placed
  cases scanned : operator.base? with
  | some base =>
      obtain ⟨name, rfl⟩ := Operator.exists_of_base?_eq_some scanned
      cases List.eq_nil_of_length_eq_zero (eq_of_beq fits.arity)
      have same := Store.relation_eq_of_extends sound.extension wellFormed (fits.base name base rfl)
      cases estimates with
      | scan =>
          rw [same]
          exact Relation.within_self _
  | none =>
      have noScan : ∀ image : RelationRef → Relation, (operator.mapBase image).base? = none := by
        intro image
        simp [scanned]
      rw [noScan]
      exact estimates.within (noScan _) below

mutual

theorem keepsWithin (wellFormed : start.WellFormed) (sound : Store.Sound start after) (node : Node)
    (grew : Grew start after node) : KeepsWithin start after node := by
  cases node with
  | node placed inputs =>
      apply grew.keepsWithin_node wellFormed sound
      exact allKeepWithin wellFormed sound inputs (grew.ruled wellFormed sound).1

theorem allKeepWithin (wellFormed : start.WellFormed) (sound : Store.Sound start after)
    (nodes : List Node) (grew : ∀ node ∈ nodes, Grew start after node) :
    List.Forall₂ Relation.Within (nodes.map fun input => (start.plan input).bases)
      (nodes.filterMap fun input => after.outputRelation? input.ref) := by
  cases nodes with
  | nil => exact .nil
  | cons node rest =>
      obtain ⟨here, later⟩ := List.forall_mem_cons.mp grew
      obtain ⟨output, shown, within⟩ := keepsWithin wellFormed sound node here
      rw [List.map_cons, List.filterMap_cons, shown]
      exact .cons within (allKeepWithin wellFormed sound rest later)

end

mutual

theorem of_mem_preorder (wellFormed : start.WellFormed) (sound : Store.Sound start after)
    (node : Node) (grew : Grew start after node) :
    ∀ placed ∈ node.preorder, ∃ part, part.ref = placed.ref ∧ Grew start after part := by
  cases node with
  | node placed inputs =>
      intro other member
      rcases Tree.mem_preorder_node.mp member with rfl | ⟨input, listed, within⟩
      · exact ⟨_, rfl, grew⟩
      · have below := (grew.ruled wellFormed sound).1
        exact of_mem_allPreorders wellFormed sound inputs below input listed other within

theorem of_mem_allPreorders (wellFormed : start.WellFormed) (sound : Store.Sound start after)
    (nodes : List Node) (grew : ∀ node ∈ nodes, Grew start after node) :
    ∀ node ∈ nodes, ∀ placed ∈ node.preorder,
      ∃ part, part.ref = placed.ref ∧ Grew start after part := by
  cases nodes with
  | nil => exact nofun
  | cons node rest =>
      obtain ⟨here, later⟩ := List.forall_mem_cons.mp grew
      exact List.forall_mem_cons.mpr ⟨of_mem_preorder wellFormed sound node here,
        of_mem_allPreorders wellFormed sound rest later⟩

end

end Query.Grew

end Selectivity

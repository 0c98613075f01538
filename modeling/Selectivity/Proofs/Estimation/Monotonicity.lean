import Selectivity.Proofs.Estimation.Agreement
import Selectivity.Proofs.Estimation.Pairs
import Selectivity.Proofs.Statistics.Monotonicity

/-!
# Estimation over larger relations

Two plans without outputs are copies of each other if they differ only in the statistics of their
base relations. If those of the one lie below those of the other, then so do the meanings of all
nodes, and what a node means is defined in both copies or in none. An estimation gives every node
the relation that it means, so the outputs lie below each other as well. Only the writing of counts
can tell the copies apart.
-/

namespace Selectivity

/-- Two nodes without outputs that do the same, the first one over a lower base relation. -/
structure PlanNode.Lower (lower upper : PlanNode) : Prop where
  operators : lower.operator.Below upper.operator
  unknown : lower.output = none
  upperUnknown : upper.output = none

/-- The output of the first node lies below that of the second one, if both are known. -/
def PlanNode.Below (lower upper : PlanNode) : Prop :=
  ∀ output larger, lower.output = some output → upper.output = some larger → output.Below larger

/-- The outputs of both nodes are known, and the first one lies below the second one. -/
def PlanNode.BothBelow (lower upper : PlanNode) : Prop :=
  ∃ output larger, lower.output = some output ∧ upper.output = some larger ∧ output.Below larger

theorem Operator.Below.hasRule_eq {operator upper : Operator Relation}
    (below : operator.Below upper) : operator.hasRule = upper.hasRule := by
  cases below <;> rfl

theorem Operator.Below.hasCondition_eq {operator upper : Operator Relation}
    (below : operator.Below upper) : operator.hasCondition = upper.hasCondition := by
  cases below <;> rfl

namespace Plan

mutual

/-- Both copies of a plan have an estimate or neither has, and the one lies below the other. -/
theorem estimate_parallel {plan larger : Plan} (copies : Tree.Alike PlanNode.Lower plan larger) :
    Parallel Relation.Below plan.estimate larger.estimate := by
  cases copies with
  | @node node other inputs others labels below =>
      rw [estimate, estimate, labels.unknown, labels.upperUnknown]
      have all := estimateAll_parallel below
      revert all
      generalize estimateAll inputs = answers
      generalize estimateAll others = largerAnswers
      intro all
      cases all with
      | refused fault other => exact .refused _ _
      | given outputs => exact labels.operators.estimate outputs

theorem estimateAll_parallel {plans larger : List Plan}
    (copies : Tree.AlikeAll PlanNode.Lower plans larger) :
    Parallel (List.Forall₂ Relation.Below) (estimateAll plans) (estimateAll larger) := by
  cases copies with
  | nil => exact .given .nil
  | @cons plan other rest others first later =>
      have one := estimate_parallel first
      have all := estimateAll_parallel later
      rw [estimateAll, estimateAll]
      revert one all
      generalize estimate plan = answer
      generalize estimate other = largerAnswer
      generalize estimateAll rest = answers
      generalize estimateAll others = largerAnswers
      intro one all
      cases one with
      | refused fault other => exact .refused _ _
      | given output =>
          cases all with
          | refused fault other => exact .refused _ _
          | given outputs => exact .given (.cons output outputs)

end

end Plan

theorem Parallel.isOk_iff {Fault Other Value Image : Type} {related : Value → Image → Prop}
    {answer : Except Fault Value} {other : Except Other Image}
    (answers : Parallel related answer other) :
    (∃ value, answer = .ok value) ↔ ∃ value, other = .ok value := by
  cases answers with
  | refused fault other =>
      constructor
      · rintro ⟨value, same⟩
        cases same
      · rintro ⟨value, same⟩
        cases same
  | given values => exact ⟨fun _ => ⟨_, rfl⟩, fun _ => ⟨_, rfl⟩⟩

theorem Parallel.related {Fault Other Value Image : Type} {related : Value → Image → Prop}
    {value : Value} {image : Image}
    (answers : Parallel related (.ok value : Except Fault Value) (.ok image : Except Other Image)) :
    related value image := by
  cases answers with
  | given values => exact values

/-- If items of two lists correspond one by one, then all of the one list have what corresponds to
a property of all of the other. -/
theorem forall_mem_iff {α β : Type} {left : List α} {right : List β} {first : α → Prop}
    {second : β → Prop}
    (related : List.Forall₂ (fun one other => first one ↔ second other) left right) :
    (∀ one ∈ left, first one) ↔ ∀ other ∈ right, second other := by
  induction related with
  | nil => simp only [List.not_mem_nil, false_imp_iff, implies_true]
  | cons head _ induction => rw [List.forall_mem_cons, List.forall_mem_cons, head, induction]

namespace Store

/-- Everything that the parts of a node mean can be written. -/
def AllWritable (store : Store) (node : Node) : Prop :=
  ∀ part ∈ store.parts node, ∀ output, Means store part output → output.isWritable = true

/-- A node means something, and none of its parts with a condition means a relation that has a
compound name. -/
structure Sensible (store : Store) (node : Node) : Prop where
  means : ∃ output, Means store node output
  names : ∀ part ∈ store.parts node, part.operator.hasCondition = true →
    ∀ output, Means store part output → output.hasCompoundName = false

variable {store : Store}

theorem Sensible.estimateNode (wellFormed : store.WellFormed) {node : Node}
    (sensible : store.Sensible node) (stored : store.node? node.ref = some node)
    (unknown : store.output? node.ref = none)
    (rules : ∀ part ∈ store.parts node, part.operator.hasRule = true) :
    (store.estimateNode node).fault = none ∧ store.AllWritable node ∨
      (store.estimateNode node).fault = some .unwritable ∧ ¬ store.AllWritable node := by
  rcases estimateNode_settles wellFormed stored unknown rules with
    ⟨quiet, settled⟩ | ⟨earlier, part, later, fault, order, -, stops, failed⟩
  · refine Or.inl ⟨quiet, fun part member output means => ?_⟩
    obtain ⟨_, _, same, tellable⟩ := settled part member
    rw [means.unique same]
    exact tellable.counts
  · have member : part ∈ store.parts node := by
      rw [order]
      exact List.mem_append_right _ List.mem_cons_self
    have pending := unknown_of_mem_parts node part member
    obtain ⟨result, means⟩ := sensible.means
    obtain ⟨output, partMeans⟩ := means.of_mem_parts node result part member
    obtain ⟨outputs, below, estimates⟩ := partMeans.inputs pending
    obtain ⟨others, alsoBelow, stops, -⟩ := stops
    rw [alsoBelow.unique below] at stops
    cases stops with
    | missing misses => exact absurd estimates misses.not_estimates
    | untold misses => exact absurd estimates misses.not_estimates
    | compoundName others condition compound =>
        rw [others.unique estimates, sensible.names part member
          ((Operator.hasCondition_mapBase _ _).symm.trans condition) output partMeans] at compound
        cases compound
    | unwritable others names tooLong =>
        rw [others.unique estimates] at tooLong
        refine Or.inr ⟨failed, fun writable => ?_⟩
        rw [writable part member output partMeans] at tooLong
        cases tooLong

theorem Sensible.of_quiet (wellFormed : store.WellFormed) {node : Node}
    (stored : store.node? node.ref = some node) (unknown : store.output? node.ref = none)
    (rules : ∀ part ∈ store.parts node, part.operator.hasRule = true)
    (quiet : (store.estimateNode node).fault = none) : store.Sensible node := by
  rcases estimateNode_settles wellFormed stored unknown rules with
    ⟨-, settled⟩ | ⟨earlier, part, later, fault, order, -, -, failed⟩
  · obtain ⟨_, _, means, _⟩ := settled node (mem_parts_self unknown)
    refine ⟨⟨_, means⟩, fun part member condition output partMeans => ?_⟩
    obtain ⟨_, _, same, tellable⟩ := settled part member
    rw [partMeans.unique same]
    exact tellable.names condition
  · rw [quiet] at failed
    cases failed

/-- Two parts that have a rule or a condition both or neither, and of which the first one means a
relation below that of the second one, if either of them means something. -/
structure Peers (lower upper : Store) (part copy : Node) : Prop where
  rules : part.operator.hasRule = copy.operator.hasRule
  conditions : part.operator.hasCondition = copy.operator.hasCondition
  meanings : Parallel Relation.Below (lower.meaning part) (upper.meaning copy)

variable {lower upper : Store}

theorem Peers.means_iff {part copy : Node} (peers : Peers lower upper part copy) :
    (∃ output, Means lower part output) ↔ ∃ output, Means upper copy output := by
  simp only [← meaning_eq_ok_iff]
  exact peers.meanings.isOk_iff

theorem Peers.below {part copy : Node} {output larger : Relation}
    (peers : Peers lower upper part copy) (means : Means lower part output)
    (copyMeans : Means upper copy larger) : output.Below larger := by
  have meanings := peers.meanings
  rw [(meaning_eq_ok_iff part output).mpr means, (meaning_eq_ok_iff copy larger).mpr copyMeans]
    at meanings
  exact meanings.related

theorem Peers.names_iff {part copy : Node} (peers : Peers lower upper part copy) :
    (part.operator.hasCondition = true →
        ∀ output, Means lower part output → output.hasCompoundName = false) ↔
      (copy.operator.hasCondition = true →
        ∀ output, Means upper copy output → output.hasCompoundName = false) := by
  rw [peers.conditions]
  refine imp_congr_right fun _ => ⟨fun names larger copyMeans => ?_, fun names output means => ?_⟩
  · obtain ⟨output, means⟩ := peers.means_iff.mpr ⟨larger, copyMeans⟩
    rw [← (peers.below means copyMeans).hasCompoundName_eq]
    exact names output means
  · obtain ⟨larger, copyMeans⟩ := peers.means_iff.mp ⟨output, means⟩
    rw [(peers.below means copyMeans).hasCompoundName_eq]
    exact names larger copyMeans

theorem blank_lower : Blank PlanNode.Lower :=
  fun _ _ labels => ⟨labels.unknown, labels.upperUnknown⟩

theorem peers_of_copies {node copy : Node}
    (copies : Tree.Alike PlanNode.Lower (lower.plan node) (upper.plan copy)) :
    Peers lower upper node copy := by
  have meanings := Plan.estimate_parallel copies
  cases node with
  | node placed inputs =>
      cases copy with
      | node other others =>
          have labels := (alike_node copies).1
          have rules := labels.operators.hasRule_eq
          have conditions := labels.operators.hasCondition_eq
          rw [Operator.hasRule_mapBase, Operator.hasRule_mapBase] at rules
          rw [Operator.hasCondition_mapBase, Operator.hasCondition_mapBase] at conditions
          exact ⟨rules, conditions, meanings⟩

theorem parts_peers {node copy : Node}
    (copies : Tree.Alike PlanNode.Lower (lower.plan node) (upper.plan copy)) :
    List.Forall₂ (Peers lower upper) (lower.parts node) (upper.parts copy) :=
  (parts_alike blank_lower node copy copies).imp fun _ _ => peers_of_copies

theorem sensible_iff {node copy : Node}
    (copies : Tree.Alike PlanNode.Lower (lower.plan node) (upper.plan copy)) :
    lower.Sensible node ↔ upper.Sensible copy := by
  have means := (peers_of_copies copies).means_iff
  have names := forall_mem_iff ((parts_peers copies).imp fun _ _ peers => peers.names_iff)
  constructor
  · exact fun sensible => ⟨means.mp sensible.means, names.mp sensible.names⟩
  · exact fun sensible => ⟨means.mpr sensible.means, names.mpr sensible.names⟩

theorem rules_iff {node copy : Node}
    (copies : Tree.Alike PlanNode.Lower (lower.plan node) (upper.plan copy)) :
    (∀ part ∈ lower.parts node, part.operator.hasRule = true) ↔
      ∀ part ∈ upper.parts copy, part.operator.hasRule = true := by
  refine forall_mem_iff ((parts_peers copies).imp fun part other peers => ?_)
  rw [peers.rules]

variable {current later : Store}

/-- Outputs that have been said for corresponding parts lie below each other. -/
theorem Peers.outputs_below {part copy : Node} (peers : Peers lower upper part copy)
    (wellFormed : lower.WellFormed) (upperWellFormed : upper.WellFormed)
    (sound : Sound lower current) (upperSound : Sound upper later)
    (stored : lower.node? part.ref = some part) (copied : upper.node? copy.ref = some copy)
    {output larger : RelationRef} (said : current.output? part.ref = some output)
    (copySaid : later.output? copy.ref = some larger) :
    (current.relation output).Below (later.relation larger) :=
  peers.below ((meaning_eq_ok_iff _ _).mp (sound.meaning_eq wellFormed stored said))
    ((meaning_eq_ok_iff _ _).mp (upperSound.meaning_eq upperWellFormed copied copySaid))

end Store

end Selectivity

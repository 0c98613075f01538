import Selectivity.Proofs.Estimation.Agreement
import Selectivity.Proofs.Statistics.Joins

/-!
# Operators on top of each other

The joins of one line of a query and the selections of its last line are stacks of operators. What
the nodes of a stack put out are the steps from the output at the bottom to the one at the top, and
where such steps are possible, the nodes mean their outputs.
-/

namespace Selectivity

namespace Store

/-- Operators stacked on a node, the innermost first. Each has the one below it as its first input,
all have the same further inputs, and none of their outputs is known. -/
inductive Stacked (store : Store) (operator : Comparison → Operator RelationRef)
    (others : List Node) (bottom : Node) : Node → List (NodeRef × Comparison) → Prop where
  | start : Stacked store operator others bottom bottom []
  | next {root : Node} {items : List (NodeRef × Comparison)} (ref : NodeRef)
      (condition : Comparison) (below : Stacked store operator others bottom root items)
      (unknown : store.output? ref = none) :
      Stacked store operator others bottom (.node ⟨ref, operator condition⟩ (root :: others))
        (items ++ [(ref, condition)])

/-- The nodes of a stack have put out what steps with their conditions put out. -/
structure Shows (store : Store) (items : List (NodeRef × Comparison)) (steps : List Step) :
    Prop where
  conditions : steps.map Step.condition = items.map Prod.snd
  outputs : items.map (fun item => store.outputRelation? item.1) =
    steps.map fun step => some step.output

variable {start after store : Store} {operator : Comparison → Operator RelationRef}
  {others : List Node} {bottom root : Node} {items : List (NodeRef × Comparison)}

theorem Sound.ruled (sound : Sound start after) (wellFormed : start.WellFormed)
    {placed : PlacedOperator} {inputs : List Node}
    (stored : start.node? placed.ref = some (.node placed inputs))
    (unknown : start.output? placed.ref = none) (known : after.Knows (.node placed inputs)) :
    (∀ input ∈ inputs, after.Knows input) ∧ ∃ output,
      after.outputRelation? placed.ref = some output ∧
        after.estimateOperator placed.operator inputs = .ok output := by
  have below : ∀ part ∈ start.partsOfAll inputs, after.Knows part := by
    intro part member
    apply sound.closed (.node placed inputs) stored known
    rw [parts_of_pending unknown]
    exact List.mem_append_left _ member
  have ready : ∀ input ∈ inputs, after.Knows input :=
    fun input member => sound.knows_of_parts below member
  obtain ⟨output, said⟩ := known
  refine ⟨ready, after.relation output, congrArg (Option.map after.relation) said, ?_⟩
  rw [sound.estimateOperator_eq wellFormed stored ready]
  exact sound.told _ output stored unknown said

theorem Sound.stack_steps (sound : Sound start after) (wellFormed : start.WellFormed)
    (stack : Stacked start operator others bottom root items)
    (stored : start.node? root.ref = some root) (known : after.Knows root) :
    ∃ base steps last, after.outputRelation? bottom.ref = some base ∧
      after.outputRelation? root.ref = some last ∧
      Steps (fun condition => (operator condition).mapBase after.relation)
        (others.filterMap fun input => after.outputRelation? input.ref) base steps last ∧
      Shows after items steps ∧ ∀ step ∈ steps, Tellable (operator step.condition) step.output := by
  induction stack with
  | start =>
      obtain ⟨output, said⟩ := known
      have shown : after.outputRelation? bottom.ref = some (after.relation output) :=
        congrArg (Option.map after.relation) said
      exact ⟨_, [], _, shown, shown, .start, ⟨rfl, rfl⟩, nofun⟩
  | @next root items ref condition below unknown induction =>
      obtain ⟨ready, output, shown, told⟩ := sound.ruled wellFormed stored unknown known
      have here : start.node? root.ref = some root :=
        (wellFormed.nodes ref _ stored).inputs root List.mem_cons_self
      obtain ⟨base, steps, middle, first, last, run, shows, tellable⟩ :=
        induction here (ready root List.mem_cons_self)
      have inputs : (root :: others).filterMap (fun input => after.outputRelation? input.ref) =
          middle :: others.filterMap fun input => after.outputRelation? input.ref :=
        List.filterMap_cons_some last
      rw [estimateOperator, inputs] at told
      have estimates := Operator.estimate_eq_ok_iff.mp (estimate_of_output told)
      have tells := tellable_of_output told
      refine ⟨base, steps ++ [⟨condition, middle, output⟩], output, first, shown,
        .step condition run estimates, ⟨?_, ?_⟩, ?_⟩
      · rw [List.map_append, List.map_append, shows.conditions]
        rfl
      · have said : after.outputRelation? ref = some output := shown
        rw [List.map_append, List.map_append, shows.outputs, List.map_singleton,
          List.map_singleton, said]
      · apply Steps.forall_mem_concat tellable
        refine ⟨fun isCondition => tells.names ?_, tells.counts⟩
        exact (Operator.hasCondition_mapBase _ _).trans isCondition

theorem Stacked.means (stack : Stacked store operator others bottom root items)
    {outputs : List Relation} {base last : Relation} {steps : List Step}
    (run : Steps (fun condition => (operator condition).mapBase store.relation) outputs base steps
      last)
    (conditions : steps.map Step.condition = items.map Prod.snd)
    (below : Means store bottom base) (further : MeansAll store others outputs) :
    Means store root last ∧ ∀ part ∈ store.parts root, part ∈ store.parts bottom ∨
      part ∈ store.partsOfAll others ∨
        ∃ step ∈ steps, part.operator = operator step.condition ∧
          Means store part step.output := by
  induction stack generalizing steps last with
  | start =>
      cases List.map_eq_nil_iff.mp conditions
      cases run.eq_bottom
      exact ⟨below, fun part member => Or.inl member⟩
  | @next root items ref condition under unknown induction =>
      cases run with
      | start => simp at conditions
      | @step middle _ early other before estimates =>
          rw [List.map_append, List.map_append] at conditions
          obtain ⟨same, last⟩ := List.append_inj' conditions rfl
          cases last
          obtain ⟨means, parts⟩ := induction before same
          have top : Means store (.node ⟨ref, operator condition⟩ (root :: others)) _ :=
            .rule unknown (.cons means further) estimates
          refine ⟨top, ?_⟩
          intro part member
          have pending : store.output? (PlacedOperator.mk ref (operator condition)).ref = none :=
            unknown
          rw [parts_of_pending pending, partsOfAll, List.append_assoc] at member
          rcases List.mem_append.mp member with early | late
          · rcases parts part early with deep | side | ⟨step, listed, shape, partMeans⟩
            · exact Or.inl deep
            · exact Or.inr (Or.inl side)
            · exact Or.inr (Or.inr ⟨step, List.mem_append_left _ listed, shape, partMeans⟩)
          · rcases List.mem_append.mp late with side | here
            · exact Or.inr (Or.inl side)
            · rw [List.mem_singleton.mp here]
              exact Or.inr (Or.inr ⟨_, List.mem_append_right _ List.mem_cons_self, rfl, top⟩)

theorem Stacked.root_unknown (stack : Stacked store operator others bottom root items)
    (some : items ≠ []) : store.output? root.ref = none := by
  cases stack with
  | start => exact absurd rfl some
  | next ref condition below unknown => exact unknown

theorem Stacked.bottom_mem (stack : Stacked store operator others bottom root items)
    (unknown : store.output? bottom.ref = none) : bottom ∈ store.parts root := by
  induction stack with
  | start => exact mem_parts_self unknown
  | @next root items ref condition below pending induction =>
      have still : store.output? (PlacedOperator.mk ref (operator condition)).ref = none := pending
      rw [parts_of_pending still, partsOfAll]
      exact List.mem_append_left _ (List.mem_append_left _ induction)

/-- The node means the relation, and whatever its parts mean can be told. -/
structure Estimable (store : Store) (node : Node) (output : Relation) : Prop where
  means : Means store node output
  tellable : ∀ part ∈ store.parts node, ∀ result, Means store part result →
    Tellable part.operator result

theorem Means.hasRule {node : Node} {output : Relation} (means : Means store node output)
    (unknown : store.output? node.ref = none) : node.operator.hasRule = true := by
  obtain ⟨outputs, -, estimates⟩ := means.inputs unknown
  rw [← Operator.hasRule_mapBase store.relation]
  generalize node.operator.mapBase store.relation = operator at estimates
  cases estimates <;> rfl

theorem Means.parts_have_rules {node : Node} {output : Relation}
    (means : Means store node output) :
    ∀ part ∈ store.parts node, part.operator.hasRule = true := by
  intro part member
  obtain ⟨result, partMeans⟩ := means.of_mem_parts node output part member
  exact partMeans.hasRule (unknown_of_mem_parts node part member)

theorem Estimable.estimateNode {node : Node} {output : Relation}
    (estimable : Estimable store node output) (wellFormed : store.WellFormed)
    (stored : store.node? node.ref = some node) (unknown : store.output? node.ref = none) :
    (store.estimateNode node).fault = none ∧ ∃ ref,
      (store.estimateNode node).store.output? node.ref = some ref ∧
        (store.estimateNode node).store.relation ref = output := by
  have rules := estimable.means.parts_have_rules
  rcases estimateNode_settles wellFormed stored unknown rules with
    ⟨quiet, settled⟩ | ⟨earlier, part, later, fault, order, -, stops, -⟩
  · obtain ⟨ref, said, means, -⟩ := settled node (mem_parts_self unknown)
    exact ⟨quiet, ref, said, means.unique estimable.means⟩
  · have member : part ∈ store.parts node := by
      rw [order]
      exact List.mem_append_right _ List.mem_cons_self
    exact absurd estimable.tellable (stops.not_all_tellable member ⟨output, estimable.means⟩)

/-- If what one part means is all that cannot be told, the estimation stops there. -/
theorem Means.stops_at {node part : Node} {output result : Relation}
    (means : Means store node output) (wellFormed : store.WellFormed)
    (stored : store.node? node.ref = some node) (unknown : store.output? node.ref = none)
    (member : part ∈ store.parts node) (partMeans : Means store part result)
    (untellable : ¬ Tellable part.operator result)
    (others : ∀ other ∈ store.parts node, other = part ∨ ∀ result, Means store other result →
      Tellable other.operator result) :
    ∃ fault, StopsAt store part fault ∧ (store.estimateNode node).fault = some fault := by
  rcases estimateNode_settles wellFormed stored unknown means.parts_have_rules with
    ⟨-, settled⟩ | ⟨earlier, stop, later, fault, order, -, stops, told⟩
  · obtain ⟨ref, -, settledMeans, tellable⟩ := settled part member
    rw [settledMeans.unique partMeans] at tellable
    exact absurd tellable untellable
  · have within : stop ∈ store.parts node := by
      rw [order]
      exact List.mem_append_right _ List.mem_cons_self
    rcases others stop within with rfl | tellable
    · exact ⟨fault, stops, told⟩
    · obtain ⟨stopResult, stopMeans⟩ := means.of_mem_parts node output stop within
      have pending := unknown_of_mem_parts node stop within
      exact absurd (tellable stopResult stopMeans) (stops.not_tellable pending stopMeans)

section Product

variable {first second : Node} {left right last : Relation} {ref : NodeRef} {steps : List Step}

theorem means_product (unknown : store.output? ref = none) (here : Means store first left)
    (there : Means store second right) :
    Means store (.node ⟨ref, .product⟩ [first, second]) (Relation.product [left, right]) :=
  .rule unknown (.cons here (.cons there .nil)) (.product (product_tupleCount _) rfl)

theorem mem_parts_product {part : Node} (unknown : store.output? ref = none)
    (member : part ∈ store.parts (.node ⟨ref, .product⟩ [first, second])) :
    part ∈ store.parts first ∨ part ∈ store.parts second ∨
      part = .node ⟨ref, .product⟩ [first, second] := by
  have pending : store.output? (PlacedOperator.mk ref .product).ref = none := unknown
  rw [parts_of_pending pending, partsOfAll, partsOfAll, partsOfAll, List.append_nil] at member
  simpa only [List.mem_append, List.mem_singleton, or_assoc] using member

theorem tellable_product {output : Relation} :
    Tellable (Operator.product : Operator RelationRef) output ↔ output.isWritable = true :=
  ⟨Tellable.counts, fun writable => ⟨nofun, writable⟩⟩

/-- The estimation of a product stops only because its counts cannot be written. -/
theorem StopsAt.product {fault : EstimateFault} {inputs : List Node}
    (stops : StopsAt store (.node ⟨ref, .product⟩ inputs) fault) : fault = .unwritable := by
  obtain ⟨outputs, -, stops, -⟩ := stops
  cases stops with
  | missing misses => cases misses
  | untold misses => cases misses
  | compoundName estimates condition => cases condition
  | unwritable => rfl

/-- Selections from a product are estimated to what their steps lead to, if the counts of the
product can be written. Otherwise the estimation stops at the product. -/
theorem Stacked.estimateNode_product (wellFormed : store.WellFormed)
    (stack : Stacked store Comparison.selection [] (.node ⟨ref, .product⟩ [first, second]) root
      items)
    (some : items ≠ []) (unknown : store.output? ref = none)
    (stored : store.node? root.ref = .some root)
    (run : Steps Comparison.selection [] (Relation.product [left, right]) steps last)
    (conditions : steps.map Step.condition = items.map Prod.snd)
    (tellable : ∀ step ∈ steps,
      Tellable (Comparison.selection step.condition : Operator RelationRef) step.output)
    (here : Estimable store first left) (there : Estimable store second right) :
    ((Relation.product [left, right]).isWritable = true →
      (store.estimateNode root).fault = none ∧ ∃ output,
        (store.estimateNode root).store.output? root.ref = .some output ∧
          (store.estimateNode root).store.relation output = last) ∧
    ((Relation.product [left, right]).isWritable = false →
      (store.estimateNode root).fault = .some .unwritable) := by
  have pending := stack.root_unknown some
  have product := means_product unknown here.means there.means
  obtain ⟨means, parts⟩ := stack.means run conditions product .nil
  -- all that may be untellable is the product itself
  have cases : ∀ part ∈ store.parts root, part = .node ⟨ref, .product⟩ [first, second] ∨
      ∀ result, Means store part result → Tellable part.operator result := by
    intro part member
    rcases parts part member with deep | none | ⟨step, listed, shape, partMeans⟩
    · rcases mem_parts_product unknown deep with early | late | same
      · exact Or.inr (here.tellable part early)
      · exact Or.inr (there.tellable part late)
      · exact Or.inl same
    · cases none
    · right
      intro result other
      rw [other.unique partMeans, shape]
      exact tellable step listed
  constructor
  · intro writable
    apply Estimable.estimateNode _ wellFormed stored pending
    refine ⟨means, ?_⟩
    intro part member result partMeans
    rcases cases part member with rfl | told
    · rw [partMeans.unique product]
      exact tellable_product.mpr writable
    · exact told result partMeans
  · intro tooLong
    have untellable : ¬ Tellable (Operator.product : Operator RelationRef)
        (Relation.product [left, right]) := by
      rw [tellable_product, tooLong]
      exact Bool.false_ne_true
    obtain ⟨fault, stops, told⟩ := means.stops_at wellFormed stored pending
      (stack.bottom_mem unknown) product untellable cases
    rw [told, stops.product]

end Product

end Store

end Selectivity

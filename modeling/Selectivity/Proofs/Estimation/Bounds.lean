import Selectivity.Proofs.Estimation.Stacks

/-!
# Bounds on the estimates of a query

No node of an estimated canonical plan has more tuples than all combinations of tuples of the
scanned relations, where each scan counts once: selections and projections have no more tuples than
their input, and the joins of one line count their relation at most once.
-/

namespace Selectivity.Query

open Store

/-- The number of all combinations of tuples of some scanned relations. -/
def weight (store : Store) (scans : List (BaseScan RelationRef)) : Nat :=
  (scans.map fun scan => (store.relation scan.base).tupleCount).foldr (· * ·) 1

/-- A node that had no output, nor had any node below it, has got one. -/
structure Grew (start after : Store) (node : Node) : Prop where
  stored : start.node? node.ref = some node
  unknown : ∀ placed ∈ node.preorder, start.output? placed.ref = none
  known : after.Knows node

/-- A node and all nodes below it put out no more tuples than a limit. -/
def Bounded (store : Store) (limit : Nat) (node : Node) : Prop :=
  ∀ placed ∈ node.preorder, ∃ output, store.outputRelation? placed.ref = some output ∧
    output.tupleCount ≤ limit

variable {start after store : Store} {limit : Nat} {node root : Node}

theorem weight_append (first second : List (BaseScan RelationRef)) :
    weight store (first ++ second) = weight store first * weight store second := by
  induction first with
  | nil => exact (Nat.one_mul _).symm
  | cons scan rest induction =>
      have step : ∀ others, weight store (scan :: others) =
          (store.relation scan.base).tupleCount * weight store others := fun _ => rfl
      rw [List.cons_append, step, step, induction, Nat.mul_assoc]

theorem weight_singleton (scan : BaseScan RelationRef) :
    weight store [scan] = (store.relation scan.base).tupleCount :=
  Nat.mul_one _

theorem weight_pos {scans : List (BaseScan RelationRef)}
    (some : ∀ scan ∈ scans, 0 < (store.relation scan.base).tupleCount) :
    0 < weight store scans := by
  induction scans with
  | nil => exact Nat.one_pos
  | cons scan rest induction =>
      apply Nat.mul_pos (some scan List.mem_cons_self)
      exact induction fun other member => some other (List.mem_cons_of_mem scan member)

theorem Bounded.mono {further : Nat} (bounded : Bounded store limit node)
    (raised : limit ≤ further) : Bounded store further node := by
  intro placed member
  obtain ⟨output, shown, small⟩ := bounded placed member
  exact ⟨output, shown, Nat.le_trans small raised⟩

theorem Bounded.at_root (bounded : Bounded store limit node) :
    ∃ output, store.outputRelation? node.ref = some output ∧ output.tupleCount ≤ limit := by
  cases node with
  | node placed inputs => exact bounded placed (Tree.mem_preorder_node.mpr (Or.inl rfl))

theorem bounded_node {placed : PlacedOperator} {inputs : List Node} {output : Relation}
    (shown : store.outputRelation? placed.ref = some output) (small : output.tupleCount ≤ limit)
    (below : ∀ input ∈ inputs, Bounded store limit input) :
    Bounded store limit (.node placed inputs) := by
  intro other member
  rcases Tree.mem_preorder_node.mp member with rfl | ⟨input, listed, within⟩
  · exact ⟨output, shown, small⟩
  · exact below input listed other within

theorem bounded_scan {scan : BaseScan RelationRef} {ref : NodeRef} {output : Relation}
    (shown : store.outputRelation? ref = some output) (small : output.tupleCount ≤ limit) :
    Bounded store limit (scan.at ref) :=
  bounded_node shown small fun _ member => absurd member List.not_mem_nil

section Estimated

variable (wellFormed : start.WellFormed) (sound : Sound start after)

include wellFormed sound

/-- The output of a node comes of the outputs of its inputs, which have got theirs as well. -/
theorem Grew.ruled {placed : PlacedOperator} {inputs : List Node}
    (grew : Grew start after (.node placed inputs)) :
    (∀ input ∈ inputs, Grew start after input) ∧ ∃ output,
      after.outputRelation? placed.ref = some output ∧
        Estimates (placed.operator.mapBase after.relation)
          (inputs.filterMap fun input => after.outputRelation? input.ref) output := by
  have unknown := grew.unknown placed (Tree.mem_preorder_node.mpr (Or.inl rfl))
  obtain ⟨ready, output, shown, told⟩ := sound.ruled wellFormed grew.stored unknown grew.known
  constructor
  · intro input member
    refine ⟨?_, ?_, ready input member⟩
    · exact (wellFormed.nodes placed.ref _ grew.stored).inputs input member
    · intro below within
      exact grew.unknown below (Tree.mem_preorder_node.mpr (Or.inr ⟨input, member, within⟩))
  · exact ⟨output, shown, Operator.estimate_eq_ok_iff.mp (estimate_of_output told)⟩

theorem Grew.scan {scan : BaseScan RelationRef} {ref : NodeRef}
    (grew : Grew start after (scan.at ref)) :
    after.outputRelation? ref = some (start.relation scan.base) := by
  obtain ⟨-, output, shown, estimates⟩ := grew.ruled wellFormed sound
  have held := (wellFormed.nodes ref _ grew.stored).base scan.name scan.base rfl
  cases estimates with
  | scan =>
      rw [shown, relation_eq_of_extends sound.extension wellFormed held]

theorem ProductTree.bounded {scans : List (BaseScan RelationRef)} (tree : ProductTree root scans)
    (some : ∀ scan ∈ scans, 0 < (start.relation scan.base).tupleCount)
    (grew : Grew start after root) : Bounded after (weight start scans) root := by
  induction tree with
  | scan scan ref =>
      apply bounded_scan (grew.scan wellFormed sound)
      exact Nat.le_of_eq (weight_singleton scan).symm
  | @product left scans scan right ref tree induction =>
      obtain ⟨inputs, output, shown, estimates⟩ := grew.ruled wellFormed sound
      have low := induction (fun other member => some other (List.mem_append_left _ member))
        (inputs left List.mem_cons_self)
      have there : after.outputRelation? (scan.at right).ref = .some (start.relation scan.base) :=
        (inputs _ (List.mem_cons_of_mem _ List.mem_cons_self)).scan wellFormed sound
      have positive := some scan (List.mem_append_right _ List.mem_cons_self)
      have scanned : 0 < weight start scans :=
        weight_pos fun other member => some other (List.mem_append_left _ member)
      obtain ⟨first, here, small⟩ := low.at_root
      rw [weight_append, weight_singleton]
      have outputs : ([left, scan.at right].filterMap fun input =>
          after.outputRelation? input.ref) = [first, start.relation scan.base] := by
        simp only [List.filterMap_cons, here, there, List.filterMap_nil]
      rw [outputs] at estimates
      cases estimates with
      | product tupleCount attributes =>
          apply bounded_node shown
          · rw [tupleCount]
            have size :
                ([first, start.relation scan.base].map Relation.tupleCount).foldr (· * ·) 1 =
                  first.tupleCount * (start.relation scan.base).tupleCount :=
              congrArg (first.tupleCount * ·) (Nat.mul_one _)
            rw [size]
            exact Nat.mul_le_mul_right _ small
          · apply forall_mem_pair
            · exact low.mono (Nat.le_mul_of_pos_right _ positive)
            · exact bounded_scan there (Nat.le_mul_of_pos_left _ scanned)

omit wellFormed sound in
theorem JoinChain.stacked {left right : Node} {conditions : List Comparison}
    (chain : JoinChain left right root conditions)
    (unknown : ∀ placed ∈ root.preorder, start.output? placed.ref = none) :
    ∃ items, Stacked start .join [right] left root items ∧
      items.map Prod.snd = conditions ∧
      ∀ placed ∈ root.preorder, placed ∈ left.preorder ∨
        conditions ≠ [] ∧ (placed ∈ right.preorder ∨ placed.ref ∈ items.map Prod.fst) := by
  induction chain with
  | start => exact ⟨[], .start, rfl, fun placed member => Or.inl member⟩
  | @join root conditions condition ref chain induction =>
      obtain ⟨items, stack, same, below⟩ := induction fun placed member =>
        unknown placed (Tree.mem_preorder_node.mpr (Or.inr ⟨root, List.mem_cons_self, member⟩))
      have pending := unknown _ (Tree.mem_preorder_node.mpr (Or.inl rfl))
      refine ⟨items ++ [(ref, condition)], .next ref condition stack pending, ?_, ?_⟩
      · rw [List.map_append, same]
        rfl
      · intro placed member
        rcases Tree.mem_preorder_node.mp member with rfl | ⟨input, listed, within⟩
        · exact Or.inr ⟨by simp, Or.inr (by simp)⟩
        · rcases List.mem_cons.mp listed with rfl | last
          · rcases below placed within with deep | ⟨-, side | item⟩
            · exact Or.inl deep
            · exact Or.inr ⟨by simp, Or.inl side⟩
            · refine Or.inr ⟨by simp, Or.inr ?_⟩
              rw [List.map_append]
              exact List.mem_append_left _ item
          · rw [List.mem_singleton.mp last] at within
            exact Or.inr ⟨by simp, Or.inl within⟩

theorem JoinChain.grew {left right : Node} {conditions : List Comparison}
    (chain : JoinChain left right root conditions) (grew : Grew start after root) :
    Grew start after left ∧ (conditions ≠ [] → Grew start after right) := by
  induction chain with
  | start => exact ⟨grew, fun none => absurd rfl none⟩
  | join condition ref chain induction =>
      have inputs := (grew.ruled wellFormed sound).1
      refine ⟨(induction (inputs _ List.mem_cons_self)).1, fun _ => ?_⟩
      exact inputs right (List.mem_cons_of_mem _ List.mem_cons_self)

/-- What joins with one scan put out are steps from what is below them, with the base relation. -/
theorem joins_are_steps {left : Node} {scan : BaseScan RelationRef} {right : NodeRef}
    {joins : List (NodeRef × Comparison)}
    (stack : Stacked start .join [scan.at right] left root joins) (some : joins ≠ [])
    (stored : start.node? root.ref = .some root) (unknown : start.output? right = none)
    (known : after.Knows root) :
    ∃ base steps last, after.outputRelation? left.ref = .some base ∧
      after.outputRelation? root.ref = .some last ∧
      Steps .join [start.relation scan.base] base steps last ∧ Shows after joins steps ∧
      ∀ step ∈ steps, Tellable (.join step.condition : Operator RelationRef) step.output := by
  have scanned : Grew start after (scan.at right) := by
    cases stack with
    | start => exact absurd rfl some
    | @next below _ ref condition under pending =>
        have ready := (sound.ruled wellFormed stored pending known).1
        have inputs := (wellFormed.nodes ref _ stored).inputs
        have listed : scan.at right ∈ [below, scan.at right] :=
          List.mem_cons_of_mem _ List.mem_cons_self
        refine ⟨inputs _ listed, ?_, ready _ listed⟩
        intro placed member
        rcases Tree.mem_preorder_node.mp member with rfl | ⟨input, none, -⟩
        · exact unknown
        · cases none
  have there : after.outputRelation? (scan.at right).ref = .some (start.relation scan.base) :=
    scanned.scan wellFormed sound
  obtain ⟨base, steps, last, bottom, top, run, shows, tellable⟩ :=
    sound.stack_steps wellFormed stack stored known
  simp only [List.filterMap_cons, there, List.filterMap_nil] at run
  exact ⟨base, steps, last, bottom, top, run, shows, tellable⟩

theorem JoinChain.bounded {left : Node} {scan : BaseScan RelationRef} {ref : NodeRef}
    {conditions : List Comparison} (chain : JoinChain left (scan.at ref) root conditions)
    (some : 0 < (start.relation scan.base).tupleCount) (positive : 0 < limit)
    (grew : Grew start after root) (low : Bounded after limit left) :
    Bounded after (limit * (start.relation scan.base).tupleCount) root := by
  obtain ⟨items, stack, same, below⟩ := chain.stacked grew.unknown
  intro placed member
  rcases below placed member with deep | ⟨nonempty, others⟩
  · exact low.mono (Nat.le_mul_of_pos_right _ some) placed deep
  · have scanned := (chain.grew wellFormed sound grew).2 nonempty
    rcases others with side | item
    · have raised : (start.relation scan.base).tupleCount ≤
          limit * (start.relation scan.base).tupleCount := Nat.le_mul_of_pos_left _ positive
      exact bounded_scan (scanned.scan wellFormed sound) raised placed side
    · have joined : items ≠ [] := by
        rintro rfl
        exact nonempty same.symm
      have pending := scanned.unknown _ (Tree.mem_preorder_node.mpr (Or.inl rfl))
      obtain ⟨base, steps, last, bottom, -, joins, shows, -⟩ :=
        joins_are_steps wellFormed sound stack joined grew.stored pending grew.known
      obtain ⟨first, here, small⟩ := low.at_root
      rw [bottom] at here
      cases here
      obtain ⟨item, listed, place⟩ := List.mem_map.mp item
      have shown : after.outputRelation? item.1 ∈
          steps.map fun step => Option.some step.output := by
        rw [← shows.outputs]
        exact List.mem_map_of_mem listed
      obtain ⟨step, made, output⟩ := List.mem_map.mp shown
      refine ⟨step.output, ?_, joins.tupleCount_le small some step made⟩
      rw [← place, output]

theorem JoinTree.bounded {products : Node} {groups : List (JoinGroup RelationRef)}
    {scans : List (BaseScan RelationRef)} (tree : JoinTree products root groups)
    (some : ∀ scan ∈ scans ++ groups.map JoinGroup.scan, 0 < (start.relation scan.base).tupleCount)
    (low : Grew start after products → Bounded after (weight start scans) products)
    (grew : Grew start after root) :
    Bounded after (weight start (scans ++ groups.map JoinGroup.scan)) root := by
  induction tree with
  | start =>
      rw [List.map_nil, List.append_nil]
      exact low grew
  | @group left root groups group ref tree chain induction =>
      rw [List.map_append, List.map_singleton, ← List.append_assoc] at some ⊢
      have early : ∀ scan ∈ scans ++ groups.map JoinGroup.scan,
          0 < (start.relation scan.base).tupleCount :=
        fun scan member => some scan (List.mem_append_left _ member)
      have bounded := induction early (chain.grew wellFormed sound grew).1
      rw [weight_append, weight_singleton]
      apply chain.bounded wellFormed sound _ (weight_pos early) grew bounded
      exact some group.scan (List.mem_append_right _ List.mem_cons_self)

theorem Grew.bounded_over {operator : Operator RelationRef} {ref : NodeRef} {input : Node}
    (grew : Grew start after (.node ⟨ref, operator⟩ [input]))
    (smaller : ∀ relation output, Estimates (operator.mapBase after.relation) [relation] output →
      output.tupleCount ≤ relation.tupleCount)
    (low : Grew start after input → Bounded after limit input) :
    Bounded after limit (.node ⟨ref, operator⟩ [input]) := by
  obtain ⟨inputs, output, shown, estimates⟩ := grew.ruled wellFormed sound
  have below := low (inputs input List.mem_cons_self)
  obtain ⟨relation, here, small⟩ := below.at_root
  simp only [List.filterMap_cons, here, List.filterMap_nil] at estimates
  apply bounded_node shown (Nat.le_trans (smaller relation output estimates) small)
  exact fun other member => List.mem_singleton.mp member ▸ below

theorem SelectionChain.bounded {joined : Node} {conditions : List Predicate}
    (chain : SelectionChain joined root conditions)
    (low : Grew start after joined → Bounded after limit joined) (grew : Grew start after root) :
    Bounded after limit root := by
  induction chain with
  | start => exact low grew
  | select condition ref chain induction =>
      apply grew.bounded_over wellFormed sound _ induction
      intro relation output estimates
      cases condition with
      | equalsValue column value =>
          cases estimates with
          | selectValue leads tupleCount attributes =>
              rw [tupleCount]
              exact Nat.div_le_self _ _
      | equalsAttribute comparison =>
          cases estimates with
          | selectEqual left right equates =>
              rw [equates.tupleCount]
              exact Nat.div_le_self _ _

theorem Projected.bounded {selected : Node} {projection : Option (List String)}
    (projected : Projected selected root projection)
    (low : Grew start after selected → Bounded after limit selected)
    (grew : Grew start after root) : Bounded after limit root := by
  cases projected with
  | all => exact low grew
  | project attributes ref =>
      apply grew.bounded_over wellFormed sound _ low
      intro relation output estimates
      cases estimates with
      | project tupleCount attributes => exact Nat.le_of_eq tupleCount

/-- No node of an estimated canonical plan has more tuples than the combinations of tuples of its
scans. -/
theorem Canonical.bounded {plan : CanonicalPlan RelationRef} (canonical : Canonical root plan)
    (some : ∀ scan ∈ plan.scans, 0 < (start.relation scan.base).tupleCount)
    (grew : Grew start after root) : Bounded after (weight start plan.scans) root := by
  obtain ⟨products, joined, selected, product, join, selection, projection⟩ := canonical.shape
  apply projection.bounded wellFormed sound _ grew
  apply selection.bounded wellFormed sound
  apply join.bounded wellFormed sound some
  apply product.bounded wellFormed sound
  exact fun scan member => some scan (List.mem_append_left _ member)

end Estimated

end Selectivity.Query

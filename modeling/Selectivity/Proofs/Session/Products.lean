import Selectivity.Proofs.Estimation.Products
import Selectivity.Proofs.Session.Chains

/-!
# Nested products in a session

However products are nested, they are estimated to the product of their factors in order: the
product of a single operator over all of them and the products that a query is compiled to put out
the same. Only an empty factor can make a difference, because a product that is multiplied with it
later has to be told first, and it can have more tuples than can be written.
-/

namespace Selectivity.Session

/-- Products that are nested in any way over nodes that can be estimated yield one and the same
relation, the product of these nodes from left to right, as long as every product within the nest
can be written; otherwise they yield the fault of writing it. Without an empty node that is the same
for all nests over the nodes. In particular the products that lean to the left over scans, and a
single product of the same scans, are both estimated to the product of the scanned relations. -/
theorem products_are_associative {session : Session} (reachable : session.Reachable) {node : Node}
    (pending : session.store.Pending node) {outputs : List Relation}
    (estimable : List.Forall₂ (Store.Estimable session.store) (session.store.factors node) outputs)
    (verbose : Bool) :
    let whole := Relation.product outputs
    whole.tupleCount = (outputs.map Relation.tupleCount).prod ∧
      whole.attributes = outputs.flatMap Relation.attributes ∧
      (session.store.NestWritable node → session.Yields node.ref verbose (.ok whole)) ∧
      (¬ session.store.NestWritable node → session.Yields node.ref verbose (.error .unwritable)) ∧
      ((∀ output ∈ outputs, output.tupleCount ≠ 0) →
        (session.store.NestWritable node ↔ whole.isWritable = true)) ∧
      ∀ scans : List (Query.BaseScan RelationRef),
        (Query.ProductTree node scans ∧
            (∀ placed ∈ node.preorder, session.store.output? placed.ref = none) ∨
          ∃ ref inputs, node = .node ⟨ref, .product⟩ inputs ∧
            session.store.ScanAll inputs scans) →
        whole = Relation.product (scans.map fun scan => session.store.relation scan.base) := by
  have wellFormed := reachable.store_wellFormed
  intro whole
  refine ⟨product_tupleCount outputs, rfl, fun writable => ?_, fun unwritable => ?_,
    Store.nestWritable_iff estimable pending.unknown, fun scans shape => ?_⟩
  · exact yields_of_estimable wellFormed (Store.estimable_nest estimable writable) pending verbose
  · exact yields_fault wellFormed pending.stored pending.unknown verbose
      (Store.nest_stops estimable unwritable)
  · apply congrArg Relation.product
    rcases shape with ⟨tree, unknown⟩ | ⟨ref, inputs, rfl, all⟩
    · exact (Store.scanAll_of_productTree tree unknown).outputs_eq estimable
    · have multiplies : session.store.Multiplies ⟨ref, .product⟩ := ⟨rfl, pending.unknown⟩
      rw [Store.factors_of_multiplies multiplies, all.factors_eq] at estimable
      exact all.outputs_eq estimable

/-- Three relations that are multiplied from the right, from the left and at once. Two of them have
an attribute of one name. -/
def threeFactors : Session :=
  initial.run [.makeAttribute "a" 2, .makeRelation 2 [⟨0⟩], .makeAttribute "a" 1,
    .makeRelation 3 [⟨1⟩], .makeAttribute "c" 5, .makeRelation 5 [⟨2⟩], .scan "A" ⟨0⟩,
    .scan "B" ⟨1⟩, .scan "C" ⟨2⟩, .product [⟨1⟩, ⟨2⟩], .product [⟨0⟩, ⟨3⟩], .product [⟨0⟩, ⟨1⟩],
    .product [⟨5⟩, ⟨2⟩], .product [⟨0⟩, ⟨1⟩, ⟨2⟩]]

theorem threeFactors_associate :
    threeFactors.Reachable ∧ ∃ output, threeFactors.Yields ⟨4⟩ false (.ok output) ∧
      threeFactors.Yields ⟨6⟩ false (.ok output) ∧ threeFactors.Yields ⟨7⟩ false (.ok output) ∧
      output.tupleCount = 2 * (3 * 5) ∧
      output.attributes.map Attribute.valueCount = [2, 1, 5] := by
  have reachable : threeFactors.Reachable := reachable_run _
  let scan (index : Nat) (name : String) : Node := .node ⟨⟨index⟩, .scan name ⟨index⟩⟩ []
  let product (index : Nat) (inputs : List Node) : Node := .node ⟨⟨index⟩, .product⟩ inputs
  let factors := [scan 0 "A", scan 1 "B", scan 2 "C"]
  let outputs := [⟨0⟩, ⟨1⟩, ⟨2⟩].map threeFactors.store.relation
  have estimable : List.Forall₂ (Store.Estimable threeFactors.store) factors outputs := by
    refine .cons ?_ (.cons ?_ (.cons ?_ .nil))
    all_goals exact Store.estimable_scan (by decide +kernel) (by decide +kernel)
  have filled : ∀ output ∈ outputs, output.tupleCount ≠ 0 := by decide +kernel
  have writable : (Relation.product outputs).isWritable = true := by decide +kernel
  have yields (node : Node) (same : threeFactors.store.factors node = factors)
      (pending : threeFactors.store.Pending node) :
      threeFactors.Yields node.ref false (.ok (Relation.product outputs)) := by
    rw [← same] at estimable
    obtain ⟨-, -, succeeds, -, writes, -⟩ :=
      products_are_associative reachable pending estimable false
    exact succeeds ((writes filled).mpr writable)
  refine ⟨reachable, _, yields (product 4 [scan 0 "A", product 3 [scan 1 "B", scan 2 "C"]]) ?_ ?_,
    yields (product 6 [product 5 [scan 0 "A", scan 1 "B"], scan 2 "C"]) ?_ ?_,
    yields (product 7 factors) ?_ ?_, ?_, ?_⟩
  case refine_2 | refine_4 | refine_6 => exact ⟨by decide +kernel, by decide +kernel⟩
  all_goals decide +kernel

/-- A long relation that is multiplied with itself and with an empty one, in two steps or at
once. -/
def emptyFactor : Session :=
  initial.run [.makeAttribute "a" (Nat.pow 10 2200), .makeRelation (Nat.pow 10 2200) [⟨0⟩],
    .makeAttribute "b" 1, .makeRelation 0 [⟨1⟩], .scan "R" ⟨0⟩, .scan "S" ⟨1⟩,
    .product [⟨0⟩, ⟨0⟩], .product [⟨2⟩, ⟨1⟩], .product [⟨0⟩, ⟨0⟩, ⟨1⟩]]

/-- Two nests of products have the same factors, and only one of them yields a relation. -/
theorem emptyFactor_yields_once :
    let long : Node := .node ⟨⟨0⟩, .scan "R" ⟨0⟩⟩ []
    let empty : Node := .node ⟨⟨1⟩, .scan "S" ⟨1⟩⟩ []
    let nested : Node := .node ⟨⟨3⟩, .product⟩ [.node ⟨⟨2⟩, .product⟩ [long, long], empty]
    let single : Node := .node ⟨⟨4⟩, .product⟩ [long, long, empty]
    let outputs := [⟨0⟩, ⟨0⟩, ⟨1⟩].map emptyFactor.store.relation
    emptyFactor.Reachable ∧ emptyFactor.store.Pending nested ∧ emptyFactor.store.Pending single ∧
      emptyFactor.store.factors nested = [long, long, empty] ∧
      emptyFactor.store.factors single = [long, long, empty] ∧
      List.Forall₂ (Store.Estimable emptyFactor.store) [long, long, empty] outputs ∧
      (∃ output, emptyFactor.Yields ⟨4⟩ false (.ok output)) ∧
      ¬ ∃ output, emptyFactor.Yields ⟨3⟩ false (.ok output) := by
  intro long empty nested single outputs
  have reachable : emptyFactor.Reachable := reachable_run _
  have wellFormed := reachable.store_wellFormed
  have pending : emptyFactor.store.Pending nested := ⟨by decide +kernel, by decide +kernel⟩
  have singlePending : emptyFactor.store.Pending single := ⟨by decide +kernel, by decide +kernel⟩
  have factors : emptyFactor.store.factors nested = [long, long, empty] := by decide +kernel
  have singleFactors : emptyFactor.store.factors single = [long, long, empty] := by decide +kernel
  have here : Store.Estimable emptyFactor.store long (emptyFactor.store.relation ⟨0⟩) :=
    Store.estimable_scan (by decide +kernel) (by decide +kernel)
  have there : Store.Estimable emptyFactor.store empty (emptyFactor.store.relation ⟨1⟩) :=
    Store.estimable_scan (by decide +kernel) (by decide +kernel)
  have estimable : List.Forall₂ (Store.Estimable emptyFactor.store) [long, long, empty] outputs :=
    .cons here (.cons here (.cons there .nil))
  have stops : (emptyFactor.store.parts nested).findSome? emptyFactor.store.stop? =
      some .unwritable := by decide +kernel
  have all : List.Forall₂ (Store.Estimable emptyFactor.store) (emptyFactor.store.factors single)
      outputs := by
    rw [singleFactors]
    exact estimable
  have alone : emptyFactor.store.products single = [single] := by decide +kernel
  have writable : emptyFactor.store.NestWritable single := by
    intro product member output means
    rw [alone, List.mem_singleton] at member
    rw [member] at means
    rw [means.unique (Store.means_nest all)]
    decide +kernel
  refine ⟨reachable, pending, singlePending, factors, singleFactors, estimable, ?_, ?_⟩
  · exact ⟨_, yields_of_estimable wellFormed (Store.estimable_nest all writable) singlePending
      false⟩
  · rintro ⟨output, yields⟩
    cases yields.unique (yields_fault wellFormed pending.stored pending.unknown false stops)

end Selectivity.Session

import Selectivity.Proofs.Session.Correspondence
import Selectivity.Proofs.Session.Counts
import Selectivity.Proofs.Statistics.Orientation

/-!
# Orientation in a session

Two sessions hold plans that are the same but for the sides of some comparisons. Their estimations
come out alike: all outputs are equal, or both end at the same place, with the same schemas and with
the missing attributes in the order of the condition there, or because of the same output that
cannot be told.
-/

namespace Selectivity.Session

/-- The sides of comparisons do not matter. Of two plans without outputs that are the same but for
them, both can be estimated or neither, and outputs that are known for corresponding nodes are
equal, which are all if the plans can be estimated. Otherwise both estimations end at corresponding
parts. Either the attributes of their conditions are missing, told in the order in which the
condition of each part names them and with the same schemas, or the same output cannot be told. -/
theorem orientation_does_not_matter {first second : Session} (reachable : first.Reachable)
    (secondReachable : second.Reachable) {node copy : Node}
    (stored : first.store.node? node.ref = some node)
    (copied : second.store.node? copy.ref = some copy)
    (alike : Tree.Alike orientation.Nodes (first.store.plan node) (second.store.plan copy))
    (rules : ∀ part ∈ first.store.parts node, part.operator.hasRule = true)
    (verbose copyVerbose : Bool) :
    let step := first.perform (.estimate node.ref verbose)
    let copyStep := second.perform (.estimate copy.ref copyVerbose)
    Tree.Alike orientation.Outputs (step.1.store.plan node) (copyStep.1.store.plan copy) ∧
      ((∃ outcome, step.2.result = .ok outcome) ↔ ∃ outcome, copyStep.2.result = .ok outcome) ∧
      ((∃ outcome, step.2.result = .ok outcome) →
        Tree.Alike orientation.BothOutputs (step.1.store.plan node) (copyStep.1.store.plan copy)) ∧
      ((¬ ∃ outcome, step.2.result = .ok outcome) → ∃ place part other fault otherFault,
        step.2.result = .error (.estimate fault) ∧
        copyStep.2.result = .error (.estimate otherFault) ∧
        Store.StopsFirst first.store (first.store.parts node) place part fault ∧
        Store.StopsFirst second.store (second.store.parts copy) place other otherFault ∧
        Tree.Alike orientation.Nodes (first.store.plan part) (second.store.plan other) ∧
        ((∃ schemas, fault = .missingAttribute ⟨part.operator.sought, schemas⟩ ∧
            otherFault = .missingAttribute ⟨other.operator.sought, schemas⟩) ∨
          otherFault = fault ∧ ∃ output, Store.Means first.store part output ∧
            (fault = .compoundName ∧ part.operator.hasCondition = true ∧
                output.hasCompoundName = true ∨
              fault = .unwritable ∧ output.isWritable = false))) := by
  have wellFormed := reachable.store_wellFormed
  obtain ⟨unknown, copyUnknown⟩ := Store.unknown_of_alike orientation.blank_nodes alike
  have copyRules :=
    Store.rules_of_alike (fun _ _ turns => Operator.Turned.hasRule turns) alike rules
  obtain ⟨outputs, ends⟩ := perform_estimate_matching wellFormed
    secondReachable.store_wellFormed stored copied alike verbose copyVerbose
  intro step copyStep
  refine ⟨outputs, ?_⟩
  rcases ends with ⟨succeeds, copySucceeds, both⟩ | ⟨place, part, other, fault, otherFault, failed,
    copyFailed, stops, otherStops, partsAlike, faults⟩
  · exact ⟨iff_of_true succeeds copySucceeds, fun _ => both, fun refused => absurd succeeds refused⟩
  · have refused : ¬ ∃ outcome, step.2.result = .ok outcome := by
      rintro ⟨outcome, same⟩
      cases failed.symm.trans same
    have copyRefused : ¬ ∃ outcome, copyStep.2.result = .ok outcome := by
      rintro ⟨outcome, same⟩
      cases copyFailed.symm.trans same
    refine ⟨iff_of_false refused copyRefused, fun succeeds => absurd succeeds refused, fun _ => ?_⟩
    refine ⟨place, part, other, fault, otherFault, failed, copyFailed, stops, otherStops,
      partsAlike, ?_⟩
    have stopsAt := stops.stopsAt wellFormed stored unknown rules
    have otherStopsAt :=
      otherStops.stopsAt secondReachable.store_wellFormed copied copyUnknown copyRules
    have told : ∀ attributes others schemas, fault = .missingAttribute ⟨attributes, schemas⟩ →
        otherFault = .missingAttribute ⟨others, schemas⟩ →
        ∃ schemas, fault = .missingAttribute ⟨part.operator.sought, schemas⟩ ∧
          otherFault = .missingAttribute ⟨other.operator.sought, schemas⟩ := by
      rintro attributes others schemas rfl rfl
      rw [stopsAt.sought, otherStopsAt.sought]
      exact ⟨schemas, rfl, rfl⟩
    cases faults with
    | same =>
        rcases stopsAt.cause_of_alike partsAlike with ⟨missing, rfl⟩ | untold
        · exact Or.inl (told _ _ _ rfl rfl)
        · exact Or.inr ⟨rfl, untold⟩
    | swapped attributes schemas => exact Or.inl (told _ _ _ rfl rfl)

/-- A join over the product of a scan with itself. -/
def productJoin (count : Nat) (condition : Comparison) : Session :=
  initial.run [.makeAttribute "a" count, .makeRelation count [⟨0⟩], .makeAttribute "c" 1,
    .makeRelation 1 [⟨1⟩], .scan "R" ⟨0⟩, .scan "S" ⟨1⟩, .product [⟨0⟩, ⟨0⟩],
    .join ⟨2⟩ ⟨1⟩ (some (.equalsAttribute condition))]

def productJoinNode (condition : Comparison) : Node :=
  .node ⟨⟨3⟩, .join condition⟩
    [.node ⟨⟨2⟩, .product⟩ [.node ⟨⟨0⟩, .scan "R" ⟨0⟩⟩ [], .node ⟨⟨0⟩, .scan "R" ⟨0⟩⟩ []],
      .node ⟨⟨1⟩, .scan "S" ⟨1⟩⟩ []]

/-- The plans of the join with its sides exchanged are the same but for them. -/
theorem productJoin_alike {first second : Store} (condition : Comparison)
    (bases : ∀ base ∈ [⟨0⟩, ⟨1⟩], first.relation base = second.relation base)
    (unknown : ∀ index < 4, first.outputRelation? ⟨index⟩ = none)
    (copyUnknown : ∀ index < 4, second.outputRelation? ⟨index⟩ = none) :
    Tree.Alike orientation.Nodes (first.plan (productJoinNode condition))
      (second.plan (productJoinNode condition.swap)) := by
  have nodes : ∀ index < 4, ∀ operator other, Operator.Turned operator other →
      orientation.Nodes ⟨operator, first.outputRelation? ⟨index⟩⟩
        ⟨other, second.outputRelation? ⟨index⟩⟩ :=
    fun index low _ _ turns => ⟨turns, unknown index low, copyUnknown index low⟩
  have scan : ∀ index < 4, ∀ name, ∀ base ∈ [⟨0⟩, ⟨1⟩],
      Tree.Alike orientation.Nodes (first.plan (.node ⟨⟨index⟩, .scan name base⟩ []))
        (second.plan (.node ⟨⟨index⟩, .scan name base⟩ [])) := by
    intro index low name base listed
    rw [Store.plan_node, Store.plan_node]
    refine .node (nodes index low _ _ ?_) .nil
    rw [Operator.mapBase, Operator.mapBase, bases base listed]
    exact .same _
  have left := scan 0 (by decide) "R" ⟨0⟩ (by decide)
  have right := scan 1 (by decide) "S" ⟨1⟩ (by decide)
  rw [productJoinNode, productJoinNode, Store.plan_node, Store.plan_node]
  refine .node (nodes 3 (by decide) _ _ (.join condition)) (.cons ?_ (.cons right .nil))
  rw [Store.plan_node, Store.plan_node]
  exact .node (nodes 2 (by decide) _ _ (.same _)) (.cons left (.cons left .nil))

theorem productJoin_turned :
    let node := productJoinNode ⟨"a", "c"⟩
    let copy := productJoinNode ⟨"c", "a"⟩
    let step := (productJoin 2 ⟨"a", "c"⟩).perform (.estimate node.ref false)
    let copyStep := (productJoin 2 ⟨"c", "a"⟩).perform (.estimate copy.ref true)
    (productJoin 2 ⟨"a", "c"⟩).Reachable ∧ (productJoin 2 ⟨"c", "a"⟩).Reachable ∧
      Tree.Alike orientation.BothOutputs (step.1.store.plan node) (copyStep.1.store.plan copy) ∧
      ∃ outcome, copyStep.2.result = .ok outcome := by
  intro node copy step copyStep
  have reachable : (productJoin 2 ⟨"a", "c"⟩).Reachable := reachable_run _
  have copyReachable : (productJoin 2 ⟨"c", "a"⟩).Reachable := reachable_run _
  have alike : Tree.Alike orientation.Nodes ((productJoin 2 ⟨"a", "c"⟩).store.plan node)
      ((productJoin 2 ⟨"c", "a"⟩).store.plan copy) :=
    productJoin_alike ⟨"a", "c"⟩ (by decide +kernel) (by decide +kernel) (by decide +kernel)
  have succeeds : ∃ outcome, step.2.result = .ok outcome := exists_of_isOk (by decide +kernel)
  obtain ⟨-, copySucceeds, outputs, -⟩ := orientation_does_not_matter reachable copyReachable
    (by decide +kernel) (by decide +kernel) alike (by decide +kernel) false true
  exact ⟨reachable, copyReachable, outputs succeeds, copySucceeds.mp succeeds⟩

/-- A long product fails below the join, whatever the orientation of the join is, and no attribute
is missing. -/
theorem productJoin_fails_otherwise :
    let first := productJoin (Nat.pow 10 2200) ⟨"a", "c"⟩
    let second := productJoin (Nat.pow 10 2200) ⟨"c", "a"⟩
    first.Reachable ∧ second.Reachable ∧
      first.store.node? ⟨3⟩ = some (productJoinNode ⟨"a", "c"⟩) ∧
      second.store.node? ⟨3⟩ = some (productJoinNode ⟨"c", "a"⟩) ∧
      (∀ placed ∈ (productJoinNode ⟨"a", "c"⟩).preorder, placed.operator.hasRule = true) ∧
      Tree.Alike orientation.Nodes (first.store.plan (productJoinNode ⟨"a", "c"⟩))
        (second.store.plan (productJoinNode ⟨"c", "a"⟩)) ∧
      ∃ fault otherFault,
        (first.perform (.estimate ⟨3⟩ false)).2.result = .error fault ∧
        (second.perform (.estimate ⟨3⟩ false)).2.result = .error otherFault ∧
        (∀ missing, fault ≠ .estimate (.missingAttribute missing)) ∧
        ∀ missing, otherFault ≠ .estimate (.missingAttribute missing) := by
  intro first second
  have alike : Tree.Alike orientation.Nodes (first.store.plan (productJoinNode ⟨"a", "c"⟩))
      (second.store.plan (productJoinNode ⟨"c", "a"⟩)) :=
    productJoin_alike ⟨"a", "c"⟩ (by decide +kernel) (by decide +kernel) (by decide +kernel)
  have failed : (first.perform (.estimate ⟨3⟩ false)).2.result = .error (.estimate .unwritable) :=
    eq_error_of_decide (by decide +kernel)
  have otherFailed : (second.perform (.estimate ⟨3⟩ false)).2.result =
      .error (.estimate .unwritable) := eq_error_of_decide (by decide +kernel)
  exact ⟨reachable_run _, reachable_run _, by decide +kernel, by decide +kernel, by decide, alike,
    _, _, failed, otherFailed, nofun, nofun⟩

end Selectivity.Session

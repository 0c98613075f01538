import Mathlib.Logic.Equiv.Basic
import Selectivity.Proofs.Session.Correspondence
import Selectivity.Proofs.Session.Counts
import Selectivity.Proofs.Plan.Equality
import Selectivity.Proofs.Statistics.Renaming

/-!
# Renaming in a session

Two sessions hold plans that are the same but for an injective renaming of attributes and for the
names of scans and the literals of conditions. Their estimations come out alike: all outputs are the
same but for the renaming, or both end at the same place, where the renamed attributes are missing,
or because of the same output that cannot be told.
-/

namespace Selectivity.Session

/-- Names count by their equality only. Of two plans without outputs that are the same but for an
injective renaming, both can be estimated or neither. If they can, then the outputs of corresponding
nodes are the same but for the renaming. Otherwise both estimations end at corresponding parts,
where the renamed attributes are missing in the renamed relations, or the output cannot be told. -/
theorem names_count_by_equality {image : String → String} (injective : Function.Injective image)
    {first second : Session} (reachable : first.Reachable) (secondReachable : second.Reachable)
    {node copy : Node} (stored : first.store.node? node.ref = some node)
    (copied : second.store.node? copy.ref = some copy)
    (alike : Tree.Alike (Correspondence.ofRenaming injective).Nodes (first.store.plan node)
      (second.store.plan copy))
    (verbose copyVerbose : Bool) :
    let step := first.perform (.estimate node.ref verbose)
    let copyStep := second.perform (.estimate copy.ref copyVerbose)
    ((∃ outcome, step.2.result = .ok outcome) ↔ ∃ outcome, copyStep.2.result = .ok outcome) ∧
      ((∃ outcome, step.2.result = .ok outcome) →
        Tree.Alike (fun placed other => ∃ output, placed.output = some output ∧
            other.output = some (output.rename image))
          (step.1.store.plan node) (copyStep.1.store.plan copy)) ∧
      ((¬ ∃ outcome, step.2.result = .ok outcome) → ∃ place part other fault otherFault,
        step.2.result = .error (.estimate fault) ∧
        copyStep.2.result = .error (.estimate otherFault) ∧
        Store.StopsFirst first.store (first.store.parts node) place part fault ∧
        Store.StopsFirst second.store (second.store.parts copy) place other otherFault ∧
        Tree.Alike (Correspondence.ofRenaming injective).Nodes (first.store.plan part)
          (second.store.plan other) ∧
        ((∃ (attributes : List String) (relations : List Relation),
            fault = .missingAttribute ⟨attributes, relations.map Relation.render⟩ ∧
            otherFault = .missingAttribute ⟨attributes.map image,
              (relations.map (Relation.rename image)).map Relation.render⟩) ∨
          otherFault = fault ∧ ∃ output, Store.Means first.store part output ∧
            (fault = .compoundName ∧ part.operator.hasCondition = true ∧
                output.hasCompoundName = true ∨
              fault = .unwritable ∧ output.isWritable = false))) := by
  have wellFormed := reachable.store_wellFormed
  have unknown := (Store.unknown_of_alike (Correspondence.blank_nodes _) alike).1
  have rules := Store.hasRule_of_alike (fun _ _ renamed => Operator.Renamed.hasRule renamed) alike
  obtain ⟨both, outputs, ends⟩ := perform_estimate_alike wellFormed
    secondReachable.store_wellFormed stored copied alike verbose copyVerbose
  intro step copyStep
  refine ⟨both, fun succeeds => ?_, fun refused => ?_⟩
  · refine (outputs succeeds).imp ?_
    rintro placed - other - ⟨output, result, said, copySaid, rfl⟩
    exact ⟨output, said, copySaid⟩
  · obtain ⟨place, part, other, fault, otherFault, failed, copyFailed, stops, otherStops,
      partsAlike, faults⟩ := ends refused
    refine ⟨place, part, other, fault, otherFault, failed, copyFailed, stops, otherStops,
      partsAlike, ?_⟩
    have cause := (stops.stopsAt wellFormed stored unknown rules).cause_of_alike partsAlike
    cases faults with
    | missing attributes relations => exact Or.inl ⟨attributes, relations, rfl, rfl⟩
    | unknownOperator kind =>
        rcases cause with ⟨missing, same⟩ | ⟨output, means, ⟨same, -⟩ | ⟨same, -⟩⟩ <;> cases same
    | compoundName => exact Or.inr ⟨rfl, cause.resolve_left nofun⟩
    | unwritable => exact Or.inr ⟨rfl, cause.resolve_left nofun⟩

/-- A selection over the product of a scan with itself. -/
def squareSelection (name column value : String) (count : Nat) : Session :=
  initial.run [.makeAttribute column count, .makeRelation count [⟨0⟩], .scan name ⟨0⟩,
    .product [⟨0⟩, ⟨0⟩], .select ⟨1⟩ (some (.equalsValue column value))]

def squareSelectionNode (name column value : String) : Node :=
  .node ⟨⟨2⟩, .select (some (.equalsValue column value))⟩
    [.node ⟨⟨1⟩, .product⟩ [.node ⟨⟨0⟩, .scan name ⟨0⟩⟩ [], .node ⟨⟨0⟩, .scan name ⟨0⟩⟩ []]]

/-- Exchanges the names a and b. -/
def exchange (name : String) : String :=
  Equiv.swap "a" "b" name

theorem exchange_injective : Function.Injective exchange :=
  (Equiv.swap "a" "b").injective

/-- The selections are the same but for the exchange of the names, if the bases are. -/
theorem squareSelection_alike {first second : Store}
    (bases : (first.relation ⟨0⟩).rename exchange = second.relation ⟨0⟩)
    (unknown : ∀ index < 3, first.outputRelation? ⟨index⟩ = none)
    (copyUnknown : ∀ index < 3, second.outputRelation? ⟨index⟩ = none) :
    Tree.Alike (Correspondence.ofRenaming exchange_injective).Nodes
      (first.plan (squareSelectionNode "R" "a" "x"))
      (second.plan (squareSelectionNode "S" "b" "y")) := by
  have nodes : ∀ index < 3, ∀ operator other, Operator.Renamed exchange operator other →
      (Correspondence.ofRenaming exchange_injective).Nodes
        ⟨operator, first.outputRelation? ⟨index⟩⟩ ⟨other, second.outputRelation? ⟨index⟩⟩ :=
    fun index low _ _ renamed => ⟨renamed, unknown index low, copyUnknown index low⟩
  have scans : Tree.Alike (Correspondence.ofRenaming exchange_injective).Nodes
      (first.plan (.node ⟨⟨0⟩, .scan "R" ⟨0⟩⟩ []))
      (second.plan (.node ⟨⟨0⟩, .scan "S" ⟨0⟩⟩ [])) := by
    rw [Store.plan_node, Store.plan_node]
    refine .node (nodes 0 (by decide) _ _ ?_) .nil
    rw [Operator.mapBase, Operator.mapBase, ← bases]
    exact .scan "R" "S" _
  rw [squareSelectionNode, squareSelectionNode, Store.plan_node, Store.plan_node]
  have selection := @Operator.Renamed.selectValue exchange "a" "x" "y"
  rw [show exchange "a" = "b" from Equiv.swap_apply_left "a" "b"] at selection
  refine .node (nodes 2 (by decide) _ _ selection) (.cons ?_ .nil)
  rw [Store.plan_node, Store.plan_node]
  exact .node (nodes 1 (by decide) _ _ .product) (.cons scans (.cons scans .nil))

theorem squareSelection_renamed :
    let node := squareSelectionNode "R" "a" "x"
    let copy := squareSelectionNode "S" "b" "y"
    let first := squareSelection "R" "a" "x" 6
    let second := squareSelection "S" "b" "y" 6
    first.Reachable ∧ second.Reachable ∧
      Tree.Alike (fun placed other => ∃ output, placed.output = some output ∧
          other.output = some (output.rename exchange))
        ((first.perform (.estimate node.ref false)).1.store.plan node)
        ((second.perform (.estimate copy.ref true)).1.store.plan copy) := by
  intro node copy first second
  have reachable : first.Reachable := reachable_run _
  have copyReachable : second.Reachable := reachable_run _
  have alike : Tree.Alike (Correspondence.ofRenaming exchange_injective).Nodes
      (first.store.plan node) (second.store.plan copy) :=
    squareSelection_alike (by decide +kernel) (by decide +kernel) (by decide +kernel)
  have succeeds : ∃ outcome, (first.perform (.estimate node.ref false)).2.result = .ok outcome :=
    exists_of_isOk (by decide +kernel)
  obtain ⟨-, outputs, -⟩ := names_count_by_equality exchange_injective reachable copyReachable
    (by decide +kernel) (by decide +kernel) alike false true
  exact ⟨reachable, copyReachable, outputs succeeds⟩

/-- Of two selections that are the same but for the names, neither can be estimated over a long
product, and no attribute is missing. -/
theorem squareSelection_fails_otherwise :
    let first := squareSelection "R" "a" "x" (Nat.pow 10 2200)
    let second := squareSelection "S" "b" "y" (Nat.pow 10 2200)
    first.Reachable ∧ second.Reachable ∧
      first.store.node? ⟨2⟩ = some (squareSelectionNode "R" "a" "x") ∧
      second.store.node? ⟨2⟩ = some (squareSelectionNode "S" "b" "y") ∧
      Tree.Alike (Correspondence.ofRenaming exchange_injective).Nodes
        (first.store.plan (squareSelectionNode "R" "a" "x"))
        (second.store.plan (squareSelectionNode "S" "b" "y")) ∧
      ∃ fault otherFault,
        (first.perform (.estimate ⟨2⟩ false)).2.result = .error fault ∧
        (second.perform (.estimate ⟨2⟩ false)).2.result = .error otherFault ∧
        (∀ missing, fault ≠ .estimate (.missingAttribute missing)) ∧
        ∀ missing, otherFault ≠ .estimate (.missingAttribute missing) := by
  intro first second
  have failed : (first.perform (.estimate ⟨2⟩ false)).2.result = .error (.estimate .unwritable) :=
    eq_error_of_decide (by decide +kernel)
  have otherFailed : (second.perform (.estimate ⟨2⟩ false)).2.result =
      .error (.estimate .unwritable) := eq_error_of_decide (by decide +kernel)
  exact ⟨reachable_run _, reachable_run _, by decide +kernel, by decide +kernel,
    squareSelection_alike (by decide +kernel) (by decide +kernel) (by decide +kernel),
    _, _, failed, otherFailed, nofun, nofun⟩

end Selectivity.Session

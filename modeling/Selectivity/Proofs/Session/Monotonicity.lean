import Selectivity.Proofs.Estimation.Agreement
import Selectivity.Proofs.Estimation.Monotonicity

/-!
# Larger relations in a session

Two sessions hold copies of one plan, without outputs and over base relations that lie below each
other. The copies mean something both or neither, and whatever is estimated lies below each other
node by node. If one of them has been estimated, then only the writing of a count can keep the other
one from it: larger base relations have longer counts.
-/

namespace Selectivity.Session

/-- An estimation succeeds exactly if everything that the parts of its node mean can be written, and
otherwise it ends because something cannot. -/
structure SucceedsIfWritable (session : Session) (node : Node) (verbose : Bool) : Prop where
  succeeds : session.store.AllWritable node →
    ∃ outcome, (session.perform (.estimate node.ref verbose)).2.result = .ok outcome
  ends : ¬ session.store.AllWritable node →
    (session.perform (.estimate node.ref verbose)).2.result = .error (.estimate .unwritable)

variable {session : Session} {node : Node}

theorem succeedsIfWritable_of_sensible (wellFormed : session.store.WellFormed)
    (sensible : session.store.Sensible node) (stored : session.store.node? node.ref = some node)
    (unknown : session.store.output? node.ref = none)
    (rules : ∀ part ∈ session.store.parts node, part.operator.hasRule = true) (verbose : Bool) :
    session.SucceedsIfWritable node verbose := by
  rcases sensible.estimateNode wellFormed stored unknown rules with
    ⟨quiet, writable⟩ | ⟨failed, tooLong⟩
  · have succeeds := result_of_quiet wellFormed stored unknown verbose quiet
    exact ⟨fun _ => succeeds, fun tooLong => absurd writable tooLong⟩
  · exact ⟨fun writable => absurd writable tooLong,
      fun _ => perform_estimate_error stored unknown failed⟩

/-- Copies of a plan over larger relations mean larger relations, node by node, and whatever outputs
two estimations give to them are so as well. If the one estimation succeeds, then the other one
succeeds exactly if everything that its parts mean can be written. -/
theorem estimates_are_monotone {first second : Session} (reachable : first.Reachable)
    (secondReachable : second.Reachable) {node copy : Node}
    (stored : first.store.node? node.ref = some node)
    (copied : second.store.node? copy.ref = some copy)
    (copies : Tree.Alike PlanNode.Lower (first.store.plan node) (second.store.plan copy))
    (rules : ∀ part ∈ first.store.parts node, part.operator.hasRule = true)
    (verbose copyVerbose : Bool) :
    let step := first.perform (.estimate node.ref verbose)
    let copyStep := second.perform (.estimate copy.ref copyVerbose)
    ((∃ output, Store.Means first.store node output) ↔
        ∃ larger, Store.Means second.store copy larger) ∧
      ((∃ outcome, step.2.result = .ok outcome) →
        second.SucceedsIfWritable copy copyVerbose) ∧
      ((∃ outcome, copyStep.2.result = .ok outcome) → first.SucceedsIfWritable node verbose) ∧
      Tree.Alike PlanNode.Below (step.1.store.plan node) (copyStep.1.store.plan copy) ∧
      ((∃ outcome, step.2.result = .ok outcome) → (∃ outcome, copyStep.2.result = .ok outcome) →
        Tree.Alike PlanNode.BothBelow (step.1.store.plan node) (copyStep.1.store.plan copy)) := by
  have wellFormed := reachable.store_wellFormed
  have secondWellFormed := secondReachable.store_wellFormed
  obtain ⟨unknown, copyUnknown⟩ := Store.unknown_of_alike Store.blank_lower copies
  have copyRules := (Store.rules_iff copies).mp rules
  have runs := (Store.Sound.refl wellFormed).estimateNode wellFormed node stored unknown
  have copyRuns :=
    (Store.Sound.refl secondWellFormed).estimateNode secondWellFormed copy copied copyUnknown
  intro step copyStep
  have store : step.1.store = _ := perform_estimate_store stored unknown
  have copyStore : copyStep.1.store = _ := perform_estimate_store copied copyUnknown
  rw [store, copyStore]
  have here := fun part member => (wellFormed.of_mem_parts node stored part member).1
  have there := fun part member => (secondWellFormed.of_mem_parts copy copied part member).1
  refine ⟨(Store.peers_of_copies copies).means_iff, ?_, ?_, ?_, ?_⟩
  · rintro ⟨outcome, succeeded⟩
    have quiet := quiet_of_result stored unknown succeeded
    have sensible := Store.Sensible.of_quiet wellFormed stored unknown rules quiet
    exact succeedsIfWritable_of_sensible secondWellFormed ((Store.sensible_iff copies).mp sensible)
      copied copyUnknown copyRules copyVerbose
  · rintro ⟨outcome, succeeded⟩
    have quiet := quiet_of_result copied copyUnknown succeeded
    have sensible := Store.Sensible.of_quiet secondWellFormed copied copyUnknown copyRules quiet
    exact succeedsIfWritable_of_sensible wellFormed ((Store.sensible_iff copies).mpr sensible)
      stored unknown rules verbose
  · refine Store.plans_alike Store.blank_lower node copy copies
      fun part member other within alike => ?_
    intro output larger said copySaid
    obtain ⟨ref, known, rfl⟩ := Option.map_eq_some_iff.mp said
    obtain ⟨copyRef, copyKnown, rfl⟩ := Option.map_eq_some_iff.mp copySaid
    exact (Store.peers_of_copies alike).outputs_below wellFormed secondWellFormed runs.sound
      copyRuns.sound (here part member) (there other within) known copyKnown
  · rintro ⟨outcome, succeeded⟩ ⟨copyOutcome, copySucceeded⟩
    have known := runs.known (quiet_of_result stored unknown succeeded)
    have copyKnown := copyRuns.known (quiet_of_result copied copyUnknown copySucceeded)
    refine Store.plans_alike Store.blank_lower node copy copies
      fun part member other within alike => ?_
    obtain ⟨ref, said⟩ := known part member
    obtain ⟨copyRef, copySaid⟩ := copyKnown other within
    refine ⟨_, _, congrArg (Option.map _) said, congrArg (Option.map _) copySaid, ?_⟩
    exact (Store.peers_of_copies alike).outputs_below wellFormed secondWellFormed runs.sound
      copyRuns.sound (here part member) (there other within) said copySaid

/-- The selection over a shared scan, from a relation with more tuples and fewer values. -/
def largerScan : Session :=
  initial.run [.makeAttribute "a" 1, .makeRelation 10 [⟨0⟩], .scan "R" ⟨0⟩,
    .product [⟨0⟩, ⟨0⟩], .select ⟨1⟩ (some (.equalsValue "a" "x"))]

/-- Plans of a selection over a shared scan are alike if the scanned relations are. -/
theorem sharedSelection_alike {first second : Store}
    (base : (first.relation ⟨0⟩).Below (second.relation ⟨0⟩))
    (unknown : ∀ placed ∈ sharedSelection.preorder, first.outputRelation? placed.ref = none)
    (copyUnknown : ∀ placed ∈ sharedSelection.preorder, second.outputRelation? placed.ref = none) :
    Tree.Alike PlanNode.Lower (first.plan sharedSelection) (second.plan sharedSelection) := by
  have lower : ∀ placed ∈ sharedSelection.preorder,
      (placed.operator.mapBase first.relation).Below (placed.operator.mapBase second.relation) →
      PlanNode.Lower ⟨placed.operator.mapBase first.relation, first.outputRelation? placed.ref⟩
        ⟨placed.operator.mapBase second.relation, second.outputRelation? placed.ref⟩ :=
    fun placed member below => ⟨below, unknown placed member, copyUnknown placed member⟩
  have scans : Tree.Alike PlanNode.Lower (first.plan (.node ⟨⟨0⟩, .scan "R" ⟨0⟩⟩ []))
      (second.plan (.node ⟨⟨0⟩, .scan "R" ⟨0⟩⟩ [])) := by
    rw [Store.plan_node, Store.plan_node]
    exact .node (lower ⟨⟨0⟩, .scan "R" ⟨0⟩⟩ (by decide) (.scan "R" base)) .nil
  rw [sharedSelection, Store.plan_node, Store.plan_node]
  refine .node (lower ⟨⟨2⟩, .select _⟩ (by decide) (.select _)) (.cons ?_ .nil)
  rw [Store.plan_node, Store.plan_node]
  exact .node (lower ⟨⟨1⟩, .product⟩ (by decide) .product) (.cons scans (.cons scans .nil))

theorem sharedSelection_is_monotone :
    sharedScan.Reachable ∧ largerScan.Reachable ∧
      Tree.Alike PlanNode.Lower (sharedScan.store.plan sharedSelection)
        (largerScan.store.plan sharedSelection) ∧
      largerScan.SucceedsIfWritable sharedSelection true ∧
      Tree.Alike PlanNode.BothBelow
        ((sharedScan.perform (.estimate sharedSelection.ref false)).1.store.plan sharedSelection)
        ((largerScan.perform (.estimate sharedSelection.ref true)).1.store.plan
          sharedSelection) := by
  have stored : sharedScan.store.node? sharedSelection.ref = some sharedSelection := by decide
  have copied : largerScan.store.node? sharedSelection.ref = some sharedSelection := by decide
  have copies : Tree.Alike PlanNode.Lower (sharedScan.store.plan sharedSelection)
      (largerScan.store.plan sharedSelection) := by
    refine sharedSelection_alike ⟨by decide, .cons ⟨rfl, by decide⟩ .nil⟩ ?_ ?_
    · decide
    · decide
  have succeeded : ∃ outcome,
      (sharedScan.perform (.estimate sharedSelection.ref false)).2.result = .ok outcome :=
    exists_of_isOk (by decide +kernel)
  have copySucceeded : ∃ outcome,
      (largerScan.perform (.estimate sharedSelection.ref true)).2.result = .ok outcome :=
    exists_of_isOk (by decide +kernel)
  have reachable : sharedScan.Reachable := reachable_run _
  have copyReachable : largerScan.Reachable := reachable_run _
  obtain ⟨-, succeeds, -, -, below⟩ :=
    estimates_are_monotone reachable copyReachable stored copied copies (by decide) false true
  exact ⟨reachable, copyReachable, copies, succeeds succeeded, below succeeded copySucceeded⟩

/-- The selection over a shared scan of one tuple, with as many values as in the long product. -/
def shortProduct : Session :=
  initial.run [.makeAttribute "a" (Nat.pow 10 2200), .makeRelation 1 [⟨0⟩], .scan "R" ⟨0⟩,
    .product [⟨0⟩, ⟨0⟩], .select ⟨1⟩ (some (.equalsValue "a" "x"))]

/-- The plan over the smaller relation can be estimated, and its copy over the larger one cannot. -/
theorem shortProduct_succeeds_alone :
    shortProduct.Reachable ∧ longProduct.Reachable ∧
      shortProduct.store.node? ⟨2⟩ = some sharedSelection ∧
      longProduct.store.node? ⟨2⟩ = some sharedSelection ∧
      (∀ placed ∈ sharedSelection.preorder, placed.operator.hasRule = true) ∧
      Tree.Alike PlanNode.Lower (shortProduct.store.plan sharedSelection)
        (longProduct.store.plan sharedSelection) ∧
      (∃ outcome, (shortProduct.perform (.estimate ⟨2⟩ false)).2.result = .ok outcome) ∧
      ¬ ∃ outcome, (longProduct.perform (.estimate ⟨2⟩ false)).2.result = .ok outcome := by
  have fewer : (shortProduct.store.relation ⟨0⟩).tupleCount ≤
      (longProduct.store.relation ⟨0⟩).tupleCount := by decide +kernel
  have same : (shortProduct.store.relation ⟨0⟩).attributes =
      (longProduct.store.relation ⟨0⟩).attributes := by decide +kernel
  have base : (shortProduct.store.relation ⟨0⟩).Below (longProduct.store.relation ⟨0⟩) := by
    refine ⟨fewer, ?_⟩
    rw [same]
    exact List.forall₂_same.mpr fun column _ => ⟨rfl, Nat.le_refl column.valueCount⟩
  have copies : Tree.Alike PlanNode.Lower (shortProduct.store.plan sharedSelection)
      (longProduct.store.plan sharedSelection) :=
    sharedSelection_alike base (by decide +kernel) (by decide +kernel)
  have reachable : shortProduct.Reachable := reachable_run _
  have copyReachable : longProduct.Reachable := reachable_run _
  have refused : (longProduct.perform (.estimate ⟨2⟩ false)).2.result.isOk = false := by
    decide +kernel
  refine ⟨reachable, copyReachable, by decide +kernel, by decide +kernel, by decide, copies,
    exists_of_isOk (by decide +kernel), ?_⟩
  rintro ⟨outcome, succeeded⟩
  rw [succeeded] at refused
  cases refused

end Selectivity.Session

import Selectivity.Proofs.Estimation.Correspondence

/-!
# Corresponding plans in two sessions

Two sessions hold plans that correspond. Either both are estimated, and all outputs correspond, or
both estimations end at the same place with corresponding faults, and the outputs that have been
said until then correspond.
-/

namespace Selectivity.Session

variable {along : Correspondence} {first second : Session} {node copy : Node}

/-- The estimations of two corresponding nodes come out alike: both succeed, or both end with
corresponding faults at parts that correspond and stand at the same place. -/
theorem perform_estimate_matching (wellFormed : first.store.WellFormed)
    (secondWellFormed : second.store.WellFormed)
    (stored : first.store.node? node.ref = some node)
    (copied : second.store.node? copy.ref = some copy)
    (alike : Tree.Alike along.Nodes (first.store.plan node) (second.store.plan copy))
    (verbose copyVerbose : Bool) :
    let step := first.perform (.estimate node.ref verbose)
    let copyStep := second.perform (.estimate copy.ref copyVerbose)
    Tree.Alike along.Outputs (step.1.store.plan node) (copyStep.1.store.plan copy) ∧
      (((∃ outcome, step.2.result = .ok outcome) ∧ (∃ outcome, copyStep.2.result = .ok outcome) ∧
          Tree.Alike along.BothOutputs (step.1.store.plan node) (copyStep.1.store.plan copy)) ∨
        ∃ place part other fault otherFault,
          step.2.result = .error (.estimate fault) ∧
          copyStep.2.result = .error (.estimate otherFault) ∧
          Store.StopsFirst first.store (first.store.parts node) place part fault ∧
          Store.StopsFirst second.store (second.store.parts copy) place other otherFault ∧
          Tree.Alike along.Nodes (first.store.plan part) (second.store.plan other) ∧
          along.faults fault otherFault) := by
  obtain ⟨unknown, copyUnknown⟩ := Store.unknown_of_alike along.blank_nodes alike
  have runs := (Store.Sound.refl wellFormed).estimateNode wellFormed node stored unknown
  have copyRuns :=
    (Store.Sound.refl secondWellFormed).estimateNode secondWellFormed copy copied copyUnknown
  have here := fun part member => (wellFormed.of_mem_parts node stored part member).1
  have there := fun part member => (secondWellFormed.of_mem_parts copy copied part member).1
  intro step copyStep
  have store : step.1.store = _ := perform_estimate_store stored unknown
  have copyStore : copyStep.1.store = _ := perform_estimate_store copied copyUnknown
  rw [store, copyStore]
  constructor
  · refine Store.plans_alike along.blank_nodes node copy alike
      fun part member other within partsAlike => ?_
    intro output result said copySaid
    obtain ⟨ref, known, rfl⟩ := Option.map_eq_some_iff.mp said
    obtain ⟨copyRef, copyKnown, rfl⟩ := Option.map_eq_some_iff.mp copySaid
    exact Store.outputs_matching wellFormed secondWellFormed runs.sound copyRuns.sound
      (here part member) (there other within) partsAlike known copyKnown
  · rcases Store.estimateNode_matching wellFormed secondWellFormed stored copied alike with
      ⟨quiet, copyQuiet⟩ | ⟨place, part, other, fault, otherFault, failed, copyFailed, related⟩
    · refine Or.inl ⟨result_of_quiet wellFormed stored unknown verbose quiet,
        result_of_quiet secondWellFormed copied copyUnknown copyVerbose copyQuiet,
        Store.plans_alike along.blank_nodes node copy alike
          fun part member other within partsAlike => ?_⟩
      obtain ⟨ref, said⟩ := runs.known quiet part member
      obtain ⟨copyRef, copySaid⟩ := copyRuns.known copyQuiet other within
      refine ⟨_, _, congrArg (Option.map _) said, congrArg (Option.map _) copySaid, ?_⟩
      exact Store.outputs_matching wellFormed secondWellFormed runs.sound copyRuns.sound
        (here part member) (there other within) partsAlike said copySaid
    · exact Or.inr ⟨place, part, other, fault, otherFault,
        perform_estimate_error stored unknown failed,
        perform_estimate_error copied copyUnknown copyFailed, related⟩

/-- Of two corresponding nodes both can be estimated or neither, and all outputs correspond if they
can. Otherwise both estimations end at parts that correspond and stand at the same place. -/
theorem perform_estimate_alike (wellFormed : first.store.WellFormed)
    (secondWellFormed : second.store.WellFormed)
    (stored : first.store.node? node.ref = some node)
    (copied : second.store.node? copy.ref = some copy)
    (alike : Tree.Alike along.Nodes (first.store.plan node) (second.store.plan copy))
    (verbose copyVerbose : Bool) :
    let step := first.perform (.estimate node.ref verbose)
    let copyStep := second.perform (.estimate copy.ref copyVerbose)
    ((∃ outcome, step.2.result = .ok outcome) ↔ ∃ outcome, copyStep.2.result = .ok outcome) ∧
      ((∃ outcome, step.2.result = .ok outcome) →
        Tree.Alike along.BothOutputs (step.1.store.plan node) (copyStep.1.store.plan copy)) ∧
      ((¬ ∃ outcome, step.2.result = .ok outcome) → ∃ place part other fault otherFault,
        step.2.result = .error (.estimate fault) ∧
        copyStep.2.result = .error (.estimate otherFault) ∧
        Store.StopsFirst first.store (first.store.parts node) place part fault ∧
        Store.StopsFirst second.store (second.store.parts copy) place other otherFault ∧
        Tree.Alike along.Nodes (first.store.plan part) (second.store.plan other) ∧
        along.faults fault otherFault) := by
  obtain ⟨-, ends⟩ := perform_estimate_matching wellFormed secondWellFormed stored copied alike
    verbose copyVerbose
  intro step copyStep
  rcases ends with ⟨succeeds, copySucceeds, both⟩ | ends
  · exact ⟨iff_of_true succeeds copySucceeds, fun _ => both, fun refused => absurd succeeds refused⟩
  · obtain ⟨place, part, other, fault, otherFault, failed, copyFailed, -⟩ := id ends
    have refused : ¬ ∃ outcome, step.2.result = .ok outcome := by
      rintro ⟨outcome, same⟩
      cases failed.symm.trans same
    have copyRefused : ¬ ∃ outcome, copyStep.2.result = .ok outcome := by
      rintro ⟨outcome, same⟩
      cases copyFailed.symm.trans same
    exact ⟨iff_of_false refused copyRefused, fun succeeds => absurd succeeds refused, fun _ => ends⟩

end Selectivity.Session

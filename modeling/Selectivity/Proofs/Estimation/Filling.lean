import Selectivity.Proofs.Estimation.Course
import Selectivity.Proofs.Store.Isolation

/-!
# Estimation step by step

Whatever comes of an estimation, all that it has done to the store is to fill nodes that had no
output, one after the other.
-/

namespace Selectivity.Store

/-- The store was reached from the first one by filling nodes without output. -/
inductive Filled (start : Store) : Store → Prop where
  | start : Filled start start
  | fill {store : Store} {placed : PlacedOperator} {inputs : List Node} (output : Relation)
      (filled : Filled start store)
      (stored : store.node? placed.ref = some (.node placed inputs))
      (unknown : store.output? placed.ref = none) :
      Filled start (store.fill placed.ref output)

variable {start current : Store}

theorem Filled.trans {middle after : Store} (first : Filled start middle)
    (second : Filled middle after) : Filled start after := by
  induction second with
  | start => exact first
  | fill output _ stored unknown induction => exact .fill output induction stored unknown

mutual

theorem Sound.filled_estimateNode {start current : Store} (wellFormed : start.WellFormed)
    (sound : Sound start current) (node : Node) (stored : start.node? node.ref = some node)
    (unknown : current.output? node.ref = none) :
    Filled current (current.estimateNode node).store := by
  cases node with
  | node placed inputs =>
      have fits := wellFormed.nodes placed.ref _ stored
      have runs := sound.estimatePending wellFormed inputs fits.inputs
      have filled := Sound.filled_estimatePending wellFormed sound inputs fits.inputs
      have missing := runs.pending wellFormed stored unknown
      have kept := runs.sound.extension.nodes placed.ref _ stored
      rw [Store.estimateNode]
      split
      · next store computed fault result =>
          rw [result] at filled
          exact filled
      · next store computed result =>
          rw [result] at filled missing kept
          split
          · exact filled
          · exact .fill _ filled kept missing

theorem Sound.filled_estimatePending {start current : Store} (wellFormed : start.WellFormed)
    (sound : Sound start current) (nodes : List Node)
    (stored : ∀ node ∈ nodes, start.node? node.ref = some node) :
    Filled current (current.estimatePending nodes).store := by
  cases nodes with
  | nil => exact .start
  | cons node rest =>
      have others : ∀ other ∈ rest, start.node? other.ref = some other :=
        fun other member => stored other (List.mem_cons_of_mem node member)
      have here := stored node List.mem_cons_self
      rw [Store.estimatePending]
      split
      · exact Sound.filled_estimatePending wellFormed sound rest others
      · next pending =>
          have unknown := Option.not_isSome_iff_eq_none.mp pending
          have first := sound.estimateNode wellFormed node here unknown
          have filled := Sound.filled_estimateNode wellFormed sound node here unknown
          split
          · next store computed fault result =>
              rw [result] at filled
              exact filled
          · next store computed result =>
              rw [result] at first filled
              exact filled.trans (Sound.filled_estimatePending wellFormed first.sound rest others)

end

theorem Filled.separates (filled : Filled start current) (wellFormed : start.WellFormed) :
    Separates start current ∧ current.WellFormed := by
  induction filled with
  | start => exact ⟨.refl start, wellFormed⟩
  | fill output _ stored unknown induction =>
      obtain ⟨separates, wellFormed⟩ := induction
      have step := Separates.fill wellFormed output stored unknown
      exact ⟨separates.trans step wellFormed, wellFormed.fill _ output⟩

theorem WellFormed.separates_estimateNode (wellFormed : start.WellFormed) {node : Node}
    (stored : start.node? node.ref = some node) (unknown : start.output? node.ref = none) :
    Separates start (start.estimateNode node).store := by
  have filled := (Sound.refl wellFormed).filled_estimateNode wellFormed node stored unknown
  exact (filled.separates wellFormed).1

end Selectivity.Store

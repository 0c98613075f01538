import Selectivity.Proofs.Estimation.Course
import Selectivity.Proofs.Statistics.Checks

/-!
# Estimation in the store with checks

An estimation with checks looks before each step whether the step is allowed: whether the node has
no output yet, whether its inputs have theirs, whether the counts are accepted and the divisors
not zero, and whether the output is still unknown when it is said. In a well-formed store all of
this is always the case, so that the checks change nothing.
-/

namespace Selectivity.Store

/-- How an estimation with checks went. -/
structure CheckedEstimation where
  store : Store
  computed : List Computed
  fault : Option CheckFault

/-- The estimation with further estimates in front of its own. -/
def CheckedEstimation.after (estimation : CheckedEstimation) (computed : List Computed) :
    CheckedEstimation :=
  { estimation with computed := computed ++ estimation.computed }

/-- What the inputs of a node put out, with a look whether that is known. -/
def checkedInputs (store : Store) (inputs : List Node) : Except CheckFault (List Relation) :=
  inputs.mapM fun input =>
    match store.outputRelation? input.ref with
    | some output => .ok output
    | none => .error (.outputMissing input.caption)

/-- What an operator puts out, with all checks. -/
def checkedOperator (store : Store) (operator : Operator RelationRef) (inputs : List Node) :
    Except CheckFault Relation := do
  let outputs ← store.checkedInputs inputs
  Checked.output (operator.mapBase store.relation) outputs

/-- Says what a node puts out, unless that is known. -/
def checkedFill (store : Store) (placed : PlacedOperator) (output : Relation) :
    Except CheckFault Store :=
  if (store.output? placed.ref).isSome then .error (.outputKnown placed.operator.caption)
  else .ok (store.fill placed.ref output)

mutual

/-- Estimates a node with all checks. -/
def checkedNode (store : Store) : Node → CheckedEstimation
  | .node placed inputs =>
      if (store.output? placed.ref).isSome then
        ⟨store, [], some (.alreadyEstimated placed.operator.caption)⟩
      else
        match checkedPending store inputs with
        | ⟨store, computed, some fault⟩ => ⟨store, computed, some fault⟩
        | ⟨store, computed, none⟩ =>
            match store.checkedOperator placed.operator inputs with
            | .error fault => ⟨store, computed, some fault⟩
            | .ok output =>
                match store.checkedFill placed output with
                | .error fault => ⟨store, computed ++ [⟨placed, output⟩], some fault⟩
                | .ok filled => ⟨filled, computed ++ [⟨placed, output⟩], none⟩

/-- Estimates those of several nodes whose output is not known, with all checks. -/
def checkedPending (store : Store) : List Node → CheckedEstimation
  | [] => ⟨store, [], none⟩
  | node :: rest =>
      if (store.output? node.ref).isSome then checkedPending store rest
      else
        match checkedNode store node with
        | ⟨store, computed, some fault⟩ => ⟨store, computed, some fault⟩
        | ⟨store, computed, none⟩ => (checkedPending store rest).after computed

end

end Store

/-- An estimation, seen as one in which no check failed. -/
def Estimation.checked (estimation : Estimation) : Store.CheckedEstimation :=
  ⟨estimation.store, estimation.computed, estimation.fault.map .estimate⟩

namespace Store

theorem checkedInputs_of_known {store : Store} {inputs : List Node}
    (known : ∀ input ∈ inputs, store.Knows input) :
    store.checkedInputs inputs =
      .ok (inputs.filterMap fun input => store.outputRelation? input.ref) := by
  induction inputs with
  | nil => rfl
  | cons input rest induction =>
      obtain ⟨output, said⟩ := known input List.mem_cons_self
      have reads : store.outputRelation? input.ref = some (store.relation output) :=
        congrArg (Option.map store.relation) said
      have others := induction fun other member => known other (List.mem_cons_of_mem input member)
      rw [checkedInputs] at others
      simp only [checkedInputs, List.mapM_cons, List.filterMap_cons, reads, others]
      rfl

theorem checkedOperator_of_known {store : Store} {inputs : List Node}
    (operator : Operator RelationRef) (known : ∀ input ∈ inputs, store.Knows input) :
    store.checkedOperator operator inputs =
      (store.estimateOperator operator inputs).mapError .estimate := by
  rw [checkedOperator, checkedInputs_of_known known]
  exact Checked.output_eq _ _

theorem checkedFill_of_pending {store : Store} {placed : PlacedOperator} (output : Relation)
    (unknown : store.output? placed.ref = none) :
    store.checkedFill placed output = .ok (store.fill placed.ref output) := by
  rw [checkedFill, unknown]
  rfl

mutual

theorem Sound.checkedNode_eq {start current : Store} (wellFormed : start.WellFormed)
    (sound : Sound start current) (node : Node) (stored : start.node? node.ref = some node)
    (unknown : current.output? node.ref = none) :
    current.checkedNode node = (current.estimateNode node).checked := by
  cases node with
  | node placed inputs =>
      have fits := wellFormed.nodes placed.ref _ stored
      have free : current.output? placed.ref = none := unknown
      have runs := sound.estimatePending wellFormed inputs fits.inputs
      have pending := Sound.checkedPending_eq wellFormed sound inputs fits.inputs
      rw [checkedNode, free, pending, Store.estimateNode]
      cases estimation : current.estimatePending inputs with
      | mk store computed fault =>
          rw [estimation] at runs
          cases fault with
          | some fault => rfl
          | none =>
              have known : ∀ input ∈ inputs, store.Knows input := runs.ready rfl
              have still : store.output? placed.ref = none := runs.pending wellFormed stored free
              have operator := checkedOperator_of_known placed.operator known
              simp only [Estimation.checked, Option.map_none, operator]
              cases store.estimateOperator placed.operator inputs with
              | error fault => rfl
              | ok output => simp [mapError_ok, checkedFill_of_pending output still]

theorem Sound.checkedPending_eq {start current : Store} (wellFormed : start.WellFormed)
    (sound : Sound start current) (nodes : List Node)
    (stored : ∀ node ∈ nodes, start.node? node.ref = some node) :
    current.checkedPending nodes = (current.estimatePending nodes).checked := by
  cases nodes with
  | nil => rfl
  | cons node rest =>
      have others : ∀ other ∈ rest, start.node? other.ref = some other :=
        fun other member => stored other (List.mem_cons_of_mem node member)
      have here := stored node List.mem_cons_self
      rw [checkedPending, Store.estimatePending]
      split
      · exact Sound.checkedPending_eq wellFormed sound rest others
      · next pending =>
          have unknown := Option.not_isSome_iff_eq_none.mp pending
          have runs := sound.estimateNode wellFormed node here unknown
          rw [Sound.checkedNode_eq wellFormed sound node here unknown]
          cases estimation : current.estimateNode node with
          | mk store computed fault =>
              rw [estimation] at runs
              cases fault with
              | some fault => rfl
              | none =>
                  have later := Sound.checkedPending_eq wellFormed runs.sound rest others
                  simp only [Estimation.checked, Option.map_none, later]
                  rfl

end

/-- The estimation of a node of a well-formed store is the same with checks and without. -/
theorem WellFormed.checkedNode_eq {store : Store} (wellFormed : store.WellFormed) {node : Node}
    (stored : store.node? node.ref = some node) (unknown : store.output? node.ref = none) :
    store.checkedNode node = (store.estimateNode node).checked :=
  (Sound.refl wellFormed).checkedNode_eq wellFormed node stored unknown

end Selectivity.Store

import Selectivity.Plan.Estimate
import Selectivity.Store.Basic

/-!
# Estimation in the store

To estimate a node means to say what it puts out. Its inputs come first, from left to right, and
those whose output is known are left alone; a node that is used several times is estimated once.
What was said before a fault stays.
-/

namespace Selectivity

/-- An estimate that was made. -/
structure Computed where
  placed : PlacedOperator
  output : Relation
  deriving DecidableEq, Repr

/-- How an estimation went. -/
structure Estimation where
  store : Store
  computed : List Computed
  fault : Option EstimateFault

/-- The estimation with further estimates in front of its own. -/
def Estimation.after (estimation : Estimation) (computed : List Computed) : Estimation :=
  { estimation with computed := computed ++ estimation.computed }

namespace Store

/-- What an operator puts out, from what the store has for its base and its inputs. -/
def estimateOperator (store : Store) (operator : Operator RelationRef) (inputs : List Node) :
    Except EstimateFault Relation :=
  (operator.mapBase store.relation).output
    (inputs.filterMap fun input => store.outputRelation? input.ref)

mutual

/-- Estimates a node whose output is not known. -/
def estimateNode (store : Store) : Node → Estimation
  | .node placed inputs =>
      match estimatePending store inputs with
      | ⟨store, computed, some fault⟩ => ⟨store, computed, some fault⟩
      | ⟨store, computed, none⟩ =>
          match store.estimateOperator placed.operator inputs with
          | .error fault => ⟨store, computed, some fault⟩
          | .ok output =>
              ⟨store.fill placed.ref output, computed ++ [⟨placed, output⟩], none⟩

/-- Estimates those of several nodes whose output is not known. -/
def estimatePending (store : Store) : List Node → Estimation
  | [] => ⟨store, [], none⟩
  | node :: rest =>
      if (store.output? node.ref).isSome then estimatePending store rest
      else
        match estimateNode store node with
        | ⟨store, computed, some fault⟩ => ⟨store, computed, some fault⟩
        | ⟨store, computed, none⟩ => (estimatePending store rest).after computed

end

end Store

end Selectivity

import Selectivity.Proofs.Estimation.Correspondence
import Selectivity.Proofs.Statistics.Selections

/-!
# The sides of a comparison

An operator that compares two attributes puts out the same with the sides of its comparison
exchanged: the larger of two counts and the smaller one do not depend on their order, and a join
that finds its names across its inputs finds them crossed instead. If attributes are missing, then
they are told in the other order.
-/

namespace Selectivity

def Comparison.swap (condition : Comparison) : Comparison :=
  ⟨condition.right, condition.left⟩

/-- The second operator is the first one, perhaps with the sides of its comparison exchanged. -/
inductive Operator.Turned : Operator Relation → Operator Relation → Prop where
  | same (operator : Operator Relation) : Turned operator operator
  | select (condition : Comparison) : Turned condition.selection condition.swap.selection
  | join (condition : Comparison) : Turned (.join condition) (.join condition.swap)

/-- The second fault is the first one, perhaps with its attributes in the other order. -/
inductive EstimateFault.Turned : EstimateFault → EstimateFault → Prop where
  | same (fault : EstimateFault) : Turned fault fault
  | swapped (attributes schemas : List String) :
      Turned (.missingAttribute ⟨attributes, schemas⟩)
        (.missingAttribute ⟨attributes.reverse, schemas⟩)

variable {condition : Comparison} {operator mirrored : Operator Relation}

theorem Recounts.swap {count : Nat} {before after : List Attribute} {first second : Label}
    (recounts : Recounts [first, second] count before after) :
    Recounts [second, first] count before after := by
  refine recounts.trans (List.map_congr_left fun column _ => ?_)
  have listed : column.name ∈ [first, second] ↔ column.name ∈ [second, first] :=
    (List.Perm.swap second first []).mem_iff
  simp only [listed]

theorem Equates.swap {tupleCount : Nat} {attributes : List Attribute}
    {first second : Attribute} {output : Relation}
    (equates : Equates condition tupleCount attributes first second output) :
    Equates condition.swap tupleCount attributes second first output := by
  refine ⟨?_, ?_⟩
  · rw [equates.tupleCount, Nat.max_comm]
  · rw [Nat.min_comm]
    exact equates.attributes.swap

/-- What a rule allows it allows with the sides of the comparison exchanged. -/
theorem Estimates.turned {inputs : List Relation} {output : Relation}
    (estimates : Estimates operator inputs output) (turns : operator.Turned mirrored) :
    Estimates mirrored inputs output := by
  cases turns with
  | same => exact estimates
  | select condition =>
      cases estimates with
      | selectEqual left right equates => exact .selectEqual right left equates.swap
  | join condition =>
      cases estimates with
      | joinWithin here there equates => exact .joinWithin there here equates.swap
      | joinAcross here missing there equates => exact .joinCrossed here missing there equates.swap
      | joinCrossed here missing there equates => exact .joinAcross here missing there equates.swap

/-- Attributes that are missing are missing with the sides of the comparison exchanged. -/
theorem Misses.turned {inputs : List Relation} {attributes : List String}
    (misses : Misses operator inputs attributes) (turns : operator.Turned mirrored) :
    ∃ others, Misses mirrored inputs others ∧ (others = attributes ∨ others = attributes.reverse) := by
  cases turns with
  | same => exact ⟨attributes, misses, Or.inl rfl⟩
  | select condition =>
      cases misses with
      | selectEqual lacks => exact ⟨_, .selectEqual lacks.symm, Or.inr rfl⟩
  | join condition =>
      cases misses with
      | join within across crossed => exact ⟨_, .join within.symm crossed across, Or.inr rfl⟩

/-- Attributes are missing in the same relations in either order, whether these can be told or
not. -/
theorem EstimateFault.turned_missing {attributes others : List String} (searched : List Relation)
    (ordered : others = attributes ∨ others = attributes.reverse) :
    EstimateFault.Turned (.missing attributes searched) (.missing others searched) := by
  rcases ordered with rfl | rfl
  · exact .same _
  · rw [missing_eq, missing_eq]
    split
    · exact .swapped attributes _
    · exact .same _

theorem Operator.Turned.hasCondition_eq (turns : operator.Turned mirrored) :
    operator.hasCondition = mirrored.hasCondition := by
  cases turns <;> rfl

theorem Operator.Turned.hasRule (turns : operator.Turned mirrored)
    (rule : operator.hasRule = true) : mirrored.hasRule = true := by
  cases turns with
  | same => exact rule
  | select condition => rfl
  | join condition => rfl

theorem Operator.Turned.estimate_of_rule (turns : operator.Turned mirrored) {inputs : List Relation}
    (rule : operator.hasRule = true) (arity : operator.accepts inputs.length = true) :
    Matching EstimateFault.Turned Eq (operator.estimate inputs) (mirrored.estimate inputs) := by
  rcases Operator.estimate_cases rule arity with
    ⟨output, estimates, told⟩ | ⟨attributes, misses, told⟩
  · rw [told, Operator.estimate_of_estimates (estimates.turned turns)]
    exact .given rfl
  · obtain ⟨others, also, ordered⟩ := misses.turned turns
    rw [told, also.estimate_eq]
    exact .refused (EstimateFault.turned_missing inputs ordered)

/-- Whatever its inputs are, an operator comes to the same with the sides of its comparison
exchanged. -/
theorem Operator.Turned.estimate (turns : operator.Turned mirrored) (inputs : List Relation) :
    Matching EstimateFault.Turned Eq (operator.estimate inputs) (mirrored.estimate inputs) := by
  cases turns with
  | same =>
      cases operator.estimate inputs with
      | error fault => exact .refused (.same fault)
      | ok output => exact .given rfl
  | select condition =>
      match inputs with
      | [input] => exact (Turned.select condition).estimate_of_rule rfl rfl
      | [] => exact .refused (.same _)
      | _ :: _ :: _ => exact .refused (.same _)
  | join condition =>
      match inputs with
      | [left, right] => exact (Turned.join condition).estimate_of_rule rfl rfl
      | [] => exact .refused (.same _)
      | [_] => exact .refused (.same _)
      | _ :: _ :: _ :: _ => exact .refused (.same _)

/-- Plans that are the same but for the sides of some comparisons. -/
def orientation : Correspondence where
  operators := Operator.Turned
  relations := Eq
  faults := EstimateFault.Turned
  conditions := fun _ _ turns => turns.hasCondition_eq
  names := fun _ _ same => congrArg Relation.hasCompoundName same
  counts := fun _ _ same => congrArg Relation.isWritable same
  compoundName := .same _
  unwritable := .same _
  rules := by
    intro operator mirrored inputs others turns outputs
    rw [List.forall₂_eq_eq_eq] at outputs
    rw [← outputs]
    exact turns.estimate inputs

end Selectivity

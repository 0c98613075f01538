import Selectivity.Proofs.Statistics.Joins

/-!
# Joins are selections

Where a join finds its two names decides what it is. If its left input has both, the join is the
selection from that input, and if it has one of them and the right input has the other one, the join
is the selection from the product of both inputs. In all other cases attributes are missing, even if
the right input has both.
-/

namespace Selectivity

variable {condition : Comparison} {left right : Relation}

theorem Comparison.Within.estimates (within : condition.Within left) (right : Relation) :
    ∃ output, Estimates (.join condition) [left, right] output ∧
      Estimates condition.selection [left] output := by
  rcases join_cases left right condition with ⟨output, joins, -⟩ | ⟨missing, misses, -⟩
  · rcases joins.join_cases with degenerate | proper
    · exact ⟨output, joins, degenerate.selects⟩
    · exact absurd within proper.crosses.not_within
  · cases misses with
    | join lacks _ _ => exact absurd lacks (not_or.mpr within)

/-- A join across its inputs puts out what the selection from their product does. -/
theorem Comparison.Crosses.estimates (crosses : condition.Crosses left right) :
    ∃ output, Estimates (.join condition) [left, right] output ∧
      Estimates condition.selection [Relation.product [left, right]] output := by
  rcases join_cases left right condition with ⟨output, joins, -⟩ | ⟨missing, misses, -⟩
  · rcases joins.join_cases with degenerate | proper
    · exact absurd degenerate.within crosses.not_within
    · exact ⟨output, joins, proper.selects⟩
  · cases misses with
    | join _ across crossed =>
        rcases crosses with ⟨here, -, there⟩ | ⟨here, -, there⟩
        · exact absurd across (not_or.mpr ⟨here, there⟩)
        · exact absurd crossed (not_or.mpr ⟨here, there⟩)

/-- A join that is neither within its left input nor across its inputs misses its attributes. -/
theorem misses_of_apart (apart : ¬ condition.Within left)
    (aside : ¬ condition.Crosses left right) :
    Misses (.join condition) [left, right] [condition.left, condition.right] := by
  rcases join_cases left right condition with ⟨output, joins, -⟩ | ⟨missing, misses, -⟩
  · rcases joins.join_cases with degenerate | proper
    · exact absurd degenerate.within apart
    · exact absurd proper.crosses aside
  · cases misses with
    | join within across crossed => exact .join within across crossed

theorem Misses.unique {operator : Operator Relation} {inputs : List Relation}
    {attributes others : List String} (first : Misses operator inputs attributes)
    (second : Misses operator inputs others) : attributes = others := by
  cases first <;> cases second <;> rfl

theorem Misses.estimate_eq {operator : Operator Relation} {inputs : List Relation}
    {attributes : List String} (misses : Misses operator inputs attributes) :
    operator.estimate inputs = .error (.missing attributes inputs) := by
  have rule : operator.hasRule = true := by cases misses <;> rfl
  have arity : operator.accepts inputs.length = true := by cases misses <;> rfl
  rcases Operator.estimate_cases rule arity with ⟨output, estimates, -⟩ | ⟨other, also, told⟩
  · exact absurd estimates misses.not_estimates
  · rw [told, also.unique misses]

/-- Operators that have a condition both or neither put out the same, if their rules do. -/
theorem Estimates.output_eq {operator other : Operator Relation} {inputs others : List Relation}
    {output : Relation} (first : Estimates operator inputs output)
    (second : Estimates other others output)
    (conditions : operator.hasCondition = other.hasCondition) :
    operator.output inputs = other.output others := by
  rw [Operator.output, Operator.output, Operator.estimate_of_estimates first,
    Operator.estimate_of_estimates second, conditions]

theorem Comparison.Within.output_eq (within : condition.Within left) :
    (Operator.join condition).output [left, right] = condition.selection.output [left] := by
  obtain ⟨output, joins, selects⟩ := within.estimates right
  exact joins.output_eq selects rfl

theorem Comparison.Crosses.output_eq (crosses : condition.Crosses left right) :
    (Operator.join condition).output [left, right] =
      condition.selection.output [Relation.product [left, right]] := by
  obtain ⟨output, joins, selects⟩ := crosses.estimates
  exact joins.output_eq selects rfl

theorem Misses.output_eq {operator : Operator Relation} {inputs : List Relation}
    {attributes : List String} (misses : Misses operator inputs attributes) :
    operator.output inputs = .error (.missing attributes inputs) := by
  rw [Operator.output, misses.estimate_eq]

end Selectivity

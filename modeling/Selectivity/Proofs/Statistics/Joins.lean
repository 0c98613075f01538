import Selectivity.Proofs.Statistics.Rules

/-!
# Several joins with one relation

A join either selects from its left input or brings in the right one, with all of its attributes.
Once these are there, every further join with the same relation finds both of its names on the
left. So of several joins, one on top of the other, at most one brings the relation in.
-/

namespace Selectivity

/-- The left relation has attributes of both names. -/
def Comparison.Within (condition : Comparison) (left : Relation) : Prop :=
  ¬ left.Lacks condition.left ∧ ¬ left.Lacks condition.right

/-- The left relation has one of the names and lacks the other one, which the right one has. -/
def Comparison.Crosses (condition : Comparison) (left right : Relation) : Prop :=
  (¬ left.Lacks condition.left ∧ left.Lacks condition.right ∧ ¬ right.Lacks condition.right) ∨
    (¬ left.Lacks condition.right ∧ left.Lacks condition.left ∧ ¬ right.Lacks condition.left)

/-- A selection by the equality of two attributes. -/
def Comparison.selection {Base : Type} (condition : Comparison) : Operator Base :=
  .select (some (.equalsAttribute condition))

/-- An operator with a condition, with what its first input and the operator itself put out. -/
structure Step where
  condition : Comparison
  input : Relation
  output : Relation

/-- Operators on top of each other, from the output at the bottom to the one at the top. Each has
the one below it as its first input, and all have the same further inputs. -/
inductive Steps (operator : Comparison → Operator Relation) (others : List Relation)
    (bottom : Relation) : List Step → Relation → Prop where
  | start : Steps operator others bottom [] bottom
  | step {middle output : Relation} {steps : List Step} (condition : Comparison)
      (below : Steps operator others bottom steps middle)
      (estimates : Estimates (operator condition) (middle :: others) output) :
      Steps operator others bottom (steps ++ [⟨condition, middle, output⟩]) output

namespace Step

/-- The join is a selection from its left input, whatever the right one is. -/
structure Degenerate (step : Step) : Prop where
  within : step.condition.Within step.input
  selects : Estimates step.condition.selection [step.input] step.output
  indifferent : ∀ right, Estimates (.join step.condition) [step.input, right] step.output
  names : step.output.attributeNames = step.input.attributeNames
  tupleCount_le : step.output.tupleCount ≤ step.input.tupleCount

/-- The join brings in the right relation: it multiplies the tuples and appends the attributes,
which is what a selection from the product does. -/
structure Proper (right : Relation) (step : Step) : Prop where
  crosses : step.condition.Crosses step.input right
  equates : ∃ first second, Equates step.condition (step.input.tupleCount * right.tupleCount)
    (step.input.attributes ++ right.attributes) first second step.output
  selects : Estimates step.condition.selection [Relation.product [step.input, right]] step.output
  names : step.output.attributeNames = step.input.attributeNames ++ right.attributeNames
  tupleCount_le : step.output.tupleCount ≤ step.input.tupleCount * right.tupleCount

end Step

/-- The right relation is brought in at most once: all joins are selections from their left input,
or all but one. -/
def CountsOnce (right : Relation) (steps : List Step) : Prop :=
  (∀ step ∈ steps, step.Degenerate) ∨
    ∃ before step after, steps = before ++ step :: after ∧
      (∀ other ∈ before ++ after, other.Degenerate) ∧ step.Proper right

variable {left right output : Relation} {condition : Comparison}

theorem Relation.lacks_iff {relation : Relation} {name : Label} :
    relation.Lacks name ↔ name ∉ relation.attributeNames := by
  rw [Lacks, attributeNames, List.mem_map]
  constructor
  · rintro lacks ⟨column, member, same⟩
    exact lacks column member same
  · intro absent column member same
    exact absent ⟨column, member, same⟩

theorem Recounts.names_eq {names : List Label} {count : Nat} {before after : List Attribute}
    (recounts : Recounts names count before after) :
    after.map Attribute.name = before.map Attribute.name := by
  have same := congrArg (List.map Prod.fst) recounts
  rw [List.map_map, List.map_map] at same
  exact same

theorem Comparison.Crosses.not_within (crosses : condition.Crosses left right) :
    ¬ condition.Within left := by
  rintro ⟨here, there⟩
  rcases crosses with ⟨-, missing, -⟩ | ⟨-, missing, -⟩
  · exact there missing
  · exact here missing

theorem Comparison.Crosses.not_covered (crosses : condition.Crosses left right) :
    ¬ ∀ name ∈ right.attributeNames, name ∈ left.attributeNames := by
  intro covered
  rcases crosses with ⟨-, missing, there⟩ | ⟨-, missing, there⟩
  · apply there
    rw [Relation.lacks_iff] at missing ⊢
    exact fun member => missing (covered _ member)
  · apply there
    rw [Relation.lacks_iff] at missing ⊢
    exact fun member => missing (covered _ member)

theorem leads_product_left {name : Label} {column : Attribute} (leads : left.Leads name column) :
    (Relation.product [left, right]).Leads name column := by
  obtain ⟨named, before, after, split, others⟩ := leads
  refine ⟨named, before, after ++ right.attributes, ?_, others⟩
  simp [Relation.product, split]

/-- An attribute that leads on the right leads in the product if the left side lacks its name. -/
theorem leads_product_right {name : Label} {column : Attribute} (lacks : left.Lacks name)
    (leads : right.Leads name column) : (Relation.product [left, right]).Leads name column := by
  obtain ⟨named, before, after, split, others⟩ := leads
  refine ⟨named, left.attributes ++ before, after, ?_, ?_⟩
  · simp [Relation.product, split]
  · intro other member
    rcases List.mem_append.mp member with early | late
    · exact lacks other early
    · exact others other late

theorem product_pair (left right : Relation) :
    (Relation.product [left, right]).tupleCount = left.tupleCount * right.tupleCount ∧
      (Relation.product [left, right]).attributes = left.attributes ++ right.attributes := by
  simp [Relation.product]

theorem Equates.degenerate {first second : Attribute} (here : left.Leads condition.left first)
    (there : left.Leads condition.right second)
    (equates : Equates condition left.tupleCount left.attributes first second output) :
    Step.Degenerate ⟨condition, left, output⟩ where
  within := ⟨here.not_lacks, there.not_lacks⟩
  selects := .selectEqual here there equates
  indifferent := fun _ => .joinWithin here there equates
  names := equates.attributes.names_eq
  tupleCount_le := by
    rw [equates.tupleCount]
    exact Nat.div_le_self _ _

theorem Equates.proper {first second : Attribute} (crosses : condition.Crosses left right)
    (here : (Relation.product [left, right]).Leads condition.left first)
    (there : (Relation.product [left, right]).Leads condition.right second)
    (equates : Equates condition (left.tupleCount * right.tupleCount)
      (left.attributes ++ right.attributes) first second output) :
    Step.Proper right ⟨condition, left, output⟩ where
  crosses := crosses
  equates := ⟨first, second, equates⟩
  selects := by
    obtain ⟨size, attributes⟩ := product_pair left right
    apply Estimates.selectEqual here there
    rw [size, attributes]
    exact equates
  names := equates.attributes.names_eq.trans List.map_append
  tupleCount_le := by
    rw [equates.tupleCount]
    exact Nat.div_le_self _ _

theorem Estimates.join_cases (estimates : Estimates (.join condition) [left, right] output) :
    Step.Degenerate ⟨condition, left, output⟩ ∨ Step.Proper right ⟨condition, left, output⟩ := by
  cases estimates with
  | joinWithin here there equates => exact Or.inl (equates.degenerate here there)
  | joinAcross here missing there equates =>
      right
      apply equates.proper
      · exact Or.inl ⟨here.not_lacks, missing, there.not_lacks⟩
      · exact leads_product_left here
      · exact leads_product_right missing there
  | joinCrossed here missing there equates =>
      right
      apply equates.proper
      · exact Or.inr ⟨here.not_lacks, missing, there.not_lacks⟩
      · exact leads_product_right missing there
      · exact leads_product_left here

namespace Steps

variable {steps : List Step} {last : Relation}

/-- What a single join keeps holds of several: one property until the right relation is brought in,
and another one afterwards. No join brings it in when it is there, because all of its names are. -/
theorem join_invariant (Apart Joined : List Step → Relation → Prop) (start : Apart [] left)
    (select : ∀ steps step, step.Degenerate → Apart steps step.input →
      Apart (steps ++ [step]) step.output)
    (bring : ∀ steps step, step.Proper right → Apart steps step.input →
      Joined (steps ++ [step]) step.output)
    (keep : ∀ steps step, step.Degenerate → Joined steps step.input →
      Joined (steps ++ [step]) step.output)
    (joins : Steps .join [right] left steps last) :
    Apart steps last ∨
      Joined steps last ∧ ∀ name ∈ right.attributeNames, name ∈ last.attributeNames := by
  induction joins with
  | start => exact Or.inl start
  | @step middle output steps condition below estimates induction =>
      rcases estimates.join_cases with degenerate | proper
      · rcases induction with apart | ⟨joined, covered⟩
        · exact Or.inl (select steps _ degenerate apart)
        · refine Or.inr ⟨keep steps _ degenerate joined, ?_⟩
          intro name member
          rw [degenerate.names]
          exact covered name member
      · rcases induction with apart | ⟨-, covered⟩
        · refine Or.inr ⟨bring steps _ proper apart, ?_⟩
          intro name member
          rw [proper.names]
          exact List.mem_append_right _ member
        · exact absurd covered proper.crosses.not_covered

theorem forall_mem_concat {Good : Step → Prop} {step : Step} (all : ∀ other ∈ steps, Good other)
    (last : Good step) : ∀ other ∈ steps ++ [step], Good other := by
  intro other member
  rcases List.mem_append.mp member with early | late
  · exact all other early
  · rw [List.mem_singleton.mp late]
    exact last

theorem countsOnce (joins : Steps .join [right] left steps last) : CountsOnce right steps := by
  have phases := join_invariant (fun steps _ => ∀ step ∈ steps, step.Degenerate)
    (fun steps _ => ∃ before step after, steps = before ++ step :: after ∧
      (∀ other ∈ before ++ after, other.Degenerate) ∧ step.Proper right)
    nofun ?_ ?_ ?_ joins
  · exact phases.imp id And.left
  · exact fun steps step degenerate all => forall_mem_concat all degenerate
  · intro steps step proper all
    refine ⟨steps, step, [], rfl, ?_, proper⟩
    rw [List.append_nil]
    exact all
  · rintro steps next degenerate ⟨before, step, after, rfl, others, proper⟩
    refine ⟨before, step, after ++ [next], ?_, ?_, proper⟩
    · rw [List.append_assoc, List.cons_append]
    · rw [← List.append_assoc]
      exact forall_mem_concat others degenerate

theorem tupleCount_le (joins : Steps .join [right] left steps last) {limit : Nat}
    (small : left.tupleCount ≤ limit) (some : 0 < right.tupleCount) :
    ∀ step ∈ steps, step.output.tupleCount ≤ limit * right.tupleCount := by
  have raised : limit ≤ limit * right.tupleCount := Nat.le_mul_of_pos_right limit some
  have bounded := join_invariant
    (fun steps last => (∀ step ∈ steps, step.output.tupleCount ≤ limit * right.tupleCount) ∧
      last.tupleCount ≤ limit)
    (fun steps last => (∀ step ∈ steps, step.output.tupleCount ≤ limit * right.tupleCount) ∧
      last.tupleCount ≤ limit * right.tupleCount)
    ⟨nofun, small⟩ ?_ ?_ ?_ joins
  · exact bounded.elim And.left fun joined => joined.1.1
  · intro steps step degenerate ⟨all, low⟩
    have here := Nat.le_trans degenerate.tupleCount_le low
    exact ⟨forall_mem_concat all (Nat.le_trans here raised), here⟩
  · intro steps step proper ⟨all, low⟩
    have here := Nat.le_trans proper.tupleCount_le (Nat.mul_le_mul_right right.tupleCount low)
    exact ⟨forall_mem_concat all here, here⟩
  · intro steps step degenerate ⟨all, high⟩
    have here := Nat.le_trans degenerate.tupleCount_le high
    exact ⟨forall_mem_concat all here, here⟩

/-- Joins that all select from their left input do not depend on the right one. -/
theorem indifferent (joins : Steps .join [right] left steps last)
    (degenerate : ∀ step ∈ steps, step.Degenerate) (other : Relation) :
    Steps .join [other] left steps last := by
  induction joins with
  | start => exact .start
  | @step middle output steps condition below estimates induction =>
      have here : Step.Degenerate ⟨condition, middle, output⟩ :=
        degenerate _ (List.mem_append_right _ List.mem_cons_self)
      have early := induction fun step member => degenerate step (List.mem_append_left _ member)
      exact .step condition early (here.indifferent other)

theorem eq_bottom {operator : Comparison → Operator Relation} {others : List Relation}
    {bottom : Relation} (none : Steps operator others bottom [] last) : last = bottom := by
  generalize empty : ([] : List Step) = steps at none
  cases none with
  | start => rfl
  | step condition below estimates =>
      exact absurd empty.symm (List.append_ne_nil_of_right_ne_nil _ nofun)

/-- If the first join crosses, all joins together are selections from the product. -/
theorem selections (joins : Steps .join [right] left steps last)
    (crosses : ∀ step, steps.head? = some step → step.condition.Crosses left right) :
    steps = [] ∨ (∃ selects : List Step,
      Steps Comparison.selection [] (Relation.product [left, right]) selects last ∧
        selects.map Step.condition = steps.map Step.condition ∧
        selects.map Step.output = steps.map Step.output) ∧
      ∀ name ∈ right.attributeNames, name ∈ last.attributeNames := by
  induction joins with
  | start => exact Or.inl rfl
  | @step middle output steps condition below estimates induction =>
      right
      cases steps with
      | nil =>
          cases below.eq_bottom
          have first : condition.Crosses left right := crosses ⟨condition, left, output⟩ rfl
          have proper : Step.Proper right ⟨condition, left, output⟩ :=
            estimates.join_cases.resolve_left fun degenerate =>
              first.not_within degenerate.within
          refine ⟨⟨[⟨condition, Relation.product [left, right], output⟩], ?_, rfl, rfl⟩, ?_⟩
          · exact .step condition .start proper.selects
          · intro name member
            rw [proper.names]
            exact List.mem_append_right _ member
      | cons head rest =>
          -- the relation is there already, so that this join only selects
          have early := induction fun step found => crosses step found
          obtain ⟨⟨selects, run, conditions, outputs⟩, covered⟩ :=
            early.resolve_left (List.cons_ne_nil head rest)
          have degenerate : Step.Degenerate ⟨condition, middle, output⟩ :=
            estimates.join_cases.resolve_right fun proper => proper.crosses.not_covered covered
          refine ⟨⟨selects ++ [⟨condition, middle, output⟩], ?_, ?_, ?_⟩, ?_⟩
          · exact .step condition run degenerate.selects
          · rw [List.map_append, List.map_append, conditions]
          · rw [List.map_append, List.map_append, outputs]
          · intro name member
            rw [degenerate.names]
            exact covered name member

end Steps

end Selectivity

import Selectivity.Plan.Estimate

/-!
# The rules of estimation

What each operator puts out, told from the attributes of its inputs as lists: the first attribute of
a name gives its count, and every attribute of a name is rewritten. The estimate of an operator is
exactly what its rule allows, and it misses attributes exactly if no rule applies.
-/

namespace Selectivity

namespace Relation

/-- The attribute is the first one of the name. -/
structure Leads (relation : Relation) (name : Label) (column : Attribute) : Prop where
  named : column.name = name
  first : ∃ before after, relation.attributes = before ++ column :: after ∧
    ∀ other ∈ before, other.name ≠ name

def Lacks (relation : Relation) (name : Label) : Prop :=
  ∀ column ∈ relation.attributes, column.name ≠ name

theorem lookup?_eq_some_iff {relation : Relation} {name : Label} {column : Attribute} :
    relation.lookup? name = some column ↔ relation.Leads name column := by
  rw [lookup?, List.find?_eq_some_iff_append]
  constructor
  · rintro ⟨named, before, after, split, others⟩
    refine ⟨eq_of_beq named, before, after, split, fun other member same => ?_⟩
    have different := others other member
    rw [same, beq_self_eq_true] at different
    cases different
  · rintro ⟨named, before, after, split, others⟩
    refine ⟨beq_iff_eq.mpr named, before, after, split, fun other member => ?_⟩
    rw [Bool.not_eq_true', beq_eq_false_iff_ne]
    exact others other member

theorem lookup?_eq_none_iff {relation : Relation} {name : Label} :
    relation.lookup? name = none ↔ relation.Lacks name := by
  rw [lookup?, List.find?_eq_none, Lacks]
  simp only [beq_iff_eq, ne_eq]

theorem lacks_or_leads (relation : Relation) (name : Label) :
    relation.Lacks name ∨ ∃ column, relation.Leads name column := by
  cases found : relation.lookup? name with
  | none => exact Or.inl (lookup?_eq_none_iff.mp found)
  | some column => exact Or.inr ⟨column, lookup?_eq_some_iff.mp found⟩

theorem Leads.not_lacks {relation : Relation} {name : Label} {column : Attribute}
    (leads : relation.Leads name column) : ¬ relation.Lacks name := by
  intro lacks
  rw [← lookup?_eq_none_iff, lookup?_eq_some_iff.mpr leads] at lacks
  cases lacks

end Relation

/-- The second attributes are the first ones with every one of the names at one count. -/
def Recounts (names : List Label) (count : Nat) (before after : List Attribute) : Prop :=
  after.map (fun column => (column.name, column.valueCount)) =
    before.map fun column =>
      (column.name, if column.name ∈ names then count else column.valueCount)

theorem overwriteCounts_recounts (names : List Label) (count : Nat) (positive : 0 < count)
    (columns : List Attribute) :
    Recounts names count columns (overwriteCounts names count positive columns) := by
  rw [Recounts, overwriteCounts, List.map_map]
  apply List.map_congr_left
  intro column _
  by_cases listed : column.name ∈ names
  · simp [listed, Attribute.withValueCount]
  · simp [listed]

theorem Attribute.eq_of_name_count {first second : Attribute}
    (same : (first.name, first.valueCount) = (second.name, second.valueCount)) :
    first = second := by
  cases first
  cases second
  cases same
  rfl

theorem Recounts.unique {names : List Label} {count : Nat} {before first second : List Attribute}
    (left : Recounts names count before first) (right : Recounts names count before second) :
    first = second := by
  have same := left.trans right.symm
  exact (List.map_inj_right fun _ _ => Attribute.eq_of_name_count).mp same

/-- The output of a comparison of two attributes: the larger count divides the tuples, and the
smaller one is left in every attribute of the two names. -/
structure Equates (condition : Comparison) (tupleCount : Nat) (attributes : List Attribute)
    (first second : Attribute) (output : Relation) : Prop where
  tupleCount : output.tupleCount = tupleCount / max first.valueCount second.valueCount
  attributes : Recounts [condition.left, condition.right]
    (min first.valueCount second.valueCount) attributes output.attributes

/-- The rules: what an operator puts out over inputs that put out the given relations. -/
inductive Estimates : Operator Relation → List Relation → Relation → Prop where
  | scan (name : String) (base : Relation) : Estimates (.scan name base) [] base
  | project {kept : List String} {input output : Relation}
      (tupleCount : output.tupleCount = input.tupleCount)
      (attributes : output.attributes = kept.flatMap fun (name : String) =>
        input.attributes.filter fun column => decide (column.name = (name : Label))) :
      Estimates (.project kept) [input] output
  | selectValue {column value : String} {found : Attribute} {input output : Relation}
      (leads : input.Leads column found)
      (tupleCount : output.tupleCount = input.tupleCount / found.valueCount)
      (attributes : Recounts [column] 1 input.attributes output.attributes) :
      Estimates (.select (some (.equalsValue column value))) [input] output
  | selectEqual {condition : Comparison} {first second : Attribute} {input output : Relation}
      (left : input.Leads condition.left first) (right : input.Leads condition.right second)
      (equates : Equates condition input.tupleCount input.attributes first second output) :
      Estimates (.select (some (.equalsAttribute condition))) [input] output
  | product {inputs : List Relation} {output : Relation}
      (tupleCount : output.tupleCount = (inputs.map Relation.tupleCount).foldr (· * ·) 1)
      (attributes : output.attributes = inputs.flatMap Relation.attributes) :
      Estimates .product inputs output
  | joinWithin {condition : Comparison} {first second : Attribute}
      {left right output : Relation}
      (here : left.Leads condition.left first) (there : left.Leads condition.right second)
      (equates : Equates condition left.tupleCount left.attributes first second output) :
      Estimates (.join condition) [left, right] output
  | joinAcross {condition : Comparison} {first second : Attribute}
      {left right output : Relation}
      (here : left.Leads condition.left first) (missing : left.Lacks condition.right)
      (there : right.Leads condition.right second)
      (equates : Equates condition (left.tupleCount * right.tupleCount)
        (left.attributes ++ right.attributes) first second output) :
      Estimates (.join condition) [left, right] output
  | joinCrossed {condition : Comparison} {first second : Attribute}
      {left right output : Relation}
      (here : left.Leads condition.right second) (missing : left.Lacks condition.left)
      (there : right.Leads condition.left first)
      (equates : Equates condition (left.tupleCount * right.tupleCount)
        (left.attributes ++ right.attributes) first second output) :
      Estimates (.join condition) [left, right] output

/-- An operator asks for attributes of the given names, and its inputs do not provide them. -/
inductive Misses : Operator Relation → List Relation → List String → Prop where
  | selectValue {column value : String} {input : Relation} (lacks : input.Lacks column) :
      Misses (.select (some (.equalsValue column value))) [input] [column]
  | selectEqual {condition : Comparison} {input : Relation}
      (lacks : input.Lacks condition.left ∨ input.Lacks condition.right) :
      Misses (.select (some (.equalsAttribute condition))) [input]
        [condition.left, condition.right]
  | join {condition : Comparison} {left right : Relation}
      (within : left.Lacks condition.left ∨ left.Lacks condition.right)
      (across : left.Lacks condition.left ∨ right.Lacks condition.right)
      (crossed : left.Lacks condition.right ∨ right.Lacks condition.left) :
      Misses (.join condition) [left, right] [condition.left, condition.right]

/-- The attributes that an operator looks for because its condition names them, in this order. -/
def Operator.sought {Base : Type} : Operator Base → List String
  | .select (some predicate) => predicate.attributes
  | .join condition => [condition.left, condition.right]
  | _ => []

theorem Operator.sought_mapBase {Base Other : Type} (image : Base → Other)
    (operator : Operator Base) : (operator.mapBase image).sought = operator.sought := by
  cases operator with
  | select condition => cases condition <;> rfl
  | _ => rfl

theorem Misses.attributes_eq {operator : Operator Relation} {inputs : List Relation}
    {attributes : List String} (misses : Misses operator inputs attributes) :
    attributes = operator.sought := by
  cases misses <;> rfl

/-- The operators that have a rule: all but foreign ones and selections without a condition. -/
def Operator.hasRule {Base : Type} : Operator Base → Bool
  | .select condition => condition.isSome
  | .foreign _ => false
  | _ => true

@[simp]
theorem Operator.hasRule_mapBase {Base Other : Type} (image : Base → Other)
    (operator : Operator Base) : (operator.mapBase image).hasRule = operator.hasRule := by
  cases operator <;> rfl

theorem equates_overwriteCounts {condition : Comparison} {tupleCount : Nat}
    {attributes : List Attribute} (first second : Attribute) :
    Equates condition tupleCount attributes first second
      ⟨tupleCount / max first.valueCount second.valueCount,
        overwriteCounts [condition.left, condition.right]
          (min first.valueCount second.valueCount)
          (Nat.lt_min.mpr ⟨first.valueCount_pos, second.valueCount_pos⟩) attributes⟩ :=
  ⟨rfl, overwriteCounts_recounts _ _ _ attributes⟩

theorem Equates.unique {condition : Comparison} {tupleCount : Nat} {columns : List Attribute}
    {first second : Attribute} {output other : Relation}
    (left : Equates condition tupleCount columns first second output)
    (right : Equates condition tupleCount columns first second other) : output = other := by
  obtain ⟨count, attributes⟩ := output
  obtain ⟨otherCount, otherAttributes⟩ := other
  cases left.tupleCount.trans right.tupleCount.symm
  cases left.attributes.unique right.attributes
  rfl

/-- A join over attributes of both sides, whatever the order of the two names. -/
theorem equates_joinOn {condition : Comparison} {left right : Relation}
    {first second : Attribute} (here : first.name = condition.left)
    (there : second.name = condition.right) :
    Equates condition (left.tupleCount * right.tupleCount)
      (left.attributes ++ right.attributes) first second (left.joinOn right first second) := by
  obtain ⟨name, count, positive⟩ := first
  obtain ⟨other, otherCount, otherPositive⟩ := second
  cases here
  cases there
  exact equates_overwriteCounts _ _

theorem equates_joinOn_swap {condition : Comparison} {left right : Relation}
    {first second : Attribute} (here : second.name = condition.right)
    (there : first.name = condition.left) :
    Equates condition (left.tupleCount * right.tupleCount)
      (left.attributes ++ right.attributes) first second (left.joinOn right second first) := by
  refine ⟨?_, ?_⟩
  · rw [Relation.joinOn, Nat.max_comm]
  · have recounts := overwriteCounts_recounts [second.name, first.name]
      (min second.valueCount first.valueCount)
      (Nat.lt_min.mpr ⟨second.valueCount_pos, first.valueCount_pos⟩)
      (left.attributes ++ right.attributes)
    refine Eq.trans recounts (List.map_congr_left fun column _ => ?_)
    have swapped : column.name ∈ [second.name, first.name] ↔
        column.name ∈ [(condition.left : Label), (condition.right : Label)] := by
      rw [here, there]
      exact (List.Perm.swap _ _ []).mem_iff
    simp only [swapped, Nat.min_comm]

theorem selectEqual_cases (input : Relation) (condition : Comparison) :
    (∃ first second output, input.Leads condition.left first ∧
        input.Leads condition.right second ∧
        Equates condition input.tupleCount input.attributes first second output ∧
        input.selectEqual condition = .ok output) ∨
      (input.Lacks condition.left ∨ input.Lacks condition.right) ∧
        input.selectEqual condition =
          .error (.missing [condition.left, condition.right] [input]) := by
  rcases input.lacks_or_leads condition.left with lacks | ⟨first, left⟩
  · refine Or.inr ⟨Or.inl lacks, ?_⟩
    simp only [Relation.selectEqual, Relation.lookup?_eq_none_iff.mpr lacks]
  · rcases input.lacks_or_leads condition.right with lacks | ⟨second, right⟩
    · refine Or.inr ⟨Or.inr lacks, ?_⟩
      simp only [Relation.selectEqual, Relation.lookup?_eq_some_iff.mpr left,
        Relation.lookup?_eq_none_iff.mpr lacks]
    · refine Or.inl ⟨first, second, _, left, right, equates_overwriteCounts first second, ?_⟩
      simp only [Relation.selectEqual, Relation.lookup?_eq_some_iff.mpr left,
        Relation.lookup?_eq_some_iff.mpr right]

/-- A join is estimated by the one of its three rules that applies, or misses its attributes. -/
theorem join_cases (left right : Relation) (condition : Comparison) :
    (∃ output, Estimates (.join condition) [left, right] output ∧
        left.join right condition = .ok output) ∨
      ∃ attributes, Misses (.join condition) [left, right] attributes ∧
        left.join right condition = .error (.missing attributes [left, right]) := by
  cases here : left.lookup? condition.left with
  | none =>
      have lacksFirst := Relation.lookup?_eq_none_iff.mp here
      cases there : left.lookup? condition.right with
      | none =>
          have lacksSecond := Relation.lookup?_eq_none_iff.mp there
          refine Or.inr ⟨_, .join (Or.inl lacksFirst) (Or.inl lacksFirst) (Or.inl lacksSecond), ?_⟩
          simp [Relation.join, Relation.contains, here, there]
      | some second =>
          have second_leads := Relation.lookup?_eq_some_iff.mp there
          cases other : right.lookup? condition.left with
          | none =>
              have lacks := Relation.lookup?_eq_none_iff.mp other
              refine Or.inr ⟨_, .join (Or.inl lacksFirst) (Or.inl lacksFirst) (Or.inr lacks), ?_⟩
              simp [Relation.join, Relation.contains, here, there, other]
          | some first =>
              have first_leads := Relation.lookup?_eq_some_iff.mp other
              refine Or.inl ⟨left.joinOn right second first, .joinCrossed second_leads lacksFirst
                first_leads (equates_joinOn_swap second_leads.named first_leads.named), ?_⟩
              simp [Relation.join, Relation.contains, here, there, other]
  | some first =>
      have first_leads := Relation.lookup?_eq_some_iff.mp here
      cases there : left.lookup? condition.right with
      | none =>
          have lacks := Relation.lookup?_eq_none_iff.mp there
          cases other : right.lookup? condition.right with
          | none =>
              have lacksOther := Relation.lookup?_eq_none_iff.mp other
              refine Or.inr ⟨_, .join (Or.inr lacks) (Or.inr lacksOther) (Or.inl lacks), ?_⟩
              simp [Relation.join, Relation.contains, here, there, other]
          | some second =>
              have second_leads := Relation.lookup?_eq_some_iff.mp other
              refine Or.inl ⟨left.joinOn right first second, .joinAcross first_leads lacks
                second_leads (equates_joinOn first_leads.named second_leads.named), ?_⟩
              simp [Relation.join, Relation.contains, here, there, other]
      | some second =>
          have degenerate : left.join right condition = left.selectEqual condition := by
            simp [Relation.join, Relation.contains, here, there]
          rw [degenerate]
          rcases selectEqual_cases left condition with
            ⟨_, _, output, first_leads, second_leads, equates, selected⟩ | ⟨lacks, -⟩
          · exact Or.inl ⟨output, .joinWithin first_leads second_leads equates, selected⟩
          · rcases lacks with lacks | lacks
            · exact absurd lacks (Relation.lookup?_eq_some_iff.mp here).not_lacks
            · exact absurd lacks (Relation.lookup?_eq_some_iff.mp there).not_lacks

theorem selectValue_cases (input : Relation) (column value : String) :
    (∃ output, Estimates (.select (some (.equalsValue column value))) [input] output ∧
        input.selectValue column = .ok output) ∨
      ∃ attributes, Misses (.select (some (.equalsValue column value))) [input] attributes ∧
        input.selectValue column = .error (.missing attributes [input]) := by
  rcases input.lacks_or_leads column with lacks | ⟨found, leads⟩
  · refine Or.inr ⟨_, .selectValue lacks, ?_⟩
    simp only [Relation.selectValue, Relation.lookup?_eq_none_iff.mpr lacks]
  · refine Or.inl ⟨⟨input.tupleCount / found.valueCount,
        overwriteCounts [(column : Label)] 1 Nat.one_pos input.attributes⟩,
      .selectValue leads rfl (overwriteCounts_recounts _ _ _ _), ?_⟩
    simp only [Relation.selectValue, Relation.lookup?_eq_some_iff.mpr leads]

theorem product_tupleCount (inputs : List Relation) :
    (Relation.product inputs).tupleCount =
      (inputs.map Relation.tupleCount).foldr (· * ·) 1 :=
  List.foldr_map.symm

theorem Operator.estimate_cases {operator : Operator Relation} {inputs : List Relation}
    (rule : operator.hasRule = true) (arity : operator.accepts inputs.length = true) :
    (∃ output, Estimates operator inputs output ∧ operator.estimate inputs = .ok output) ∨
      ∃ attributes, Misses operator inputs attributes ∧
        operator.estimate inputs = .error (.missing attributes inputs) := by
  have single : inputs.length = 1 → ∃ input, inputs = [input] := List.length_eq_one_iff.mp
  cases operator with
  | scan name base =>
      cases List.eq_nil_of_length_eq_zero (eq_of_beq arity)
      exact Or.inl ⟨base, .scan name base, rfl⟩
  | project kept =>
      obtain ⟨input, rfl⟩ := single (eq_of_beq arity)
      exact Or.inl ⟨input.project kept, .project rfl rfl, rfl⟩
  | select condition =>
      obtain ⟨input, rfl⟩ := single (eq_of_beq arity)
      rcases condition with - | ⟨column, value⟩ | comparison
      · cases rule
      · rcases selectValue_cases input column value with
          ⟨output, estimates, selected⟩ | ⟨missing, misses, selected⟩
        · exact Or.inl ⟨output, estimates, by rw [estimate, selected]⟩
        · exact Or.inr ⟨missing, misses, by rw [estimate, selected]⟩
      · rcases selectEqual_cases input comparison with
          ⟨first, second, output, left, right, equates, selected⟩ | ⟨lacks, selected⟩
        · exact Or.inl ⟨output, .selectEqual left right equates, by rw [estimate, selected]⟩
        · exact Or.inr ⟨_, .selectEqual lacks, by rw [estimate, selected]⟩
  | product => exact Or.inl ⟨_, .product (product_tupleCount inputs) rfl, rfl⟩
  | join comparison =>
      obtain ⟨left, rest, rfl⟩ := List.exists_cons_of_length_eq_add_one (eq_of_beq arity)
      obtain ⟨right, rfl⟩ := List.length_eq_one_iff.mp (Nat.succ.inj (eq_of_beq arity))
      rcases join_cases left right comparison with
        ⟨output, estimates, joined⟩ | ⟨missing, misses, joined⟩
      · exact Or.inl ⟨output, estimates, by rw [estimate, joined]⟩
      · exact Or.inr ⟨missing, misses, by rw [estimate, joined]⟩
  | «foreign» kind => cases rule

theorem Relation.eq_of_parts {output other : Relation}
    (tupleCount : output.tupleCount = other.tupleCount)
    (attributes : output.attributes = other.attributes) : output = other := by
  cases output
  cases other
  cases tupleCount
  cases attributes
  rfl

/-- What a rule allows is the estimate. -/
theorem Operator.estimate_of_estimates {operator : Operator Relation} {inputs : List Relation}
    {output : Relation} (rule : Estimates operator inputs output) :
    operator.estimate inputs = .ok output := by
  cases rule with
  | scan name base => rfl
  | project tupleCount attributes =>
      exact congrArg Except.ok (Relation.eq_of_parts tupleCount.symm attributes.symm)
  | @selectValue column value found input _ leads tupleCount attributes =>
      have same : output = ⟨input.tupleCount / found.valueCount,
          overwriteCounts [(column : Label)] 1 Nat.one_pos input.attributes⟩ :=
        Relation.eq_of_parts tupleCount (attributes.unique (overwriteCounts_recounts _ _ _ _))
      simp only [estimate, Relation.selectValue, Relation.lookup?_eq_some_iff.mpr leads, same]
  | @selectEqual condition first second input _ left right equates =>
      have same := equates.unique (equates_overwriteCounts first second)
      simp only [estimate, Relation.selectEqual, Relation.lookup?_eq_some_iff.mpr left,
        Relation.lookup?_eq_some_iff.mpr right, same]
  | product tupleCount attributes =>
      exact congrArg Except.ok (Relation.eq_of_parts
        ((product_tupleCount inputs).trans tupleCount.symm) attributes.symm)
  | @joinWithin condition first second left right _ here there equates =>
      have same := equates.unique (equates_overwriteCounts first second)
      have first := Relation.lookup?_eq_some_iff.mpr here
      have second := Relation.lookup?_eq_some_iff.mpr there
      simp [estimate, Relation.join, Relation.contains, Relation.selectEqual, first, second, same]
  | @joinAcross condition first second left right _ here missing there equates =>
      have same := equates.unique (equates_joinOn here.named there.named)
      have first := Relation.lookup?_eq_some_iff.mpr here
      have second := Relation.lookup?_eq_some_iff.mpr there
      have none := Relation.lookup?_eq_none_iff.mpr missing
      simp [estimate, Relation.join, Relation.contains, first, second, none, same]
  | @joinCrossed condition first second left right _ here missing there equates =>
      have same := equates.unique (equates_joinOn_swap here.named there.named)
      have first := Relation.lookup?_eq_some_iff.mpr there
      have second := Relation.lookup?_eq_some_iff.mpr here
      have none := Relation.lookup?_eq_none_iff.mpr missing
      simp [estimate, Relation.join, Relation.contains, first, second, none, same]

/-- The estimate of an operator is exactly what its rule allows. -/
theorem Operator.estimate_eq_ok_iff {operator : Operator Relation} {inputs : List Relation}
    {output : Relation} :
    operator.estimate inputs = .ok output ↔ Estimates operator inputs output := by
  refine ⟨fun told => ?_, estimate_of_estimates⟩
  have given : operator.hasRule = true → operator.accepts inputs.length = true →
      Estimates operator inputs output := by
    intro rule arity
    rcases estimate_cases rule arity with ⟨other, estimates, found⟩ | ⟨missing, -, found⟩
    · rw [found] at told
      cases told
      exact estimates
    · rw [found] at told
      cases told
  unfold estimate at told
  split at told
  · exact given rfl rfl
  · exact given rfl rfl
  · exact given rfl rfl
  · exact given rfl rfl
  · cases told
    exact .product (product_tupleCount inputs) rfl
  · exact given rfl rfl
  · cases told

/-- Where attributes are missing, no rule applies. -/
theorem Misses.not_estimates {operator : Operator Relation} {inputs : List Relation}
    {attributes : List String} {output : Relation} (misses : Misses operator inputs attributes) :
    ¬ Estimates operator inputs output := by
  intro estimates
  cases misses with
  | selectValue lacks =>
      cases estimates with
      | selectValue leads _ _ => exact leads.not_lacks lacks
  | selectEqual lacks =>
      cases estimates with
      | selectEqual left right _ => exact lacks.elim left.not_lacks right.not_lacks
  | join within across crossed =>
      cases estimates with
      | joinWithin here there _ => exact within.elim here.not_lacks there.not_lacks
      | joinAcross here _ there _ => exact across.elim here.not_lacks there.not_lacks
      | joinCrossed here _ there _ => exact crossed.elim here.not_lacks there.not_lacks

theorem Estimates.unique {operator : Operator Relation} {inputs : List Relation}
    {output other : Relation} (first : Estimates operator inputs output)
    (second : Estimates operator inputs other) : output = other :=
  Except.ok.inj ((Operator.estimate_of_estimates first).symm.trans
    (Operator.estimate_of_estimates second))

/-- An output can be told: its counts can be written, and if it comes of a condition, no attribute
is called by a list or an object. -/
structure Tellable {Base : Type} (operator : Operator Base) (output : Relation) : Prop where
  names : operator.hasCondition = true → output.hasCompoundName = false
  counts : output.isWritable = true

/-- An estimation ends at an operator over estimated inputs: attributes are missing, which is told
together with the inputs if these can be written, or its output cannot be told. -/
inductive Stops (operator : Operator Relation) (inputs : List Relation) :
    EstimateFault → Prop where
  | missing {attributes : List String} (misses : Misses operator inputs attributes)
      (writable : ∀ input ∈ inputs, input.isWritable = true) :
      Stops operator inputs (.missingAttribute ⟨attributes, inputs.map Relation.render⟩)
  | untold {attributes : List String} {input : Relation}
      (misses : Misses operator inputs attributes) (member : input ∈ inputs)
      (tooLong : input.isWritable = false) : Stops operator inputs .unwritable
  | compoundName {output : Relation} (estimates : Estimates operator inputs output)
      (condition : operator.hasCondition = true) (compound : output.hasCompoundName = true) :
      Stops operator inputs .compoundName
  | unwritable {output : Relation} (estimates : Estimates operator inputs output)
      (names : operator.hasCondition = true → output.hasCompoundName = false)
      (tooLong : output.isWritable = false) :
      Stops operator inputs .unwritable

theorem Misses.stops {operator : Operator Relation} {inputs : List Relation}
    {attributes : List String} (misses : Misses operator inputs attributes) :
    Stops operator inputs (.missing attributes inputs) := by
  rw [EstimateFault.missing_eq]
  split
  · next writable => exact .missing misses (List.all_eq_true.mp writable)
  · next tooLong =>
      obtain ⟨input, member, long⟩ := List.all_eq_false.mp (eq_false_of_ne_true tooLong)
      exact .untold misses member (eq_false_of_ne_true long)

/-- What an operator with a rule puts out is its estimate if that can be told. -/
theorem Operator.output_cases {operator : Operator Relation} {inputs : List Relation}
    (rule : operator.hasRule = true) (arity : operator.accepts inputs.length = true) :
    (∃ output, Estimates operator inputs output ∧ Tellable operator output ∧
        operator.output inputs = .ok output) ∨
      ∃ fault, Stops operator inputs fault ∧ operator.output inputs = .error fault := by
  rcases estimate_cases rule arity with ⟨output, estimates, found⟩ | ⟨attributes, misses, found⟩
  · by_cases compound : operator.hasCondition = true ∧ output.hasCompoundName = true
    · refine Or.inr ⟨_, .compoundName estimates compound.1 compound.2, ?_⟩
      simp only [Operator.output, found, compound.1, compound.2, Bool.and_true, if_true]
    · have names : operator.hasCondition = true → output.hasCompoundName = false := by
        intro condition
        exact Bool.eq_false_iff.mpr fun isCompound => compound ⟨condition, isCompound⟩
      have simple : (operator.hasCondition && output.hasCompoundName) = false := by
        rw [Bool.and_eq_false_iff]
        exact (Bool.eq_false_or_eq_true operator.hasCondition).symm.imp id names
      cases writable : output.isWritable with
      | true =>
          refine Or.inl ⟨output, estimates, ⟨names, writable⟩, ?_⟩
          simp only [Operator.output, found, simple, Relation.isSome_render?, writable, if_true,
            Bool.false_eq_true, if_false]
      | false =>
          refine Or.inr ⟨_, .unwritable estimates names writable, ?_⟩
          simp only [Operator.output, found, simple, Relation.isSome_render?, writable,
            Bool.false_eq_true, if_false]
  · refine Or.inr ⟨_, misses.stops, ?_⟩
    simp only [Operator.output, found]

theorem tellable_of_output {operator : Operator Relation} {inputs : List Relation}
    {output : Relation} (told : operator.output inputs = .ok output) :
    Tellable operator output := by
  unfold Operator.output at told
  split at told
  · cases told
  · next relation estimated =>
      split at told
      · cases told
      · next names =>
          split at told
          · next writable =>
              cases told
              refine ⟨?_, output.isSome_render?.symm.trans writable⟩
              intro condition
              rw [condition, Bool.true_and] at names
              exact Bool.eq_false_iff.mpr names
          · cases told

theorem Stops.not_tellable {operator : Operator Relation} {inputs : List Relation}
    {fault : EstimateFault} {output : Relation} (stops : Stops operator inputs fault)
    (estimates : Estimates operator inputs output) : ¬ Tellable operator output := by
  intro tellable
  cases stops with
  | missing misses => exact misses.not_estimates estimates
  | untold misses => exact misses.not_estimates estimates
  | compoundName other condition compound =>
      rw [other.unique estimates, tellable.names condition] at compound
      cases compound
  | unwritable other _ tooLong =>
      rw [other.unique estimates, tellable.counts] at tooLong
      cases tooLong

end Selectivity

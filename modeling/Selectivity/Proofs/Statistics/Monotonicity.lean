import Mathlib.Data.List.Forall2
import Selectivity.Plan.Estimate

/-!
# Rules on larger relations

A relation lies below another one if both have attributes of the same names in the same order, and
the lower one has no more tuples and, attribute by attribute, no fewer values. Every rule keeps this
order: what divides a tuple count is smaller for the upper relation, and so is what is left of the
value counts. Which rule applies depends on the names alone, so it is the same for both.
-/

namespace Selectivity

/-- Two attributes of one name, of which the lower one has no fewer values. -/
structure Attribute.Below (lower upper : Attribute) : Prop where
  name : lower.name = upper.name
  valueCount : upper.valueCount ≤ lower.valueCount

/-- Two relations with attributes of the same names, of which the lower one has no more tuples and
no fewer values in any attribute. -/
structure Relation.Below (lower upper : Relation) : Prop where
  tupleCount : lower.tupleCount ≤ upper.tupleCount
  attributes : List.Forall₂ Attribute.Below lower.attributes upper.attributes

/-- Two operators that do the same, over base relations of which one lies below the other. -/
inductive Operator.Below : Operator Relation → Operator Relation → Prop where
  | scan (name : String) {lower upper : Relation} (bases : lower.Below upper) :
      Below (.scan name lower) (.scan name upper)
  | project (kept : List String) : Below (.project kept) (.project kept)
  | select (condition : Option Predicate) : Below (.select condition) (.select condition)
  | product : Below .product .product
  | join (condition : Comparison) : Below (.join condition) (.join condition)
  | foreign (kind : String) : Below (.foreign kind) (.foreign kind)

/-- Two answers of which both are refusals, or both are values that are related. -/
inductive Parallel {Fault Other Value Image : Type} (related : Value → Image → Prop) :
    Except Fault Value → Except Other Image → Prop where
  | refused (fault : Fault) (other : Other) : Parallel related (.error fault) (.error other)
  | given {value : Value} {image : Image} (values : related value image) :
      Parallel related (.ok value) (.ok image)

variable {lower upper left right upperLeft upperRight : Relation}

theorem Attribute.Below.withValueCount {first second : Attribute} (below : first.Below second)
    {count smaller : Nat} (positive : 0 < count) (smallerPositive : 0 < smaller)
    (least : smaller ≤ count) :
    (first.withValueCount count positive).Below (second.withValueCount smaller smallerPositive) :=
  ⟨below.name, least⟩

/-- The larger count of two lower attributes is no smaller than that of the upper ones. -/
theorem Attribute.Below.max_le {first second third fourth : Attribute} (one : first.Below second)
    (other : third.Below fourth) :
    max second.valueCount fourth.valueCount ≤ max first.valueCount third.valueCount := by
  have here := one.valueCount
  have there := other.valueCount
  omega

theorem Attribute.Below.max_ne_zero {first second : Attribute} (_ : first.Below second)
    (other : Attribute) : max second.valueCount other.valueCount ≠ 0 := by
  have positive := second.valueCount_pos
  omega

theorem Attribute.Below.min_le {first second third fourth : Attribute} (one : first.Below second)
    (other : third.Below fourth) :
    min second.valueCount fourth.valueCount ≤ min first.valueCount third.valueCount := by
  have here := one.valueCount
  have there := other.valueCount
  omega

/-- The same attributes of both relations are rewritten, those of the lower one to no smaller
count. -/
theorem overwriteCounts_below {names : List Label} {count smaller : Nat} (positive : 0 < count)
    (smallerPositive : 0 < smaller) (least : smaller ≤ count) {first second : List Attribute}
    (below : List.Forall₂ Attribute.Below first second) :
    List.Forall₂ Attribute.Below (overwriteCounts names count positive first)
      (overwriteCounts names smaller smallerPositive second) := by
  refine List.rel_map (fun one other related => ?_) below
  rw [related.name]
  split
  · exact related.withValueCount positive smallerPositive least
  · exact related

theorem attributes_names_eq {first second : List Attribute}
    (below : List.Forall₂ Attribute.Below first second) :
    first.map Attribute.name = second.map Attribute.name := by
  induction below with
  | nil => rfl
  | cons one _ induction => rw [List.map_cons, List.map_cons, one.name, induction]

theorem find?_below_cases {first second : List Attribute}
    (below : List.Forall₂ Attribute.Below first second) (name : Label) :
    first.find? (fun column => column.name == name) = none ∧
        second.find? (fun column => column.name == name) = none ∨
      ∃ one other : Attribute, first.find? (fun column => column.name == name) = some one ∧
        second.find? (fun column => column.name == name) = some other ∧ one.Below other := by
  induction below with
  | nil => exact Or.inl ⟨rfl, rfl⟩
  | @cons one other rest others related _ induction =>
      rw [List.find?_cons, List.find?_cons, related.name]
      cases other.name == name with
      | true => exact Or.inr ⟨one, other, rfl, rfl, related⟩
      | false => exact induction

namespace Relation

theorem Below.lookup?_cases (below : lower.Below upper) (name : Label) :
    lower.lookup? name = none ∧ upper.lookup? name = none ∨
      ∃ first second : Attribute, lower.lookup? name = some first ∧
        upper.lookup? name = some second ∧ first.Below second :=
  find?_below_cases below.attributes name

theorem Below.contains_eq (below : lower.Below upper) (name : Label) :
    lower.contains name = upper.contains name := by
  rw [contains, contains]
  rcases below.lookup?_cases name with ⟨here, there⟩ | ⟨first, second, here, there, -⟩
  · rw [here, there]
  · rw [here, there]
    rfl

theorem Below.attributeNames_eq (below : lower.Below upper) :
    lower.attributeNames = upper.attributeNames :=
  attributes_names_eq below.attributes

theorem Below.hasCompoundName_eq (below : lower.Below upper) :
    lower.hasCompoundName = upper.hasCompoundName :=
  hasCompoundName_congr below.attributeNames_eq

theorem Below.project (below : lower.Below upper) (kept : List String) :
    (lower.project kept).Below (upper.project kept) := by
  have named : ∀ name : String, List.Forall₂ Attribute.Below
      (lower.attributes.filter fun column => column.name == (name : Label))
      (upper.attributes.filter fun column => column.name == (name : Label)) := by
    intro name
    refine List.rel_filter (fun one other related => ?_) below.attributes
    exact iff_of_eq (congrArg (fun found : Label => (found == (name : Label)) = true) related.name)
  refine ⟨below.tupleCount, ?_⟩
  induction kept with
  | nil => exact .nil
  | cons name rest induction => exact List.rel_append (named name) induction

theorem Below.selectValue (below : lower.Below upper) (column : String) :
    Parallel Relation.Below (lower.selectValue column) (upper.selectValue column) := by
  rw [Relation.selectValue, Relation.selectValue]
  rcases below.lookup?_cases column with ⟨here, there⟩ | ⟨first, second, here, there, related⟩
  · rw [here, there]
    exact .refused _ _
  · rw [here, there]
    refine .given ⟨?_, ?_⟩
    · exact Nat.div_le_div below.tupleCount related.valueCount (Nat.ne_of_gt second.valueCount_pos)
    · exact overwriteCounts_below Nat.one_pos Nat.one_pos (Nat.le_refl 1) below.attributes

theorem Below.selectEqual (below : lower.Below upper) (condition : Comparison) :
    Parallel Relation.Below (lower.selectEqual condition) (upper.selectEqual condition) := by
  rw [Relation.selectEqual, Relation.selectEqual]
  rcases below.lookup?_cases condition.left with ⟨here, there⟩ | ⟨first, second, here, there, one⟩
  · rw [here, there]
    exact .refused _ _
  · rw [here, there]
    rcases below.lookup?_cases condition.right with
      ⟨left, right⟩ | ⟨third, fourth, left, right, other⟩
    · rw [left, right]
      exact .refused _ _
    · rw [left, right]
      refine .given ⟨?_, ?_⟩
      · exact Nat.div_le_div below.tupleCount (one.max_le other) (one.max_ne_zero fourth)
      · exact overwriteCounts_below _ _ (one.min_le other) below.attributes

theorem product_below {inputs others : List Relation}
    (below : List.Forall₂ Relation.Below inputs others) :
    (Relation.product inputs).Below (Relation.product others) := by
  induction below with
  | nil => exact ⟨Nat.le_refl 1, .nil⟩
  | cons one _ induction =>
      exact ⟨Nat.mul_le_mul one.tupleCount induction.tupleCount,
        List.rel_append one.attributes induction.attributes⟩

theorem Below.joinOn {first second third fourth : Attribute}
    (lefts : left.Below upperLeft) (rights : right.Below upperRight) (one : first.Below second)
    (other : third.Below fourth) :
    (left.joinOn right first third).Below (upperLeft.joinOn upperRight second fourth) := by
  refine ⟨?_, ?_⟩
  · exact Nat.div_le_div (Nat.mul_le_mul lefts.tupleCount rights.tupleCount) (one.max_le other)
      (one.max_ne_zero fourth)
  · rw [Relation.joinOn, Relation.joinOn, one.name, other.name]
    exact overwriteCounts_below _ _ (one.min_le other)
      (List.rel_append lefts.attributes rights.attributes)

/-- A join over an attribute of each side is made over both relations or over none. -/
theorem Below.joinOver (lefts : left.Below upperLeft)
    (rights : right.Below upperRight) (leftName rightName : Label)
    {otherwise upperOtherwise : Except EstimateFault Relation}
    (others : Parallel Relation.Below otherwise upperOtherwise) :
    Parallel Relation.Below
      (match left.lookup? leftName, right.lookup? rightName with
        | some leftFound, some rightFound => .ok (left.joinOn right leftFound rightFound)
        | _, _ => otherwise)
      (match upperLeft.lookup? leftName, upperRight.lookup? rightName with
        | some leftFound, some rightFound => .ok (upperLeft.joinOn upperRight leftFound rightFound)
        | _, _ => upperOtherwise) := by
  rcases lefts.lookup?_cases leftName with ⟨here, there⟩ | ⟨first, second, here, there, one⟩
  · rw [here, there]
    exact others
  · rw [here, there]
    rcases rights.lookup?_cases rightName with ⟨one, other⟩ | ⟨third, fourth, same, found, other⟩
    · rw [one, other]
      exact others
    · rw [same, found]
      exact .given (lefts.joinOn rights one other)

/-- Both joins take the same of the three forms, because the names decide which one. -/
theorem Below.join (lefts : left.Below upperLeft)
    (rights : right.Below upperRight) (condition : Comparison) :
    Parallel Relation.Below (left.join right condition) (upperLeft.join upperRight condition) := by
  rw [Relation.join, Relation.join, lefts.contains_eq, lefts.contains_eq]
  split
  · exact lefts.selectEqual condition
  · exact lefts.joinOver rights _ _ (lefts.joinOver rights _ _ (.refused _ _))

end Relation

/-- The rules keep the order, and an operator is refused over both inputs or over none. -/
theorem Operator.Below.estimate {operator upper : Operator Relation}
    {inputs upperInputs : List Relation} (operators : operator.Below upper)
    (below : List.Forall₂ Relation.Below inputs upperInputs) :
    Parallel Relation.Below (operator.estimate inputs) (upper.estimate upperInputs) := by
  cases operators with
  | scan name bases =>
      rcases below with - | ⟨one, rest⟩
      · exact .given bases
      · exact .refused _ _
  | project kept =>
      rcases below with - | ⟨one, - | ⟨other, rest⟩⟩
      · exact .refused _ _
      · exact .given (one.project kept)
      · exact .refused _ _
  | select condition =>
      rcases condition with - | ⟨column, value⟩ | comparison
      · exact .refused _ _
      · rcases below with - | ⟨one, - | ⟨other, rest⟩⟩
        · exact .refused _ _
        · exact one.selectValue column
        · exact .refused _ _
      · rcases below with - | ⟨one, - | ⟨other, rest⟩⟩
        · exact .refused _ _
        · exact one.selectEqual comparison
        · exact .refused _ _
  | product => exact .given (Relation.product_below below)
  | join condition =>
      rcases below with - | ⟨one, - | ⟨other, - | ⟨further, rest⟩⟩⟩
      · exact .refused _ _
      · exact .refused _ _
      · exact one.join other condition
      · exact .refused _ _
  | «foreign» kind => exact .refused _ _

end Selectivity

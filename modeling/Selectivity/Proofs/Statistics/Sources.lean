import Mathlib.Algebra.Order.BigOperators.GroupWithZero.List
import Mathlib.Algebra.Order.Ring.Nat
import Mathlib.Data.List.Forall2
import Mathlib.Data.List.MinMax
import Selectivity.Proofs.Statistics.Joins
import Selectivity.Proofs.Text.Numerals

/-!
# Where counts come from

No rule makes up values or tuples. An attribute that an operator puts out has a namesake in an input
with at least as many values. That need not be the attribute in its place: a condition leaves one
count in all attributes of a name, which can be more than a later one of them had. And the tuples
are at most as many as the combinations of tuples of the inputs, as long as no input is bounded by
zero: a join may leave out its right input.

So what a plan puts out keeps within its base relations, which is what the step lemma
`Estimates.within` carries from the inputs of an operator to its output.
-/

namespace Selectivity

/-- Among some attributes there is a namesake with at least as many values. -/
def Attribute.BoundedIn (columns : List Attribute) (column : Attribute) : Prop :=
  ∃ source ∈ columns, source.name = column.name ∧ column.valueCount ≤ source.valueCount

/-- The largest number of values in an attribute of a name, and zero if there is none. -/
def largestCount (relations : List Relation) (name : Label) : Nat :=
  (((relations.flatMap Relation.attributes).filter fun column => column.name == name).map
    Attribute.valueCount).foldr max 0

/-- Every attribute has a namesake in a base relation with at least as many values. The tuples are
no more than all combinations of tuples of the base relations, unless one of these is empty. -/
structure Relation.Within (bases : List Relation) (relation : Relation) : Prop where
  counts : ∀ column ∈ relation.attributes,
    column.BoundedIn (bases.flatMap Relation.attributes)
  tupleCount : (∀ base ∈ bases, 0 < base.tupleCount) →
    relation.tupleCount ≤ (bases.map Relation.tupleCount).prod

namespace Attribute.BoundedIn

variable {column : Attribute} {columns others : List Attribute}

theorem of_mem (member : column ∈ columns) : column.BoundedIn columns :=
  ⟨column, member, rfl, Nat.le_refl _⟩

theorem trans (bounded : column.BoundedIn columns)
    (above : ∀ source ∈ columns, source.BoundedIn others) : column.BoundedIn others := by
  obtain ⟨source, member, named, fewer⟩ := bounded
  obtain ⟨origin, found, same, least⟩ := above source member
  exact ⟨origin, found, same.trans named, Nat.le_trans fewer least⟩

theorem mono (bounded : column.BoundedIn columns) (subset : columns ⊆ others) :
    column.BoundedIn others :=
  bounded.trans fun _ member => of_mem (subset member)

/-- An attribute that is bounded among the attributes of some relations is called like one of them,
and it has no more values than the largest count of its name. -/
theorem le_largestCount {relations : List Relation}
    (bounded : column.BoundedIn (relations.flatMap Relation.attributes)) :
    (∃ relation ∈ relations, column.name ∈ relation.attributeNames) ∧
      column.valueCount ≤ largestCount relations column.name := by
  obtain ⟨source, member, named, fewer⟩ := bounded
  constructor
  · obtain ⟨relation, listed, found⟩ := List.mem_flatMap.mp member
    refine ⟨relation, listed, ?_⟩
    rw [← named]
    exact List.mem_map_of_mem found
  · apply Nat.le_trans fewer
    apply List.le_max_of_le' 0 _ (Nat.le_refl _)
    apply List.mem_map_of_mem
    simp only [List.mem_filter, member, named, BEq.rfl, and_self]

end Attribute.BoundedIn

theorem Recounts.mem_cases {names : List Label} {count : Nat} {before after : List Attribute}
    (recounts : Recounts names count before after) {column : Attribute} (member : column ∈ after) :
    ∃ source ∈ before, source.name = column.name ∧
      column.valueCount = if source.name ∈ names then count else source.valueCount := by
  have listed : (column.name, column.valueCount) ∈
      after.map fun other => (other.name, other.valueCount) := List.mem_map_of_mem member
  rw [recounts] at listed
  obtain ⟨source, found, same⟩ := List.mem_map.mp listed
  obtain ⟨named, counted⟩ := Prod.mk.inj same
  exact ⟨source, found, named, counted.symm⟩

/-- If every attribute of the counted names has a namesake with at least the new count, then every
attribute has a namesake with at least the count that it has now. -/
theorem Recounts.boundedIn {names : List Label} {count : Nat} {before after : List Attribute}
    (recounts : Recounts names count before after)
    (leading : ∀ name ∈ names, ∃ leader ∈ before, leader.name = name ∧ count ≤ leader.valueCount) :
    ∀ column ∈ after, column.BoundedIn before := by
  intro column member
  obtain ⟨source, found, named, counted⟩ := recounts.mem_cases member
  by_cases listed : source.name ∈ names
  · rw [if_pos listed] at counted
    obtain ⟨leader, here, same, least⟩ := leading source.name listed
    rw [← counted] at least
    exact ⟨leader, here, same.trans named, least⟩
  · rw [if_neg listed] at counted
    exact ⟨source, found, named, Nat.le_of_eq counted⟩

theorem Relation.Leads.mem {relation : Relation} {name : Label} {column : Attribute}
    (leads : relation.Leads name column) : column ∈ relation.attributes := by
  obtain ⟨-, before, after, split, -⟩ := leads
  simp [split]

/-- The count that a comparison leaves is at most that of the first attribute of either name. -/
theorem Equates.boundedIn {condition : Comparison} {tupleCount : Nat} {columns : List Attribute}
    {first second : Attribute} {output : Relation}
    (equates : Equates condition tupleCount columns first second output)
    (here : first.name = condition.left ∧ first ∈ columns)
    (there : second.name = condition.right ∧ second ∈ columns) :
    ∀ column ∈ output.attributes, column.BoundedIn columns := by
  apply equates.attributes.boundedIn
  intro name listed
  rcases List.mem_cons.mp listed with rfl | later
  · exact ⟨first, here.2, here.1, Nat.min_le_left _ _⟩
  · rw [List.mem_singleton.mp later]
    exact ⟨second, there.2, there.1, Nat.min_le_right _ _⟩

namespace Operator

variable {Base Other : Type}

/-- The base relation that an operator scans, if it is a scan. -/
def base? : Operator Base → Option Base
  | .scan _ base => some base
  | _ => none

@[simp]
theorem base?_mapBase (image : Base → Other) (operator : Operator Base) :
    (operator.mapBase image).base? = operator.base?.map image := by
  cases operator <;> rfl

theorem exists_of_base?_eq_some {operator : Operator Base} {base : Base}
    (scanned : operator.base? = some base) : ∃ name, operator = .scan name base := by
  cases operator with
  | scan name other => exact ⟨name, congrArg (scan name) (Option.some.inj scanned)⟩
  | _ => cases scanned

end Operator

variable {operator : Operator Relation} {inputs : List Relation} {output : Relation}

/-- An operator over inputs puts out attributes that are bounded in the inputs. -/
theorem Estimates.boundedIn (estimates : Estimates operator inputs output)
    (noScan : operator.base? = none) :
    ∀ column ∈ output.attributes, column.BoundedIn (inputs.flatMap Relation.attributes) := by
  intro column member
  cases estimates with
  | scan name => cases noScan
  | @project kept input _ tupleCount attributes =>
      rw [attributes] at member
      obtain ⟨name, -, found⟩ := List.mem_flatMap.mp member
      apply Attribute.BoundedIn.of_mem
      simpa using (List.mem_filter.mp found).1
  | @selectValue name value found input _ leads tupleCount attributes =>
      rw [List.flatMap_singleton]
      apply attributes.boundedIn _ column member
      intro other listed
      rw [List.mem_singleton.mp listed]
      exact ⟨found, leads.mem, leads.named, found.valueCount_pos⟩
  | selectEqual left right equates =>
      rw [List.flatMap_singleton]
      exact equates.boundedIn ⟨left.named, left.mem⟩ ⟨right.named, right.mem⟩ column member
  | product tupleCount attributes =>
      rw [attributes] at member
      exact .of_mem member
  | @joinWithin condition first second left right _ here there equates =>
      have bounded := equates.boundedIn ⟨here.named, here.mem⟩ ⟨there.named, there.mem⟩
      apply (bounded column member).mono
      simp
  | @joinAcross condition first second left right _ here missing there equates =>
      have bounded := equates.boundedIn ⟨here.named, List.mem_append_left _ here.mem⟩
        ⟨there.named, List.mem_append_right _ there.mem⟩
      apply (bounded column member).mono
      simp
  | @joinCrossed condition first second left right _ here missing there equates =>
      have bounded := equates.boundedIn ⟨there.named, List.mem_append_right _ there.mem⟩
        ⟨here.named, List.mem_append_left _ here.mem⟩
      apply (bounded column member).mono
      simp

/-- The outputs of inputs that are bounded one by one have no more combinations than the bounds. -/
theorem combinations_le {limits : List Nat}
    (below : List.Forall₂ (fun limit input => Relation.tupleCount input ≤ limit) limits inputs) :
    (inputs.map Relation.tupleCount).prod ≤ limits.prod := by
  induction below with
  | nil => exact Nat.le_refl _
  | cons least _ induction =>
      rw [List.map_cons, List.prod_cons, List.prod_cons]
      exact Nat.mul_le_mul least induction

/-- An operator over inputs puts out no more tuples than the product of any bounds on the inputs. A
bound of the right input of a join must not be zero, because the join may leave this input out. -/
theorem Estimates.tupleCount_le (estimates : Estimates operator inputs output)
    (noScan : operator.base? = none) {limits : List Nat}
    (below : List.Forall₂ (fun limit input => Relation.tupleCount input ≤ limit) limits inputs)
    (positive : ∀ limit ∈ limits, 0 < limit) : output.tupleCount ≤ limits.prod := by
  have combined := combinations_le below
  cases estimates with
  | scan name => cases noScan
  | project tupleCount attributes =>
      simpa [tupleCount] using combined
  | selectValue leads tupleCount attributes =>
      rw [tupleCount]
      apply Nat.le_trans (Nat.div_le_self _ _)
      simpa using combined
  | selectEqual left right equates =>
      rw [equates.tupleCount]
      apply Nat.le_trans (Nat.div_le_self _ _)
      simpa using combined
  | product tupleCount attributes =>
      rw [tupleCount]
      exact combined
  | joinWithin here there equates =>
      cases below with
      | cons least others =>
          rw [equates.tupleCount, List.prod_cons]
          apply Nat.le_trans (Nat.div_le_self _ _)
          apply Nat.le_trans least
          apply Nat.le_mul_of_pos_right
          apply List.prod_pos
          exact fun other member => positive other (List.mem_cons_of_mem _ member)
  | joinAcross here missing there equates =>
      rw [equates.tupleCount]
      apply Nat.le_trans (Nat.div_le_self _ _)
      simpa using combined
  | joinCrossed here missing there equates =>
      rw [equates.tupleCount]
      apply Nat.le_trans (Nat.div_le_self _ _)
      simpa using combined

/-- A relation whose counts are all bounded by those of another one can be written if that one
can. -/
theorem Relation.isWritable_of_bounded {input : Relation} (writable : input.isWritable = true)
    (fewer : output.tupleCount ≤ input.tupleCount)
    (bounded : ∀ column ∈ output.attributes, column.BoundedIn input.attributes) :
    output.isWritable = true := by
  simp only [isWritable, Bool.and_eq_true, Bool.not_eq_true', List.all_eq_true] at writable ⊢
  refine ⟨Text.exceedsDigits_of_le fewer writable.1, fun column member => ?_⟩
  obtain ⟨source, found, -, least⟩ := bounded column member
  exact Text.exceedsDigits_of_le least (writable.2 source found)

/-- An operator over a single input that can be written puts out what can be written. -/
theorem Estimates.isWritable {input : Relation} (estimates : Estimates operator [input] output)
    (noScan : operator.base? = none) (writable : input.isWritable = true) :
    output.isWritable = true := by
  have bounded := estimates.boundedIn noScan
  rw [List.flatMap_singleton] at bounded
  apply Relation.isWritable_of_bounded writable _ bounded
  cases estimates with
  | project tupleCount attributes => exact Nat.le_of_eq tupleCount
  | selectValue leads tupleCount attributes =>
      rw [tupleCount]
      exact Nat.div_le_self _ _
  | selectEqual left right equates =>
      rw [equates.tupleCount]
      exact Nat.div_le_self _ _
  | product tupleCount attributes =>
      rw [tupleCount]
      simp

theorem Relation.within_self (base : Relation) : base.Within [base] := by
  constructor
  · intro column member
    apply Attribute.BoundedIn.of_mem
    simpa using member
  · intro _
    simp

theorem forall₂_tupleCount_le {groups : List (List Relation)}
    (below : List.Forall₂ Relation.Within groups inputs)
    (some : ∀ base ∈ groups.flatten, 0 < base.tupleCount) :
    List.Forall₂ (fun limit input => Relation.tupleCount input ≤ limit)
      (groups.map fun bases => (bases.map Relation.tupleCount).prod) inputs := by
  induction below with
  | nil => exact .nil
  | @cons bases input groups inputs within _ induction =>
      rw [List.flatten_cons, List.forall_mem_append] at some
      exact .cons (within.tupleCount some.1) (induction some.2)

theorem boundedIn_flatten {groups : List (List Relation)}
    (below : List.Forall₂ Relation.Within groups inputs) :
    ∀ column ∈ inputs.flatMap Relation.attributes,
      column.BoundedIn (groups.flatten.flatMap Relation.attributes) := by
  induction below with
  | nil => exact nofun
  | @cons bases input groups inputs within _ induction =>
      intro column member
      rw [List.flatMap_cons, List.mem_append] at member
      rw [List.flatten_cons, List.flatMap_append]
      rcases member with here | later
      · exact (within.counts column here).mono (List.subset_append_left _ _)
      · exact (induction column later).mono (List.subset_append_right _ _)

/-- If the inputs of an operator keep within some base relations each, then its output keeps within
all of them. -/
theorem Estimates.within (estimates : Estimates operator inputs output)
    (noScan : operator.base? = none) {groups : List (List Relation)}
    (below : List.Forall₂ Relation.Within groups inputs) : output.Within groups.flatten := by
  constructor
  · intro column member
    exact (estimates.boundedIn noScan column member).trans (boundedIn_flatten below)
  · intro some
    have product : (groups.map fun bases => (bases.map Relation.tupleCount).prod).prod =
        (groups.flatten.map Relation.tupleCount).prod := by
      rw [List.map_flatten, List.prod_flatten, List.map_map]
      rfl
    rw [← product]
    apply estimates.tupleCount_le noScan (forall₂_tupleCount_le below some)
    intro limit member
    obtain ⟨bases, listed, rfl⟩ := List.mem_map.mp member
    apply List.prod_pos
    intro count counted
    obtain ⟨base, found, rfl⟩ := List.mem_map.mp counted
    exact some base (List.mem_flatten.mpr ⟨bases, listed, found⟩)

end Selectivity

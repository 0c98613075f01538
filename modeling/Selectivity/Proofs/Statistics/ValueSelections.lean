import Mathlib.Algebra.BigOperators.Group.Finset.Basic
import Selectivity.Proofs.Statistics.Sources

/-!
# Selections by values

A selection by a value divides the tuples by the count of the first attribute of its name, and then
it leaves one value in every attribute of that name. So the name divides by one from then on, and
selections by values have a closed form: each of their names divides once, and it does not matter
in which order.
-/

namespace Selectivity

/-- The product over some names, times that over other names where the first ones count as one, is
the product over all of them. -/
theorem prod_union_once (first second : Finset String) (count : String → Nat) :
    ((∏ name ∈ first, count name) * ∏ name ∈ second, if name ∈ first then 1 else count name) =
      ∏ name ∈ first ∪ second, count name := by
  have rest : (∏ name ∈ second, if name ∈ first then 1 else count name) =
      ∏ name ∈ second \ first, count name := by
    rw [Finset.sdiff_eq_filter, Finset.prod_filter]
    simp only [ite_not]
  rw [rest, ← Finset.prod_union Finset.disjoint_sdiff, Finset.union_sdiff_self_eq_union]

/-- Setting the counts of some names and then of others is setting them for all of these names. -/
theorem overwriteCounts_append (first second : List Label) {count : Nat} (positive : 0 < count)
    (columns : List Attribute) :
    overwriteCounts second count positive (overwriteCounts first count positive columns) =
      overwriteCounts (first ++ second) count positive columns := by
  rw [overwriteCounts, overwriteCounts, overwriteCounts, List.map_map]
  apply List.map_congr_left
  intro column _
  by_cases here : column.name ∈ first
  · by_cases there : column.name ∈ second
    · simp [here, there, Attribute.withValueCount]
    · simp [here, there, Attribute.withValueCount]
  · simp [here]

/-- Some texts as labels. -/
def Label.ofTexts (texts : List String) : List Label :=
  texts.map fun (text : String) => (text : Label)

theorem Label.mem_ofTexts {texts : List String} {text : String} :
    (text : Label) ∈ ofTexts texts ↔ text ∈ texts := by
  constructor
  · intro member
    obtain ⟨other, listed, same⟩ := List.mem_map.mp member
    rw [← Label.ofText_inj.mp same]
    exact listed
  · exact fun listed => List.mem_map.mpr ⟨text, listed, rfl⟩

namespace Relation

variable {relation : Relation} {columns others : List String} {name : String}

/-- The value count of the first attribute of a name, and one if there is none. -/
def leadingCount (relation : Relation) (name : String) : Nat :=
  ((relation.lookup? name).map Attribute.valueCount).getD 1

/-- The relation with one value in every attribute that is called like one of the columns. The
counts of the first of these attributes divide the tuples, once for each name. -/
def pin (relation : Relation) (columns : List String) : Relation :=
  ⟨relation.tupleCount / ∏ name ∈ columns.toFinset, relation.leadingCount name,
    overwriteCounts (Label.ofTexts columns) 1 Nat.one_pos relation.attributes⟩

theorem attributeNames_pin (relation : Relation) (columns : List String) :
    (relation.pin columns).attributeNames = relation.attributeNames :=
  (overwriteCounts_recounts _ _ _ _).names_eq

theorem lookup?_pin (relation : Relation) (columns : List String) (name : String) :
    (relation.pin columns).lookup? name = (relation.lookup? name).map fun column =>
      if name ∈ columns then column.withValueCount 1 Nat.one_pos else column := by
  let recount (column : Attribute) : Attribute :=
    if (Label.ofTexts columns).contains column.name then column.withValueCount 1 Nat.one_pos
    else column
  have keeps (column : Attribute) : (recount column).name = column.name := by
    by_cases listed : column.name ∈ Label.ofTexts columns
    · simp [recount, listed, Attribute.withValueCount]
    · simp [recount, listed]
  calc
    (relation.pin columns).lookup? name
      = (relation.attributes.map recount).find? fun column => column.name == (name : Label) := rfl
    _ = (relation.lookup? name).map recount := by
        rw [List.find?_map, lookup?]
        congr 2
        funext column
        simp only [Function.comp_apply, keeps]
    _ = _ := by
        apply Option.map_congr
        intro column found
        have named : column.name = name := (lookup?_eq_some_iff.mp found).named
        simp only [recount, named, List.contains_eq_mem, Label.mem_ofTexts, decide_eq_true_eq]

theorem leadingCount_pin (relation : Relation) (columns : List String) (name : String) :
    (relation.pin columns).leadingCount name =
      if name ∈ columns then 1 else relation.leadingCount name := by
  rw [leadingCount, lookup?_pin, leadingCount]
  cases relation.lookup? name with
  | none => simp
  | some column =>
      by_cases listed : name ∈ columns
      · simp [listed, Attribute.withValueCount]
      · simp [listed]

theorem pin_nil (relation : Relation) : relation.pin [] = relation := by
  apply Relation.eq_of_parts
  · simp [pin]
  · simp [pin, Label.ofTexts, overwriteCounts]

theorem pin_pin (relation : Relation) (first second : List String) :
    (relation.pin first).pin second = relation.pin (first ++ second) := by
  apply Relation.eq_of_parts
  · have product : (∏ name ∈ second.toFinset, (relation.pin first).leadingCount name) =
        ∏ name ∈ second.toFinset,
          if name ∈ first.toFinset then 1 else relation.leadingCount name := by
      simp only [leadingCount_pin, List.mem_toFinset]
    calc
      ((relation.pin first).pin second).tupleCount
        = relation.tupleCount / (∏ name ∈ first.toFinset, relation.leadingCount name) /
            ∏ name ∈ second.toFinset, (relation.pin first).leadingCount name := rfl
      _ = relation.tupleCount / ∏ name ∈ first.toFinset ∪ second.toFinset,
            relation.leadingCount name := by
          rw [product, Nat.div_div_eq_div_mul, prod_union_once]
      _ = (relation.pin (first ++ second)).tupleCount := by
          rw [← List.toFinset_append]
          rfl
  · have attributes := overwriteCounts_append (Label.ofTexts first) (Label.ofTexts second)
      Nat.one_pos relation.attributes
    rw [Label.ofTexts, Label.ofTexts, ← List.map_append] at attributes
    exact attributes

theorem pin_congr (same : ∀ name, name ∈ columns ↔ name ∈ others) :
    relation.pin columns = relation.pin others := by
  have names : columns.toFinset = others.toFinset := by
    ext name
    simp [same]
  apply Relation.eq_of_parts
  · simp only [pin, names]
  · apply List.map_congr_left
    intro column _
    have listed : column.name ∈ Label.ofTexts columns ↔ column.name ∈ Label.ofTexts others := by
      simp only [Label.ofTexts, List.mem_map, same]
    simp only [List.contains_eq_mem, listed]

/-- A relation that can be written can be written with one value in some columns. -/
theorem isWritable_pin (writable : relation.isWritable = true) (columns : List String) :
    (relation.pin columns).isWritable = true := by
  apply isWritable_of_bounded writable (Nat.div_le_self _ _)
  intro column member
  have recounts := overwriteCounts_recounts (Label.ofTexts columns) 1 Nat.one_pos
    relation.attributes
  obtain ⟨source, found, named, counted⟩ := recounts.mem_cases member
  refine ⟨source, found, named, ?_⟩
  by_cases listed : source.name ∈ Label.ofTexts columns
  · rw [counted, if_pos listed]
    exact source.valueCount_pos
  · rw [counted, if_neg listed]

theorem hasCompoundName_pin (relation : Relation) (columns : List String) :
    (relation.pin columns).hasCompoundName = relation.hasCompoundName :=
  hasCompoundName_congr (relation.attributeNames_pin columns)

theorem estimates_pin {input : Relation} {column : String}
    (occurs : (column : Label) ∈ input.attributeNames) (value : String) :
    Estimates (.select (some (.equalsValue column value))) [input] (input.pin [column]) := by
  rcases input.lacks_or_leads column with lacks | ⟨found, leads⟩
  · exact absurd occurs (lacks_iff.mp lacks)
  · refine .selectValue leads ?_ (overwriteCounts_recounts _ _ _ _)
    have count : input.leadingCount column = found.valueCount := by
      simp [leadingCount, lookup?_eq_some_iff.mpr leads]
    simp [pin, count]

end Relation

end Selectivity

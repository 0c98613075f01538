import Selectivity.Proofs.Statistics.Selections
import Selectivity.Proofs.Statistics.Sources

/-!
# Projections

A projection lists the carriers of each kept name, name by name. So the first carrier of a kept name
stays the first, and what is done to all carriers of a name can be done before or after. That makes
projections commute with selections whose attributes are kept, and a projection of a projection
without repetitions is a single one.
-/

namespace Selectivity

section Lists

variable {Item Image : Type} [DecidableEq Item] {items : List Item} {item : Item}

theorem flatMap_ite_of_nodup (distinct : items.Nodup) (item : Item) (images : List Image) :
    (items.flatMap fun other => if other = item then images else []) =
      if item ∈ items then images else [] := by
  induction items with
  | nil => rfl
  | cons first rest induction =>
      obtain ⟨absent, others⟩ := List.nodup_cons.mp distinct
      rw [List.flatMap_cons, induction others]
      by_cases same : first = item
      · subst same
        simp [absent]
      · simp [same, Ne.symm same]

theorem head?_flatMap_ite (listed : item ∈ items) (images : List Image) :
    (items.flatMap fun other => if other = item then images else []).head? = images.head? := by
  cases images with
  | nil => simp
  | cons image rest =>
      induction items with
      | nil => cases listed
      | cons first others induction =>
          by_cases same : first = item
          · simp [same]
          · rw [List.flatMap_cons, if_neg same, List.nil_append]
            exact induction ((List.mem_cons.mp listed).resolve_left (Ne.symm same))

end Lists

namespace Relation

variable {input : Relation} {kept : List String} {name : String}

/-- The attributes of a name, in their order. -/
def carriers (relation : Relation) (name : String) : List Attribute :=
  relation.attributes.filter fun column => column.name == (name : Label)

theorem project_attributes (input : Relation) (kept : List String) :
    (input.project kept).attributes = kept.flatMap input.carriers :=
  rfl

/-- Among the carriers of one name are all carriers of this name, and none of another one. -/
theorem filter_carriers (input : Relation) (other name : String) :
    ((input.carriers other).filter fun column => column.name == (name : Label)) =
      if other = name then input.carriers name else [] := by
  rw [carriers, List.filter_filter]
  by_cases same : other = name
  · subst same
    simp [carriers]
  · rw [if_neg same, List.filter_eq_nil_iff]
    intro column _ both
    rw [Bool.and_eq_true, beq_iff_eq, beq_iff_eq] at both
    exact same (Label.ofText_inj.mp (both.2.symm.trans both.1))

theorem lookup?_eq_head? (input : Relation) (name : String) :
    input.lookup? name = (input.carriers name).head? :=
  List.head?_filter.symm

theorem carriers_project (input : Relation) (kept : List String) (name : String) :
    (input.project kept).carriers name =
      kept.flatMap fun other => if other = name then input.carriers name else [] := by
  have each : ((input.project kept).carriers name) =
      kept.flatMap fun other => (input.carriers other).filter fun column =>
        column.name == (name : Label) := List.filter_flatMap
  rw [each]
  exact List.flatMap_congr fun other _ => filter_carriers input other name

theorem lookup?_project (listed : name ∈ kept) :
    (input.project kept).lookup? name = input.lookup? name := by
  rw [lookup?_eq_head?, lookup?_eq_head?, carriers_project]
  exact head?_flatMap_ite listed _

theorem estimates_project (input : Relation) (kept : List String) :
    Estimates (.project kept) [input] (input.project kept) :=
  .project rfl rfl

theorem isWritable_project (writable : input.isWritable = true) (kept : List String) :
    (input.project kept).isWritable = true :=
  (estimates_project input kept).isWritable rfl writable

theorem hasCompoundName_project (input : Relation) (kept : List String) :
    (input.project kept).hasCompoundName = false := by
  rw [hasCompoundName, List.any_eq_false]
  intro column member
  obtain ⟨name, -, found⟩ := List.mem_flatMap.mp member
  have called := eq_of_beq (List.mem_filter.mp found).2
  rw [called]
  exact nofun

end Relation

theorem flatMap_filter_eq {Item Image : Type} (items : List Item) (listed : Item → Bool)
    (images : Item → List Image) :
    (items.filter listed).flatMap images =
      items.flatMap fun item => if listed item then images item else [] := by
  induction items with
  | nil => rfl
  | cons first rest induction =>
      rw [List.flatMap_cons, ← induction]
      by_cases here : listed first
      · simp [here]
      · simp [here]

/-- A projection of a projection without repetitions keeps those of its names that are there. -/
theorem Relation.project_project {input : Relation} {first : List String}
    (distinct : first.Nodup) (second : List String) :
    (input.project first).project second =
      input.project (second.filter fun name => decide (name ∈ first)) := by
  apply Relation.eq_of_parts
  · rfl
  · rw [project_attributes, project_attributes, flatMap_filter_eq]
    apply List.flatMap_congr
    intro name _
    rw [carriers_project, flatMap_ite_of_nodup distinct]
    simp only [decide_eq_true_eq]

variable {input selected : Relation} {predicate : Predicate} {kept : List String}

theorem Relation.Leads.project {name : String} {column : Attribute}
    (leads : input.Leads name column) (listed : name ∈ kept) :
    (input.project kept).Leads name column := by
  rw [← lookup?_eq_some_iff] at leads ⊢
  rw [lookup?_project listed, leads]

theorem Relation.Lacks.project {name : String} (lacks : input.Lacks name) :
    (input.project kept).Lacks name := by
  intro column member
  obtain ⟨other, -, found⟩ := List.mem_flatMap.mp member
  exact lacks column (List.mem_filter.mp found).1

/-- Attributes that are counted anew are so in a projection, because they keep their names. -/
theorem Recounts.project {names : List Label} {count : Nat}
    (recounts : Recounts names count input.attributes selected.attributes) (kept : List String) :
    Recounts names count (input.project kept).attributes (selected.project kept).attributes := by
  have told (relation : Relation) (name : String) (image : Attribute → Label × Nat)
      (named : ∀ column, (image column).1 = column.name) :
      (relation.carriers name).map image =
        (relation.attributes.map image).filter fun pair => pair.1 == (name : Label) := by
    rw [Relation.carriers, List.filter_map]
    congr 2
    funext column
    exact congrArg (· == (name : Label)) (named column).symm
  rw [Recounts, Relation.project_attributes, Relation.project_attributes, List.map_flatMap,
    List.map_flatMap]
  apply List.flatMap_congr
  intro name _
  rw [told _ _ _ fun _ => rfl, told _ _ _ fun _ => rfl, recounts]

/-- A selection whose attributes are kept allows the projection of what it allowed before. -/
theorem Estimates.of_projection (estimates : Estimates (.select (some predicate)) [input] selected)
    (listed : ∀ name ∈ predicate.attributes, name ∈ kept) :
    Estimates (.select (some predicate)) [input.project kept] (selected.project kept) := by
  cases estimates with
  | @selectValue column value found _ _ leads tupleCount attributes =>
      have here : column ∈ kept := listed column List.mem_cons_self
      exact .selectValue (leads.project here) tupleCount (attributes.project kept)
  | @selectEqual condition first second _ _ left right equates =>
      have here : condition.left ∈ kept := listed _ List.mem_cons_self
      have there : condition.right ∈ kept := listed _ (List.mem_cons_of_mem _ List.mem_cons_self)
      exact .selectEqual (left.project here) (right.project there)
        ⟨equates.tupleCount, equates.attributes.project kept⟩

theorem Estimates.hasCompoundName_select
    (estimates : Estimates (.select (some predicate)) [input] selected) :
    selected.hasCompoundName = input.hasCompoundName := by
  apply Relation.hasCompoundName_congr
  cases estimates with
  | selectValue leads tupleCount attributes => exact attributes.names_eq
  | selectEqual left right equates => exact equates.attributes.names_eq

theorem Misses.of_projection {attributes : List String}
    (misses : Misses (.select (some predicate)) [input] attributes) (kept : List String) :
    attributes = predicate.attributes ∧
      Misses (.select (some predicate)) [input.project kept] predicate.attributes := by
  cases misses with
  | selectValue lacks => exact ⟨rfl, .selectValue lacks.project⟩
  | selectEqual lacks => exact ⟨rfl, .selectEqual (lacks.imp .project .project)⟩

end Selectivity

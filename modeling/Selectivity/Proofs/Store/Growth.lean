import Selectivity.Store.Basic

/-!
# Stores that grow

A store extends another one if it has everything that the other one has, under the same
references. Only an output that was not known can have been added to a node. All operations that
add things extend the store, and what they return is in use afterwards.
-/

namespace Selectivity.Store

/-- Everything in the first store is in the second one, as it was. -/
structure Extends (before after : Store) : Prop where
  attributes : ∀ ref column, before.attribute? ref = some column →
    after.attribute? ref = some column
  cells : ∀ ref cell, before.cell? ref = some cell → after.cell? ref = some cell
  nodes : ∀ ref node, before.node? ref = some node → after.node? ref = some node
  outputs : ∀ ref output, before.output? ref = some output →
    after.output? ref = some output
  catalogs : ∀ ref catalog, before.catalog? ref = some catalog →
    after.catalog? ref = some catalog

namespace Extends

theorem refl (store : Store) : Extends store store where
  attributes := fun _ _ found => found
  cells := fun _ _ found => found
  nodes := fun _ _ found => found
  outputs := fun _ _ found => found
  catalogs := fun _ _ found => found

theorem trans {first second third : Store}
    (earlier : Extends first second) (later : Extends second third) :
    Extends first third where
  attributes := fun ref column found =>
    later.attributes ref column (earlier.attributes ref column found)
  cells := fun ref cell found => later.cells ref cell (earlier.cells ref cell found)
  nodes := fun ref node found => later.nodes ref node (earlier.nodes ref node found)
  outputs := fun ref output found =>
    later.outputs ref output (earlier.outputs ref output found)
  catalogs := fun ref catalog found =>
    later.catalogs ref catalog (earlier.catalogs ref catalog found)

end Extends

theorem eq_none_of_kept {α β : Type} {first second : α → Option β} {key : α}
    (kept : ∀ key value, first key = some value → second key = some value)
    (missing : second key = none) : first key = none := by
  cases found : first key with
  | none => rfl
  | some value =>
      rw [kept key value found] at missing
      cases missing

private theorem getElem?_push_of_some {α : Type} {items : Array α} {index : Nat} {item : α}
    (added : α) (found : items[index]? = some item) :
    (items.push added)[index]? = some item := by
  have inside : index < items.size := (Array.getElem?_eq_some_iff.mp found).1
  rw [Array.getElem?_push, if_neg (Nat.ne_of_lt inside)]
  exact found

/-- What is found under some keys depends only on what each of them leads to. -/
theorem filterMap_eq_of_map_eq {α β γ : Type} {first : α → Option γ} {second : β → Option γ}
    {keys : List α} {others : List β} (same : keys.map first = others.map second) :
    keys.filterMap first = others.filterMap second :=
  calc
    keys.filterMap first = (keys.map first).filterMap id := by rw [List.filterMap_map]; rfl
    _ = (others.map second).filterMap id := by rw [same]
    _ = others.filterMap second := by rw [List.filterMap_map]; rfl

variable (store : Store)

theorem extends_addAttribute (column : Attribute) :
    Extends store (store.addAttribute column).1 :=
  { Extends.refl store with
    attributes := fun _ _ found => getElem?_push_of_some column found }

@[simp]
theorem attribute?_addAttribute (column : Attribute) :
    (store.addAttribute column).1.attribute? (store.addAttribute column).2 = some column :=
  Array.getElem?_push_size

theorem extends_addAttributes (columns : List Attribute) :
    Extends store (store.addAttributes columns).1 := by
  induction columns generalizing store with
  | nil => exact Extends.refl store
  | cons column rest induction =>
      exact (extends_addAttribute store column).trans (induction _)

theorem map_attribute?_addAttributes (columns : List Attribute) :
    (store.addAttributes columns).2.map (store.addAttributes columns).1.attribute? =
      columns.map some := by
  induction columns generalizing store with
  | nil => rfl
  | cons column rest induction =>
      have kept := (extends_addAttributes (store.addAttribute column).1 rest).attributes _ _
        (attribute?_addAttribute store column)
      rw [addAttributes, List.map_cons, List.map_cons]
      exact congr (congrArg List.cons kept) (induction _)

theorem attribute?_of_mem_addAttributes (columns : List Attribute) {name : AttributeRef}
    (member : name ∈ (store.addAttributes columns).2) :
    ∃ column, (store.addAttributes columns).1.attribute? name = some column := by
  have image : (store.addAttributes columns).1.attribute? name ∈ columns.map some := by
    rw [← map_attribute?_addAttributes]
    exact List.mem_map_of_mem member
  obtain ⟨column, -, same⟩ := List.mem_map.mp image
  exact ⟨column, same.symm⟩

theorem extends_addCell (cell : RelationCell) : Extends store (store.addCell cell).1 :=
  { Extends.refl store with
    cells := fun _ _ found => getElem?_push_of_some cell found }

@[simp]
theorem cell?_addCell (cell : RelationCell) :
    (store.addCell cell).1.cell? (store.addCell cell).2 = some cell :=
  Array.getElem?_push_size

theorem extends_addRelation (relation : Relation) :
    Extends store (store.addRelation relation).1 :=
  (extends_addAttributes store relation.attributes).trans (extends_addCell _ _)

@[simp]
theorem relation_addRelation (relation : Relation) :
    (store.addRelation relation).1.relation (store.addRelation relation).2 = relation := by
  have columns := (filterMap_eq_of_map_eq
    (map_attribute?_addAttributes store relation.attributes)).trans List.filterMap_some
  have cell : (store.addRelation relation).1.cell? (store.addRelation relation).2 =
      some ⟨relation.tupleCount, (store.addAttributes relation.attributes).2⟩ :=
    cell?_addCell _ _
  rw [Store.relation, cell]
  exact congrArg (Relation.mk relation.tupleCount) columns

theorem nodes_addAttributes (columns : List Attribute) :
    (store.addAttributes columns).1.nodes = store.nodes := by
  induction columns generalizing store with
  | nil => rfl
  | cons column rest induction => exact induction (store.addAttribute column).1

theorem nodes_addRelation (relation : Relation) :
    (store.addRelation relation).1.nodes = store.nodes :=
  nodes_addAttributes store relation.attributes

@[simp]
theorem output?_addRelation (relation : Relation) (ref : NodeRef) :
    (store.addRelation relation).1.output? ref = store.output? ref := by
  rw [output?, output?, nodes_addRelation]

theorem extends_addNode (operator : Operator RelationRef) (inputs : List Node) :
    Extends store (store.addNode operator inputs).1 :=
  { Extends.refl store with
    nodes := by
      intro ref node found
      obtain ⟨cell, here, same⟩ := Option.map_eq_some_iff.mp found
      exact Option.map_eq_some_iff.mpr ⟨cell, getElem?_push_of_some _ here, same⟩
    outputs := by
      intro ref output found
      obtain ⟨cell, here, same⟩ := Option.bind_eq_some_iff.mp found
      exact Option.bind_eq_some_iff.mpr ⟨cell, getElem?_push_of_some _ here, same⟩ }

theorem node?_addNode (operator : Operator RelationRef) (inputs : List Node) :
    (store.addNode operator inputs).1.node? (store.addNode operator inputs).2.ref =
      some (store.addNode operator inputs).2 :=
  congrArg (Option.map NodeCell.node) Array.getElem?_push_size

@[simp]
theorem output?_addNode (operator : Operator RelationRef) (inputs : List Node)
    (ref : NodeRef) : (store.addNode operator inputs).1.output? ref = store.output? ref := by
  simp only [output?, addNode, Array.getElem?_push]
  split
  · next last =>
      rw [last, Array.getElem?_eq_none (Nat.le_refl _)]
      rfl
  · rfl

@[simp]
theorem node?_setOutput (ref other : NodeRef) (output : RelationRef) :
    (store.setOutput ref output).node? other = store.node? other := by
  simp only [node?, setOutput, Array.getElem?_modify]
  split
  · rw [Option.map_map]
    rfl
  · rfl

theorem output?_setOutput_of_ne {ref other : NodeRef} (output : RelationRef)
    (different : other ≠ ref) :
    (store.setOutput ref output).output? other = store.output? other := by
  have apart : ref.index ≠ other.index := by
    intro same
    exact different (congrArg NodeRef.mk same.symm)
  simp only [output?, setOutput, Array.getElem?_modify, if_neg apart]

theorem output?_setOutput_self {ref : NodeRef} {node : Node} (output : RelationRef)
    (stored : store.node? ref = some node) :
    (store.setOutput ref output).output? ref = some output := by
  obtain ⟨cell, here, -⟩ := Option.map_eq_some_iff.mp stored
  simp only [output?, setOutput, Array.getElem?_modify, if_true, here, Option.map_some,
    Option.bind_some]

theorem extends_setOutput {ref : NodeRef} (output : RelationRef)
    (unknown : store.output? ref = none) :
    Extends store (store.setOutput ref output) :=
  { Extends.refl store with
    nodes := by
      intro other node found
      rw [node?_setOutput]
      exact found
    outputs := by
      intro other known found
      have different : other ≠ ref := by
        rintro rfl
        rw [unknown] at found
        cases found
      rw [output?_setOutput_of_ne store output different]
      exact found }

@[simp]
theorem node?_fill (ref other : NodeRef) (output : Relation) :
    (store.fill ref output).node? other = store.node? other := by
  rw [fill, node?_setOutput, node?, node?, nodes_addRelation]

theorem output?_fill_of_ne {ref other : NodeRef} (output : Relation)
    (different : other ≠ ref) :
    (store.fill ref output).output? other = store.output? other := by
  rw [fill, output?_setOutput_of_ne _ _ different, output?_addRelation]

theorem outputRelation?_fill_self {ref : NodeRef} {node : Node} (output : Relation)
    (stored : store.node? ref = some node) :
    (store.fill ref output).outputRelation? ref = some output := by
  have kept := (extends_addRelation store output).nodes ref node stored
  rw [outputRelation?, fill, output?_setOutput_self _ _ kept, Option.map_some]
  exact congrArg some (relation_addRelation store output)

theorem extends_fill {ref : NodeRef} (output : Relation)
    (unknown : store.output? ref = none) :
    Extends store (store.fill ref output) := by
  refine (extends_addRelation store output).trans (extends_setOutput _ _ ?_)
  rw [output?_addRelation]
  exact unknown

theorem extends_addCatalog (catalog : Catalog RelationRef) :
    Extends store (store.addCatalog catalog).1 :=
  { Extends.refl store with
    catalogs := fun _ _ found => getElem?_push_of_some catalog found }

theorem extends_addEntries (entries : List (String × Relation)) :
    Extends store (store.addEntries entries).1 := by
  induction entries generalizing store with
  | nil => exact Extends.refl store
  | cons entry rest induction =>
      exact (extends_addRelation store entry.2).trans (induction _)

end Selectivity.Store

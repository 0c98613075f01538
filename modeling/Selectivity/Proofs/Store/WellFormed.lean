import Selectivity.Proofs.Store.Growth

/-!
# Well-formed stores

In a well-formed store every reference that is kept anywhere is in use. A node stands under its own
reference, its inputs are the nodes under theirs, and they were made before it. All operations on
stores keep this.
-/

namespace Selectivity

namespace Store

/-- A relation is kept under the reference. -/
def Holds (store : Store) (ref : RelationRef) : Prop :=
  ∃ cell, store.cell? ref = some cell

/-- A node fits its place: its inputs are older nodes of the store, as many as its operator takes,
and a scanned relation is kept. -/
structure Placed (store : Store) (ref : NodeRef) (node : Node) : Prop where
  here : node.ref = ref
  older : ∀ input : Node, input ∈ node.children → input.ref.index < ref.index
  inputs : ∀ input : Node, input ∈ node.children → store.node? input.ref = some input
  arity : node.operator.accepts node.children.length = true
  base : ∀ name base, node.operator = .scan name base → store.Holds base

/-- Every reference in the store is in use. -/
structure WellFormed (store : Store) : Prop where
  columns : ∀ ref cell, store.cell? ref = some cell →
    ∀ column ∈ cell.attributes, ∃ found, store.attribute? column = some found
  nodes : ∀ ref node, store.node? ref = some node → store.Placed ref node
  outputs : ∀ ref output, store.output? ref = some output → store.Holds output
  catalogs : ∀ ref catalog, store.catalog? ref = some catalog →
    ∀ entry ∈ catalog.entries, store.Holds entry.2

variable {before after : Store}

theorem Holds.mono {ref : RelationRef} (extension : Extends before after)
    (held : before.Holds ref) : after.Holds ref := by
  obtain ⟨cell, found⟩ := held
  exact ⟨cell, extension.cells ref cell found⟩

/-- A node fits its place as long as its inputs and its base relation are kept. -/
theorem Placed.transfer {ref : NodeRef} {node : Node} (placed : before.Placed ref node)
    (nodes : ∀ ref node, before.node? ref = some node → after.node? ref = some node)
    (bases : ∀ base, before.Holds base → after.Holds base) : after.Placed ref node where
  here := placed.here
  older := placed.older
  inputs := fun input member => nodes input.ref input (placed.inputs input member)
  arity := placed.arity
  base := fun name base scan => bases base (placed.base name base scan)

theorem Placed.mono {ref : NodeRef} {node : Node} (extension : Extends before after)
    (placed : before.Placed ref node) : after.Placed ref node :=
  placed.transfer extension.nodes fun _ held => held.mono extension

/-- A relation of a well-formed store is the same in every store that extends it. -/
theorem relation_eq_of_extends {ref : RelationRef} (extension : Extends before after)
    (wellFormed : before.WellFormed) (held : before.Holds ref) :
    after.relation ref = before.relation ref := by
  obtain ⟨cell, found⟩ := held
  have columns : cell.attributes.filterMap after.attribute? =
      cell.attributes.filterMap before.attribute? := by
    apply filterMap_eq_of_map_eq
    apply List.map_congr_left
    intro name member
    obtain ⟨column, known⟩ := wellFormed.columns ref cell found name member
    rw [known, extension.attributes name column known]
  simp only [relation, found, extension.cells ref cell found, relationOf, columns]

/-- The statistics in a catalogue are the same in every store that extends a well-formed one. -/
theorem catalogRelations_eq_of_extends {ref : CatalogRef} {catalog : Catalog RelationRef}
    (extension : Extends before after) (wellFormed : before.WellFormed)
    (known : before.catalog? ref = some catalog) :
    after.catalogRelations catalog = before.catalogRelations catalog := by
  have entries : catalog.entries.map (fun entry => (entry.1, after.relation entry.2)) =
      catalog.entries.map fun entry => (entry.1, before.relation entry.2) := by
    apply List.map_congr_left
    rintro ⟨name, base⟩ member
    have held := wellFormed.catalogs ref catalog known (name, base) member
    exact congrArg (Prod.mk name) (relation_eq_of_extends extension wellFormed held)
  simp only [catalogRelations, Catalog.map, entries]

private theorem getElem?_modify_of_some {α : Type} {items : Array α} {index : Nat} {item : α}
    (place : Nat) (change : α → α) (found : items[index]? = some item) :
    ∃ changed, (items.modify place change)[index]? = some changed := by
  rw [Array.getElem?_modify, found]
  split
  · exact ⟨change item, rfl⟩
  · exact ⟨item, rfl⟩

private theorem getElem?_modify_cases {α : Type} {items : Array α} {index place : Nat}
    {change : α → α} {item : α} (found : (items.modify place change)[index]? = some item) :
    items[index]? = some item ∨
      ∃ old, items[index]? = some old ∧ change old = item := by
  rw [Array.getElem?_modify] at found
  split at found
  · obtain ⟨old, known, same⟩ := Option.map_eq_some_iff.mp found
    exact Or.inr ⟨old, known, same⟩
  · exact Or.inl found

theorem getElem?_push_cases {α : Type} {items : Array α} {index : Nat}
    {added item : α} (found : (items.push added)[index]? = some item) :
    items[index]? = some item ∨ index = items.size ∧ added = item := by
  rw [Array.getElem?_push] at found
  split at found
  · next last => exact Or.inr ⟨last, Option.some.inj found⟩
  · exact Or.inl found

namespace WellFormed

theorem empty : Store.empty.WellFormed where
  columns := by
    intro ref cell found
    simp [Store.empty, cell?] at found
  nodes := by
    intro ref node found
    simp [Store.empty, node?] at found
  outputs := by
    intro ref output found
    simp [Store.empty, output?] at found
  catalogs := by
    intro ref catalog found
    simp [Store.empty, catalog?] at found

variable {store : Store} (wellFormed : store.WellFormed)

include wellFormed

theorem addAttribute (column : Attribute) : (store.addAttribute column).1.WellFormed where
  columns := by
    intro ref cell found name member
    obtain ⟨present, known⟩ := wellFormed.columns ref cell found name member
    exact ⟨present, (extends_addAttribute store column).attributes name present known⟩
  nodes := fun ref node found =>
    (wellFormed.nodes ref node found).mono (extends_addAttribute store column)
  outputs := wellFormed.outputs
  catalogs := wellFormed.catalogs

theorem addAttributes (columns : List Attribute) :
    (store.addAttributes columns).1.WellFormed := by
  induction columns generalizing store with
  | nil => exact wellFormed
  | cons column rest induction => exact induction (wellFormed.addAttribute column)

theorem addCell {cell : RelationCell}
    (known : ∀ column ∈ cell.attributes, ∃ found, store.attribute? column = some found) :
    (store.addCell cell).1.WellFormed where
  columns := by
    intro ref other found
    rcases getElem?_push_cases found with old | ⟨-, rfl⟩
    · exact wellFormed.columns ref other old
    · exact known
  nodes := fun ref node found =>
    (wellFormed.nodes ref node found).mono (extends_addCell store cell)
  outputs := fun ref output found =>
    (wellFormed.outputs ref output found).mono (extends_addCell store cell)
  catalogs := fun ref catalog found entry member =>
    (wellFormed.catalogs ref catalog found entry member).mono (extends_addCell store cell)

theorem addRelation (relation : Relation) : (store.addRelation relation).1.WellFormed :=
  (wellFormed.addAttributes relation.attributes).addCell fun _ member =>
    attribute?_of_mem_addAttributes store relation.attributes member

theorem addNode {operator : Operator RelationRef} {inputs : List Node}
    (stored : ∀ input ∈ inputs, store.node? input.ref = some input)
    (arity : operator.accepts inputs.length = true)
    (base : ∀ name base, operator = .scan name base → store.Holds base) :
    (store.addNode operator inputs).1.WellFormed := by
  have extension := extends_addNode store operator inputs
  refine ⟨wellFormed.columns, ?_, ?_, wellFormed.catalogs⟩
  · intro ref node found
    obtain ⟨cell, here, rfl⟩ := Option.map_eq_some_iff.mp found
    rcases getElem?_push_cases here with old | ⟨last, rfl⟩
    · exact (wellFormed.nodes ref cell.node (Option.map_eq_some_iff.mpr ⟨cell, old, rfl⟩)).mono
        extension
    · refine ⟨congrArg NodeRef.mk last.symm, ?_, ?_, arity, base⟩
      · intro input member
        obtain ⟨cell, known, -⟩ := Option.map_eq_some_iff.mp (stored input member)
        rw [last]
        exact (Array.getElem?_eq_some_iff.mp known).1
      · exact fun input member => extension.nodes input.ref input (stored input member)
  · intro ref output found
    obtain ⟨cell, here, known⟩ := Option.bind_eq_some_iff.mp found
    rcases getElem?_push_cases here with old | ⟨-, rfl⟩
    · exact wellFormed.outputs ref output (Option.bind_eq_some_iff.mpr ⟨cell, old, known⟩)
    · cases known

theorem addCatalog {catalog : Catalog RelationRef}
    (held : ∀ entry ∈ catalog.entries, store.Holds entry.2) :
    (store.addCatalog catalog).1.WellFormed := by
  have extension := extends_addCatalog store catalog
  refine ⟨wellFormed.columns, fun ref node found => (wellFormed.nodes ref node found).mono extension,
    wellFormed.outputs, ?_⟩
  intro ref other found
  rcases getElem?_push_cases found with old | ⟨-, rfl⟩
  · exact wellFormed.catalogs ref other old
  · exact held

theorem addEntries (entries : List (String × Relation)) :
    (store.addEntries entries).1.WellFormed ∧
      ∀ entry ∈ (store.addEntries entries).2, (store.addEntries entries).1.Holds entry.2 := by
  induction entries generalizing store with
  | nil => exact ⟨wellFormed, fun _ member => absurd member List.not_mem_nil⟩
  | cons entry rest induction =>
      obtain ⟨sound, held⟩ := induction (wellFormed.addRelation entry.2)
      refine ⟨sound, ?_⟩
      intro other member
      rcases List.mem_cons.mp member with rfl | later
      · exact Holds.mono (extends_addEntries _ rest) ⟨_, cell?_addCell _ _⟩
      · exact held other later

theorem addStatistics (catalog : Catalog Relation) :
    (store.addStatistics catalog).1.WellFormed := by
  obtain ⟨sound, held⟩ := wellFormed.addEntries catalog.entries
  exact sound.addCatalog fun entry member => held entry (Entries.mem_of_mem_ofList member)

theorem replaceAttribute (ref : AttributeRef) (column : Attribute) :
    (store.replaceAttribute ref column).WellFormed where
  columns := by
    intro place cell found name member
    obtain ⟨present, known⟩ := wellFormed.columns place cell found name member
    obtain ⟨inside, -⟩ := Array.getElem?_eq_some_iff.mp known
    refine ⟨_, Array.getElem?_eq_getElem (?_ : name.index < _)⟩
    exact Nat.lt_of_lt_of_eq inside Array.size_setIfInBounds.symm
  nodes := fun place node found =>
    (wellFormed.nodes place node found).transfer (fun _ _ kept => kept) fun _ held => held
  outputs := wellFormed.outputs
  catalogs := wellFormed.catalogs

theorem appendAttribute {column : AttributeRef} {present : Attribute} (ref : RelationRef)
    (known : store.attribute? column = some present) :
    (store.appendAttribute ref column).WellFormed := by
  have bases : ∀ base, store.Holds base → (store.appendAttribute ref column).Holds base := by
    rintro base ⟨cell, found⟩
    exact getElem?_modify_of_some _ _ found
  refine ⟨?_, ?_, ?_, ?_⟩
  · intro place cell found name member
    rcases getElem?_modify_cases found with same | ⟨old, there, rfl⟩
    · exact wellFormed.columns place cell same name member
    · rcases List.mem_append.mp member with before | last
      · exact wellFormed.columns place old there name before
      · rw [List.mem_singleton.mp last]
        exact ⟨present, known⟩
  · exact fun place node found =>
      (wellFormed.nodes place node found).transfer (fun _ _ kept => kept) bases
  · exact fun place output found => bases output (wellFormed.outputs place output found)
  · exact fun place catalog found entry member =>
      bases entry.2 (wellFormed.catalogs place catalog found entry member)

theorem setOutput {output : RelationRef} (ref : NodeRef) (held : store.Holds output) :
    (store.setOutput ref output).WellFormed := by
  have nodes : ∀ place node, store.node? place = some node →
      (store.setOutput ref output).node? place = some node := by
    intro place node found
    rw [node?_setOutput]
    exact found
  refine ⟨wellFormed.columns, ?_, ?_, wellFormed.catalogs⟩
  · intro place node found
    rw [node?_setOutput] at found
    exact (wellFormed.nodes place node found).transfer nodes fun _ kept => kept
  · intro place known found
    obtain ⟨cell, here, said⟩ := Option.bind_eq_some_iff.mp found
    rcases getElem?_modify_cases here with same | ⟨old, there, rfl⟩
    · exact wellFormed.outputs place known (Option.bind_eq_some_iff.mpr ⟨cell, same, said⟩)
    · cases said
      exact held

theorem fill (ref : NodeRef) (output : Relation) : (store.fill ref output).WellFormed :=
  (wellFormed.addRelation output).setOutput ref ⟨_, cell?_addCell _ _⟩

theorem putRelation {relation : RelationRef} (ref : CatalogRef) (name : String)
    (held : store.Holds relation) : (store.putRelation ref name relation).WellFormed := by
  refine ⟨wellFormed.columns, fun place node found => ?_, wellFormed.outputs, ?_⟩
  · exact (wellFormed.nodes place node found).transfer (fun _ _ kept => kept) fun _ kept => kept
  · intro place catalog found entry member
    rcases getElem?_modify_cases found with same | ⟨old, there, rfl⟩
    · exact wellFormed.catalogs place catalog same entry member
    · rcases Entries.mem_put member with rfl | before
      · exact held
      · exact wellFormed.catalogs place old there entry before

end WellFormed

end Store

end Selectivity

import Selectivity.Proofs.Store.WellFormed

/-!
# Relations of their own

What is shared is changed for all that share it. A relation that a store keeps with new attributes
shares nothing: no attribute occurs in it twice, and none in another relation. It stays so while the
store only adds relations of this kind.
-/

namespace Selectivity.Store

/-- The relation is made of these attributes, each of which occurs in it once and in no other
relation. -/
structure Owns (store : Store) (ref : RelationRef) (columns : List AttributeRef) : Prop where
  here : ∃ count, store.cell? ref = some ⟨count, columns⟩
  once : columns.Nodup
  alone : ∀ other cell, other ≠ ref → store.cell? other = some cell →
    ∀ column ∈ columns, column ∉ cell.attributes

/-- Attributes, relations and nodes stay what they were, and relations that were added are made of
attributes that were added. -/
structure Adds (before after : Store) : Prop where
  attributes : ∀ ref column, before.attribute? ref = some column →
    after.attribute? ref = some column
  cells : ∀ ref cell, before.cell? ref = some cell → after.cell? ref = some cell
  nodes : ∀ ref node, before.node? ref = some node → after.node? ref = some node
  fresh : ∀ ref cell, before.cell? ref = none → after.cell? ref = some cell →
    ∀ column ∈ cell.attributes, before.attribute? column = none

variable {before middle after store : Store}

namespace Adds

theorem of_same (attributes : ∀ ref column, before.attribute? ref = some column →
      after.attribute? ref = some column)
    (relations : after.relations = before.relations)
    (nodes : ∀ ref node, before.node? ref = some node → after.node? ref = some node) :
    Adds before after := by
  have cells : ∀ ref, after.cell? ref = before.cell? ref := by
    intro ref
    rw [cell?, cell?, relations]
  refine ⟨attributes, ?_, nodes, ?_⟩
  · intro ref cell found
    rw [cells]
    exact found
  · intro ref cell unknown found
    rw [cells, unknown] at found
    cases found

theorem refl (store : Store) : Adds store store :=
  of_same (fun _ _ found => found) rfl fun _ _ found => found

theorem trans (earlier : Adds before middle) (later : Adds middle after) : Adds before after where
  attributes := fun ref column found =>
    later.attributes ref column (earlier.attributes ref column found)
  cells := fun ref cell found => later.cells ref cell (earlier.cells ref cell found)
  nodes := fun ref node found => later.nodes ref node (earlier.nodes ref node found)
  fresh := by
    intro ref cell unknown found column member
    cases between : middle.cell? ref with
    | some other =>
        have same := later.cells ref other between
        rw [found] at same
        cases same
        exact earlier.fresh ref cell unknown between column member
    | none =>
        apply eq_none_of_kept earlier.attributes
        exact later.fresh ref cell between found column member

end Adds

/-- New relations take nothing away from the attributes of a relation that was there. -/
theorem Owns.mono {ref : RelationRef} {columns : List AttributeRef} (owns : Owns before ref columns)
    (adds : Adds before after) (wellFormed : before.WellFormed) : Owns after ref columns := by
  obtain ⟨count, here⟩ := owns.here
  refine ⟨⟨count, adds.cells ref _ here⟩, owns.once, ?_⟩
  intro other cell different found column member within
  cases known : before.cell? other with
  | some old =>
      have same := adds.cells other old known
      rw [found] at same
      cases same
      exact owns.alone other cell different known column member within
  | none =>
      have unused := adds.fresh other cell known found column within
      obtain ⟨found, present⟩ := wellFormed.columns ref _ here column member
      rw [unused] at present
      cases present

theorem relations_addAttributes (store : Store) (columns : List Attribute) :
    (store.addAttributes columns).1.relations = store.relations := by
  induction columns generalizing store with
  | nil => rfl
  | cons column rest induction => exact induction (store.addAttribute column).1

theorem le_index_of_mem_addAttributes (store : Store) (columns : List Attribute) :
    ∀ column ∈ (store.addAttributes columns).2, store.attributes.size ≤ column.index := by
  induction columns generalizing store with
  | nil => exact nofun
  | cons first rest induction =>
      intro column member
      rcases List.mem_cons.mp member with rfl | later
      · exact Nat.le_refl _
      · have bound := induction (store.addAttribute first).1 column later
        have size : (store.addAttribute first).1.attributes.size = store.attributes.size + 1 :=
          Array.size_push first
        omega

theorem nodup_addAttributes (store : Store) (columns : List Attribute) :
    (store.addAttributes columns).2.Nodup := by
  induction columns generalizing store with
  | nil => exact List.nodup_nil
  | cons column rest induction =>
      apply List.nodup_cons.mpr
      constructor
      · intro member
        have bound := le_index_of_mem_addAttributes (store.addAttribute column).1 rest _ member
        have size : (store.addAttribute column).1.attributes.size = store.attributes.size + 1 :=
          Array.size_push column
        rw [size] at bound
        exact Nat.not_succ_le_self _ bound
      · exact induction (store.addAttribute column).1

theorem attribute?_eq_none_of_mem_addAttributes (store : Store) (columns : List Attribute) :
    ∀ column ∈ (store.addAttributes columns).2, store.attribute? column = none :=
  fun column member =>
    Array.getElem?_eq_none (le_index_of_mem_addAttributes store columns column member)

theorem cell?_addRelation_cases {relation : Relation} {ref : RelationRef} {cell : RelationCell}
    (found : (store.addRelation relation).1.cell? ref = some cell) :
    store.cell? ref = some cell ∨ ref = (store.addRelation relation).2 ∧
      cell = ⟨relation.tupleCount, (store.addAttributes relation.attributes).2⟩ := by
  have split := getElem?_push_cases found
  rw [relations_addAttributes] at split
  rcases split with old | ⟨last, same⟩
  · exact Or.inl old
  · right
    constructor
    · apply congrArg RelationRef.mk
      rw [relations_addAttributes]
      exact last
    · exact same.symm

theorem adds_addRelation (store : Store) (relation : Relation) :
    Adds store (store.addRelation relation).1 := by
  have extension := extends_addRelation store relation
  refine ⟨extension.attributes, extension.cells, extension.nodes, ?_⟩
  intro ref cell unknown found column member
  rcases cell?_addRelation_cases found with old | ⟨-, rfl⟩
  · rw [unknown] at old
    cases old
  · exact attribute?_eq_none_of_mem_addAttributes store relation.attributes column member

theorem adds_addEntries (store : Store) (entries : List (String × Relation)) :
    Adds store (store.addEntries entries).1 := by
  induction entries generalizing store with
  | nil => exact .refl store
  | cons entry rest induction => exact (adds_addRelation store entry.2).trans (induction _)

theorem owns_addRelation (wellFormed : store.WellFormed) (relation : Relation) :
    Owns (store.addRelation relation).1 (store.addRelation relation).2
      (store.addAttributes relation.attributes).2 := by
  refine ⟨⟨relation.tupleCount, cell?_addCell _ _⟩, nodup_addAttributes store _, ?_⟩
  intro other cell different found column member within
  rcases cell?_addRelation_cases found with old | ⟨same, -⟩
  · have unused := attribute?_eq_none_of_mem_addAttributes store relation.attributes column member
    obtain ⟨present, known⟩ := wellFormed.columns other cell old column within
    rw [unused] at known
    cases known
  · exact different same

theorem cell?_addRelation_eq_none (store : Store) (relation : Relation) :
    store.cell? (store.addRelation relation).2 = none := by
  apply Array.getElem?_eq_none
  apply Nat.le_of_eq
  exact (congrArg Array.size (relations_addAttributes store relation.attributes)).symm

/-- What has been added includes the outputs that have been said: each of them is a new relation
with attributes of its own. -/
structure Separates (before after : Store) : Prop extends Adds before after where
  known : ∀ ref output, before.output? ref = some output → after.output? ref = some output
  outputs : ∀ ref output, before.output? ref = none → after.output? ref = some output →
    before.cell? output = none ∧ ∃ own, Owns after output own

namespace Separates

theorem refl (store : Store) : Separates store store := by
  refine ⟨Adds.refl store, fun _ _ found => found, ?_⟩
  intro ref output unknown found
  rw [unknown] at found
  cases found

theorem trans (earlier : Separates before middle) (later : Separates middle after)
    (wellFormed : middle.WellFormed) : Separates before after := by
  refine ⟨earlier.toAdds.trans later.toAdds, ?_, ?_⟩
  · exact fun ref output found => later.known ref output (earlier.known ref output found)
  · intro ref output unknown found
    cases between : middle.output? ref with
    | some first =>
        have same := later.known ref first between
        rw [found] at same
        cases same
        obtain ⟨new, own, owns⟩ := earlier.outputs ref output unknown between
        exact ⟨new, own, owns.mono later.toAdds wellFormed⟩
    | none =>
        obtain ⟨new, owned⟩ := later.outputs ref output between found
        exact ⟨eq_none_of_kept earlier.cells new, owned⟩

theorem fill (wellFormed : store.WellFormed) {ref : NodeRef} {node : Node} (output : Relation)
    (stored : store.node? ref = some node) (unknown : store.output? ref = none) :
    Separates store (store.fill ref output) := by
  have extension := extends_fill store output unknown
  have adds := adds_addRelation store output
  refine ⟨⟨adds.attributes, adds.cells, extension.nodes, adds.fresh⟩, extension.outputs, ?_⟩
  intro other relation missing found
  by_cases same : other = ref
  · have kept := (extends_addRelation store output).nodes ref node stored
    rw [same, Store.fill, output?_setOutput_self _ _ kept] at found
    cases found
    have owns := owns_addRelation wellFormed output
    exact ⟨cell?_addRelation_eq_none store output, _, owns.here, owns.once, owns.alone⟩
  · rw [output?_fill_of_ne store output same, missing] at found
    cases found

end Separates

end Selectivity.Store

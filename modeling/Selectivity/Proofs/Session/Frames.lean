import Selectivity.Proofs.Catalog.Frames
import Selectivity.Proofs.Session.Catalogs
import Selectivity.Proofs.Store.Isolation

/-!
# Catalogues in tables

The table of a catalogue can be made a catalogue again. It has the same names and the same
statistics, and every attribute in it is a new one.
-/

namespace Selectivity

theorem Catalog.names_map {Base Other : Type} (image : Base → Other) (catalog : Catalog Base) :
    (catalog.map image).names = catalog.names := by
  rw [names, names, Entries.names, Entries.names, map, List.map_map]
  rfl

namespace Store

variable {store : Store} {entries : List (String × Relation)} {statistics : Catalog Relation}

theorem cell?_eq_none_of_mem_addEntries {entry : String × RelationRef}
    (member : entry ∈ (store.addEntries entries).2) : store.cell? entry.2 = none := by
  induction entries generalizing store with
  | nil => cases member
  | cons first rest induction =>
      rcases List.mem_cons.mp member with rfl | later
      · exact cell?_addRelation_eq_none store first.2
      · exact eq_none_of_kept (adds_addRelation store first.2).cells (induction later)

theorem extends_addStatistics (store : Store) (statistics : Catalog Relation) :
    Extends store (store.addStatistics statistics).1 :=
  (extends_addEntries store statistics.entries).trans (extends_addCatalog _ _)

theorem attribute?_eq_none_of_addStatistics {catalog : Catalog RelationRef}
    (found : (store.addStatistics statistics).1.catalog? (store.addStatistics statistics).2 =
      some catalog) {entry : String × RelationRef} (member : entry ∈ catalog.entries)
    {cell : RelationCell}
    (made : (store.addStatistics statistics).1.cell? entry.2 = some cell) :
    ∀ column ∈ cell.attributes, store.attribute? column = none := by
  have kept : (store.addStatistics statistics).1.catalog? (store.addStatistics statistics).2 =
      some (.ofList (store.addEntries statistics.entries).2) := Array.getElem?_push_size
  rw [found] at kept
  cases kept
  apply (adds_addEntries store statistics.entries).fresh entry.2 cell
  · exact cell?_eq_none_of_mem_addEntries (Entries.mem_of_mem_ofList member)
  · exact made

end Store

namespace Session

/-- Every catalogue with a relation can be written as a table, and the table is made the same
catalogue again: its relations have the same names in the same order and the same statistics, and
none of their attributes is in a relation of the old catalogue, which stays as it was. -/
theorem exported_table_imports {session : Session} (reachable : session.Reachable)
    {ref : CatalogRef} {catalog : Catalog RelationRef}
    (known : session.store.catalog? ref = some catalog) (nonempty : catalog.entries ≠ [])
    (named : (session.store.catalogRelations catalog).Named)
    (exact : (session.store.catalogRelations catalog).Exact) :
    let statistics := session.store.catalogRelations catalog
    let step := session.perform (.importFrame .standard statistics.frame)
    Frame.ofRows? statistics.rows = some statistics.frame ∧
      ∃ newRef copy, step.2 = .success (.catalog newRef) ∧
        step.1.store.catalog? newRef = some copy ∧ copy.names = catalog.names ∧
        step.1.store.catalogRelations copy = statistics ∧
        step.1.store.catalog? ref = some catalog ∧
        step.1.store.catalogRelations catalog = statistics ∧
        ∀ entry ∈ copy.entries, ∃ cell, step.1.store.cell? entry.2 = some cell ∧
          ∀ column ∈ cell.attributes, session.store.attribute? column = none ∧
            ∀ old ∈ catalog.entries, ∀ oldCell, step.1.store.cell? old.2 = some oldCell →
              column ∉ oldCell.attributes := by
  intro statistics step
  have wellFormed := reachable.store_wellFormed
  have filled : statistics.entries ≠ [] :=
    fun empty => nonempty (List.map_eq_nil_iff.mp empty)
  have read : Catalog.ofFrame .standard statistics.frame = .ok statistics :=
    Catalog.ofFrame_frame filled named exact
  have performed : step = session.done (session.store.addStatistics statistics).1
      (.catalog (session.store.addStatistics statistics).2) := by
    change session.keepStatistics (Catalog.ofFrame .standard statistics.frame) = _
    rw [read]
    rfl
  obtain ⟨copy, found, same⟩ := Store.catalogRelations_addStatistics wellFormed statistics
  have grown := Store.extends_addStatistics session.store statistics
  rw [performed]
  refine ⟨?_, _, copy, rfl, found, ?_, same, grown.catalogs ref catalog known, ?_, ?_⟩
  · rw [Catalog.frame_eq filled]
    exact Catalog.ofRows?_rows filled
  · rw [← Catalog.names_map (Store.relation _) copy]
    exact (congrArg Catalog.names same).trans (Catalog.names_map _ catalog)
  · exact Store.catalogRelations_eq_of_extends grown wellFormed known
  · intro entry member
    obtain ⟨cell, made⟩ := (wellFormed.addStatistics statistics).catalogs _ copy found entry member
    refine ⟨cell, made, fun column within => ?_⟩
    have unused := Store.attribute?_eq_none_of_addStatistics found member made column within
    refine ⟨unused, fun old stored oldCell here shared => ?_⟩
    -- the old relations are made of attributes that were known before
    obtain ⟨before, held⟩ := wellFormed.catalogs ref catalog known old stored
    have kept := grown.cells old.2 before held
    cases kept.symm.trans here
    obtain ⟨present, known⟩ := wellFormed.columns old.2 _ held column shared
    rw [unused] at known
    cases known

/-- A catalogue with one relation under two names, in which an attribute name is repeated, and with
a relation without attributes. -/
def calledTwice : Catalog RelationRef where
  entries := [("R", ⟨0⟩), ("", ⟨1⟩), ("S", ⟨0⟩)]
  distinct := by decide

def calledTwiceSession : Session :=
  initial.run [.makeAttribute "a" 3, .makeAttribute "a" 9007199254740992, .makeRelation 6 [⟨0⟩, ⟨1⟩],
    .makeRelation 0 [], .makeCatalog calledTwice.entries]

theorem calledTwice_imports :
    calledTwiceSession.Reachable ∧ calledTwiceSession.store.catalog? ⟨0⟩ = some calledTwice ∧
      calledTwice.entries ≠ [] ∧
      let statistics := calledTwiceSession.store.catalogRelations calledTwice
      statistics.Named ∧ statistics.Exact ∧
      let step := calledTwiceSession.perform (.importFrame .standard statistics.frame)
      ∃ newRef copy, step.2 = .success (.catalog newRef) ∧ copy.names = ["R", "", "S"] ∧
        step.1.store.catalogRelations copy = statistics := by
  have reachable : calledTwiceSession.Reachable := reachable_run _
  have known : calledTwiceSession.store.catalog? ⟨0⟩ = some calledTwice := rfl
  have nonempty : calledTwice.entries ≠ [] := List.cons_ne_nil _ _
  have large : ∀ column ∈ [Attribute.mk "a" 3 (by decide), ⟨"a", 2 ^ 53, by decide⟩],
      (∃ text : String, column.name = text) ∧ column.valueCount ≤ 2 ^ Binary64.precision := by
    refine List.forall_mem_cons.mpr ⟨⟨⟨"a", rfl⟩, by decide⟩, ?_⟩
    exact List.forall_mem_singleton.mpr ⟨⟨"a", rfl⟩, by decide⟩
  have named : (calledTwiceSession.store.catalogRelations calledTwice).Named := by
    refine List.forall_mem_cons.mpr ⟨fun column member => (large column member).1, ?_⟩
    refine List.forall_mem_cons.mpr ⟨List.forall_mem_nil _, ?_⟩
    exact List.forall_mem_singleton.mpr fun column member => (large column member).1
  have exact : (calledTwiceSession.store.catalogRelations calledTwice).Exact := by
    have small : 6 ≤ 2 ^ Binary64.precision := by decide
    refine List.forall_mem_cons.mpr ⟨⟨small, fun column member => (large column member).2⟩, ?_⟩
    refine List.forall_mem_cons.mpr ⟨⟨Nat.zero_le _, List.forall_mem_nil _⟩, ?_⟩
    exact List.forall_mem_singleton.mpr ⟨small, fun column member => (large column member).2⟩
  obtain ⟨-, newRef, copy, told, -, names, same, -⟩ :=
    exported_table_imports reachable known nonempty named exact
  exact ⟨reachable, known, nonempty, named, exact, newRef, copy, told, names, same⟩

end Session

end Selectivity

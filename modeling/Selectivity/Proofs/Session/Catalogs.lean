import Selectivity.Proofs.Catalog.Documents
import Selectivity.Proofs.Session.Reachable

/-!
# Catalogues in files

A catalogue that has been written to a JSON file can be loaded again, into any session, and is then
the same catalogue.
-/

namespace Selectivity

namespace Store

variable {store : Store}

theorem relations_addEntries (wellFormed : store.WellFormed) (entries : List (String × Relation)) :
    let added := store.addEntries entries
    added.2.map (fun (name, ref) => (name, added.1.relation ref)) = entries := by
  induction entries generalizing store with
  | nil => rfl
  | cons entry rest induction =>
      have first := wellFormed.addRelation entry.2
      have held : (store.addRelation entry.2).1.Holds (store.addRelation entry.2).2 :=
        ⟨_, cell?_addCell _ _⟩
      have kept := relation_eq_of_extends (extends_addEntries _ rest) first held
      rw [relation_addRelation] at kept
      exact congrArg₂ List.cons (Prod.ext rfl kept) (induction first)

theorem catalogRelations_addStatistics (wellFormed : store.WellFormed)
    (statistics : Catalog Relation) :
    ∃ catalog, (store.addStatistics statistics).1.catalog? (store.addStatistics statistics).2 =
        some catalog ∧
      (store.addStatistics statistics).1.catalogRelations catalog = statistics := by
  have relations := relations_addEntries wellFormed statistics.entries
  have distinct : (Entries.names (store.addEntries statistics.entries).2).Nodup := by
    have names := congrArg Entries.names relations
    rw [Entries.names, List.map_map] at names
    have unique := statistics.distinct
    rw [← names] at unique
    exact unique
  refine ⟨.ofList (store.addEntries statistics.entries).2, Array.getElem?_push_size, ?_⟩
  have listed : (Catalog.ofList (store.addEntries statistics.entries).2).entries =
      (store.addEntries statistics.entries).2 := Entries.ofList_of_distinct distinct
  obtain ⟨entries, unique⟩ := statistics
  rw [catalogRelations, Catalog.map, Catalog.mk.injEq, listed]
  exact relations

end Store

namespace Session

theorem keepStatistics_ok {session : Session} (wellFormed : session.store.WellFormed)
    (statistics : Catalog Relation) :
    let step := session.keepStatistics (.ok statistics)
    ∃ ref catalog, step.2 = .success (.catalog ref) ∧ step.1.store.catalog? ref = some catalog ∧
      step.1.store.catalogRelations catalog = statistics := by
  obtain ⟨catalog, known, same⟩ := Store.catalogRelations_addStatistics wellFormed statistics
  exact ⟨_, catalog, rfl, known, same⟩

theorem loadCatalog_of_read {session : Session} (wellFormed : session.store.WellFormed)
    {format : CatalogFormat} {files : Files} {path : String} {statistics : Catalog Relation}
    (read : Catalog.ofFile format files path = .ok statistics) :
    let step := session.perform (.loadCatalog format files path)
    ∃ ref catalog, step.2 = .success (.catalog ref) ∧
      step.1.store.catalog? ref = some catalog ∧
      step.1.store.catalogRelations catalog = statistics := by
  have performed : session.perform (.loadCatalog format files path) =
      session.keepStatistics (.ok statistics) := by
    rw [perform, read]
  intro step
  rw [show step = _ from performed]
  exact keepStatistics_ok wellFormed statistics

/-- Every catalogue whose columns are called by texts can be written as JSON, and a JSON file that
holds it in any layout is loaded as the same catalogue. Counts of any size are read if there is no
limit for their digits; with the limit of a session, counts are that can be written there. -/
theorem exported_catalog_loads {statistics : Catalog Relation} (named : statistics.Named) :
    ∃ document, statistics.document? = some document ∧
      ∀ (layout : Json.Layout) (files : Files) (path : String), pathFormat path = ".json" →
        files path = .ok (document.render layout) →
          Catalog.ofFileWithin none .bySuffix files path = .ok statistics ∧
            ∀ session : Session, session.Reachable →
              (∀ entry ∈ statistics.entries, entry.2.isWritable = true) →
                let step := session.perform (.loadCatalog .bySuffix files path)
                ∃ ref catalog, step.2 = .success (.catalog ref) ∧
                  step.1.store.catalog? ref = some catalog ∧
                  step.1.store.catalogRelations catalog = statistics := by
  refine ⟨statistics.document, named.document?_eq, ?_⟩
  intro layout files path suffix stored
  have loads : ∀ limit, statistics.Within limit →
      Catalog.ofFileWithin limit .bySuffix files path = .ok statistics :=
    fun limit within => Catalog.ofFileWithin_of_describedBy named
      statistics.describedBy_document suffix stored
      ((Catalog.exact_document named within).writesFile layout)
  refine ⟨loads none fun _ _ => ⟨rfl, fun _ _ => rfl⟩, fun session reachable writable => ?_⟩
  exact loadCatalog_of_read reachable.store_wellFormed
    (loads _ (Catalog.within_of_writable writable))

/-- A relation with two attributes of one name, and a large relation without attributes. -/
def repeatedName : Catalog Relation where
  entries := [("R", ⟨6, [⟨"a", 3, by decide⟩, ⟨"a", 2, by decide⟩]⟩),
    ("😀", ⟨Nat.pow 10 4000, []⟩)]
  distinct := by decide

theorem repeatedName_loads :
    repeatedName.Named ∧ ∃ document, repeatedName.document? = some document ∧
      let files : Files := fun _ => .ok (document.render ⟨some 2, true⟩)
      Catalog.ofFileWithin none .bySuffix files "names.JSON" = .ok repeatedName ∧
        ∃ ref catalog,
          (initial.perform (.loadCatalog .bySuffix files "names.JSON")).2 =
            .success (.catalog ref) ∧
          (initial.perform (.loadCatalog .bySuffix files "names.JSON")).1.store.catalogRelations
            catalog = repeatedName := by
  have named : repeatedName.Named := by
    refine List.forall_mem_cons.mpr ⟨?_, List.forall_mem_singleton.mpr nofun⟩
    exact List.forall_mem_cons.mpr ⟨⟨"a", rfl⟩, List.forall_mem_singleton.mpr ⟨"a", rfl⟩⟩
  have suffix : pathFormat "names.JSON" = ".json" := by decide +kernel
  have writable : ∀ entry ∈ repeatedName.entries, entry.2.isWritable = true := by decide +kernel
  obtain ⟨document, exported, loads⟩ := exported_catalog_loads named
  refine ⟨named, document, exported, ?_⟩
  intro files
  obtain ⟨read, loaded⟩ := loads ⟨some 2, true⟩ files "names.JSON" suffix rfl
  obtain ⟨ref, catalog, told, -, same⟩ := loaded initial (reachable_run []) writable
  exact ⟨read, ref, catalog, told, same⟩

end Session

end Selectivity

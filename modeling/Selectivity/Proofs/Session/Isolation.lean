import Selectivity.Proofs.Session.Effects
import Selectivity.Proofs.Session.Questions

/-!
# Estimation isolates statistics

However attributes are shared in a session, an estimation changes none of them, and what it puts
out shares nothing. So an output stays what it is whatever happens to other things, a change to it
touches no other relation unless its attributes have been given away, and queries that use one
catalogue do not get into each other's way.
-/

namespace Selectivity.Session

variable {session : Session}

theorem run_wellFormed (wellFormed : session.store.WellFormed) (operations : List Operation) :
    (session.run operations).store.WellFormed := by
  induction operations generalizing session with
  | nil => exact wellFormed
  | cons operation rest induction => exact induction (perform_wellFormed wellFormed operation)

theorem run_spared (wellFormed : session.store.WellFormed) {ref : RelationRef} {cell : RelationCell}
    (found : session.store.cell? ref = some cell) {operations : List Operation}
    (spares : ∀ operation ∈ operations, operation.Spares ref cell.attributes) :
    (session.run operations).store.relation ref = session.store.relation ref := by
  induction operations generalizing session with
  | nil => rfl
  | cons operation rest induction =>
      have effect := perform_effect wellFormed operation
      obtain ⟨kept, same⟩ := effect.spared wellFormed found (spares operation List.mem_cons_self)
      have later := induction (perform_wellFormed wellFormed operation) kept
        fun other member => spares other (List.mem_cons_of_mem operation member)
      exact later.trans same

theorem run_alone (wellFormed : session.store.WellFormed) {ref : RelationRef}
    {columns : List AttributeRef}
    (known : ∀ column ∈ columns, ∃ found, session.store.attribute? column = some found)
    (alone : ∀ other cell, other ≠ ref → session.store.cell? other = some cell →
      ∀ column ∈ columns, column ∉ cell.attributes)
    {operations : List Operation}
    (unshared : ∀ operation ∈ operations, ¬ operation.Shares ref columns) :
    ∀ other cell, other ≠ ref → (session.run operations).store.cell? other = some cell →
      ∀ column ∈ columns, column ∉ cell.attributes := by
  induction operations generalizing session with
  | nil => exact alone
  | cons operation rest induction =>
      have effect := perform_effect wellFormed operation
      have here := unshared operation List.mem_cons_self
      apply induction (perform_wellFormed wellFormed operation)
      · exact fun column member => effect.attribute_stays (known column member)
      · exact effect.alone known alone here
      · exact fun other member => unshared other (List.mem_cons_of_mem operation member)

theorem perform_estimate_separates (wellFormed : session.store.WellFormed) (ref : NodeRef)
    (verbose : Bool) :
    session.store.Separates (session.perform (.estimate ref verbose)).1.store := by
  rw [perform]
  cases found : session.store.node? ref with
  | none => exact .refl _
  | some node =>
      rw [ifKnown, estimate]
      split
      · exact .refl _
      · next pending =>
          have unknown := Option.not_isSome_iff_eq_none.mp pending
          exact wellFormed.separates_estimateNode (node?_ref wellFormed found) unknown

/-- An estimation changes no attribute and no relation. Each output that it says is a new relation
made of new attributes, which are in no other relation; it stays what it is as long as nobody
changes it or one of these attributes, and a change that is confined to it changes no other
relation. One query after the other gets the answer that it would have got first. -/
theorem estimation_isolates (reachable : session.Reachable) :
    (∀ ref verbose,
      let after := (session.perform (.estimate ref verbose)).1
      (∀ column found, session.store.attribute? column = some found →
        after.store.attribute? column = some found) ∧
      (∀ relation cell, session.store.cell? relation = some cell →
        after.store.cell? relation = some cell) ∧
      ∀ node output, session.store.output? node = none → after.store.output? node = some output →
        session.store.cell? output = none ∧
        ∃ own, after.store.Owns output own ∧
          (∀ column ∈ own, session.store.attribute? column = none) ∧
          (∀ operations : List Operation, (∀ operation ∈ operations, operation.Spares output own) →
            (after.run operations).store.relation output = after.store.relation output) ∧
          (∀ operations : List Operation,
            (∀ operation ∈ operations, ¬ operation.Shares output own) →
            ∀ other cell, other ≠ output → (after.run operations).store.cell? other = some cell →
              ∀ column ∈ own, column ∉ cell.attributes) ∧
          ∀ operations change,
            let later := after.run operations
            Operation.Confined later.store output change →
            ∀ other cell, other ≠ output → later.store.cell? other = some cell →
              (later.perform change).1.store.relation other = later.store.relation other) ∧
    ∀ ref catalog, session.store.catalog? ref = some catalog → ∀ questions,
      let later := session.askAll ref questions
      later.store.catalog? ref = some catalog ∧
        later.store.catalogRelations catalog = session.store.catalogRelations catalog ∧
        ∀ question, (later.ask ref question).2 = (session.ask ref question).2 := by
  have wellFormed := reachable.store_wellFormed
  constructor
  · intro ref verbose after
    have separates := perform_estimate_separates wellFormed ref verbose
    have settled : after.store.WellFormed := perform_wellFormed wellFormed _
    refine ⟨separates.attributes, separates.cells, ?_⟩
    intro node output unknown said
    obtain ⟨new, own, owns⟩ := separates.outputs node output unknown said
    obtain ⟨count, here⟩ := owns.here
    have known : ∀ column ∈ own, ∃ found, after.store.attribute? column = some found :=
      settled.columns output _ here
    refine ⟨new, own, owns, ?_, ?_, ?_, ?_⟩
    · exact separates.fresh output _ new here
    · intro operations spares
      exact run_spared settled here spares
    · intro operations unshared
      exact run_alone settled known owns.alone unshared
    · intro operations change later confined other cell different found
      have sound : later.store.WellFormed := run_wellFormed settled operations
      exact (perform_effect sound change).confined sound confined different found
  · intro ref catalog known questions later
    have continues : session.Continues later := askAll_continues wellFormed known questions
    refine ⟨continues.extension.catalogs ref catalog known, ?_, ?_⟩
    · exact Store.catalogRelations_eq_of_extends continues.extension wellFormed known
    · exact ask_later wellFormed continues known

/-- The shared scan beside a catalogue that knows its base relation. -/
def sharedCatalog : Session :=
  (sharedScan.perform (.makeCatalog [("R", ⟨0⟩)])).1

/-- A selection of all tuples with one value. -/
def valueQuestion : Question :=
  ⟨none, false, false, .stream "SELECT *\nFROM R\nWHERE a=\"x\""⟩

/-- A join of the relation with itself. -/
def joinQuestion : Question :=
  ⟨some true, false, true, .stream "SELECT a\nFROM R\nJOIN R ON a=a"⟩

/-- The output of a selection over a shared scan survives changes of the base relation and of the
output of the scan. A query that follows two others gets the answer that it gets alone. -/
theorem sharedSelection_isolated :
    sharedScan.Reachable ∧ sharedCatalog.Reachable ∧
      (let after := (sharedScan.perform (.estimate ⟨2⟩ false)).1
      after.store.output? ⟨2⟩ = some ⟨3⟩ ∧ after.store.Owns ⟨3⟩ [⟨4⟩, ⟨5⟩] ∧
        (after.run [.assignCount ⟨0⟩ 9, .assignCount ⟨1⟩ 5, .appendAttribute ⟨1⟩ ⟨0⟩]).store.relation
          ⟨3⟩ = after.store.relation ⟨3⟩) ∧
      sharedCatalog.store.catalog? ⟨0⟩ = some (.ofList [("R", ⟨0⟩)]) ∧
      (sharedCatalog.ask ⟨0⟩ valueQuestion).2.fault = none ∧
      ((sharedCatalog.askAll ⟨0⟩ [valueQuestion, joinQuestion]).ask ⟨0⟩ valueQuestion).2 =
        (sharedCatalog.ask ⟨0⟩ valueQuestion).2 := by
  have reachable : sharedScan.Reachable := reachable_run _
  have catalogued : sharedCatalog.Reachable := reachable.perform _
  have known : sharedCatalog.store.catalog? ⟨0⟩ = some (.ofList [("R", ⟨0⟩)]) := rfl
  have unknown : sharedScan.store.output? ⟨2⟩ = none := rfl
  have said : (sharedScan.perform (.estimate ⟨2⟩ false)).1.store.output? ⟨2⟩ = some ⟨3⟩ := by
    decide +kernel
  have cell : ((sharedScan.perform (.estimate ⟨2⟩ false)).1.store.cell? ⟨3⟩).map
      RelationCell.attributes = some [⟨4⟩, ⟨5⟩] := by decide +kernel
  obtain ⟨-, -, outputs⟩ := (estimation_isolates reachable).1 ⟨2⟩ false
  obtain ⟨-, -, asked⟩ := (estimation_isolates catalogued).2 ⟨0⟩ _ known
    [valueQuestion, joinQuestion]
  obtain ⟨-, own, owns, -, spared, -⟩ := outputs ⟨2⟩ ⟨3⟩ unknown said
  obtain ⟨count, here⟩ := owns.here
  rw [here] at cell
  cases cell
  refine ⟨reachable, catalogued, ⟨said, owns, ?_⟩, known, by decide +kernel, asked valueQuestion⟩
  apply spared
  intro operation member
  simp only [List.mem_cons, List.not_mem_nil, or_false] at member
  rcases member with rfl | rfl | rfl
  · exact (by decide : (⟨0⟩ : AttributeRef) ∉ [⟨4⟩, ⟨5⟩])
  · exact (by decide : (⟨1⟩ : AttributeRef) ∉ [⟨4⟩, ⟨5⟩])
  · exact (by decide : (⟨1⟩ : RelationRef) ≠ ⟨3⟩)

end Selectivity.Session

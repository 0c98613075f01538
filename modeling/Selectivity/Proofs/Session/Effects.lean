import Selectivity.Proofs.Estimation.Filling
import Selectivity.Proofs.Session.Reachable

/-!
# What an operation changes

Most operations only add things. An operation that changes something that is there assigns the count
of one attribute or appends an attribute to one relation, and only a relation that is made of given
attributes shares them from the start. So whatever an operation does not name stays as it is.
-/

namespace Selectivity

/-- What an operation can do to a store. -/
inductive Effect (before : Store) : Operation → Store → Prop where
  | adds {operation : Operation} {after : Store} (adds : before.Adds after) :
      Effect before operation after
  | assigns (ref : AttributeRef) (count : Int) (changed : Attribute) :
      Effect before (.assignCount ref count) (before.replaceAttribute ref changed)
  | relates (tupleCount : Int) (count : Nat) (columns : List AttributeRef) :
      Effect before (.makeRelation tupleCount columns) (before.addCell ⟨count, columns⟩).1
  | appends (ref : RelationRef) (column : AttributeRef) :
      Effect before (.appendAttribute ref column) (before.appendAttribute ref column)

/-- The operation changes neither a relation of these attributes nor one of them. -/
def Operation.Spares (ref : RelationRef) (columns : List AttributeRef) : Operation → Prop
  | .assignCount column _ => column ∉ columns
  | .appendAttribute relation _ => relation ≠ ref
  | _ => True

/-- The operation puts one of these attributes into a relation other than their own. -/
def Operation.Shares (ref : RelationRef) (columns : List AttributeRef) : Operation → Prop
  | .makeRelation _ others => ∃ column ∈ columns, column ∈ others
  | .appendAttribute relation column => relation ≠ ref ∧ column ∈ columns
  | _ => False

/-- A change of a relation: its list of attributes gets longer, or an attribute that is in no other
relation gets another count. -/
inductive Operation.Confined (store : Store) (ref : RelationRef) : Operation → Prop where
  | assign {column : AttributeRef} (count : Int)
      (alone : ∀ other cell, other ≠ ref → store.cell? other = some cell →
        column ∉ cell.attributes) :
      Confined store ref (.assignCount column count)
  | append (column : AttributeRef) : Confined store ref (.appendAttribute ref column)

namespace Effect

variable {before after : Store} {operation : Operation} {ref : RelationRef}

theorem node? (effect : Effect before operation after) {place : NodeRef} {node : Node}
    (stored : before.node? place = some node) : after.node? place = some node := by
  cases effect with
  | adds adds => exact adds.nodes place node stored
  | assigns => exact stored
  | relates => exact stored
  | appends => exact stored

theorem spared (effect : Effect before operation after) (wellFormed : before.WellFormed)
    {cell : RelationCell} (found : before.cell? ref = some cell)
    (spares : operation.Spares ref cell.attributes) :
    after.cell? ref = some cell ∧ after.relation ref = before.relation ref := by
  have unchanged : after.cell? ref = some cell → (∀ column ∈ cell.attributes,
      after.attribute? column = before.attribute? column) →
      after.cell? ref = some cell ∧ after.relation ref = before.relation ref := by
    intro kept same
    refine ⟨kept, ?_⟩
    have columns := Store.filterMap_eq_of_map_eq (List.map_congr_left same)
    simp only [Store.relation, found, kept, Store.relationOf, columns]
  cases effect with
  | adds adds =>
      apply unchanged (adds.cells ref cell found)
      intro column member
      obtain ⟨present, known⟩ := wellFormed.columns ref cell found column member
      rw [known, adds.attributes column present known]
  | assigns place count changed =>
      apply unchanged found
      intro column member
      have apart : place.index ≠ column.index := by
        intro same
        have equal : place = column := congrArg AttributeRef.mk same
        rw [← equal] at member
        exact spares member
      exact Array.getElem?_setIfInBounds_ne apart
  | relates tupleCount count columns =>
      apply unchanged ((Store.extends_addCell before _).cells ref cell found)
      exact fun column _ => rfl
  | appends relation column =>
      have apart : relation.index ≠ ref.index := fun same => spares (congrArg RelationRef.mk same)
      have kept : (before.appendAttribute relation column).cell? ref = some cell := by
        rw [← found]
        simp only [Store.cell?, Store.appendAttribute, Array.getElem?_modify, if_neg apart]
      exact unchanged kept fun column _ => rfl

/-- Attributes that are in no other relation stay so until they are shared. -/
theorem alone {columns : List AttributeRef} (effect : Effect before operation after)
    (known : ∀ column ∈ columns, ∃ found, before.attribute? column = some found)
    (alone : ∀ other cell, other ≠ ref → before.cell? other = some cell →
      ∀ column ∈ columns, column ∉ cell.attributes)
    (unshared : ¬ operation.Shares ref columns) :
    ∀ other cell, other ≠ ref → after.cell? other = some cell →
      ∀ column ∈ columns, column ∉ cell.attributes := by
  intro other cell different found column member within
  cases effect with
  | adds adds =>
      cases there : before.cell? other with
      | some old =>
          have same := adds.cells other old there
          rw [found] at same
          cases same
          exact alone other cell different there column member within
      | none =>
          obtain ⟨present, here⟩ := known column member
          rw [adds.fresh other cell there found column within] at here
          cases here
  | assigns => exact alone other cell different found column member within
  | relates tupleCount count others =>
      rcases Store.getElem?_push_cases found with old | ⟨-, rfl⟩
      · exact alone other cell different old column member within
      · exact unshared ⟨column, member, within⟩
  | appends relation added =>
      by_cases same : relation = other
      · have place : relation.index = other.index := congrArg RelationRef.index same
        simp only [Store.cell?, Store.appendAttribute, Array.getElem?_modify, place, if_true] at found
        obtain ⟨old, there, rfl⟩ := Option.map_eq_some_iff.mp found
        rcases List.mem_append.mp within with early | last
        · exact alone other old different there column member early
        · rw [List.mem_singleton.mp last] at member
          exact unshared ⟨same ▸ different, member⟩
      · have apart : relation.index ≠ other.index := fun place => same (congrArg RelationRef.mk place)
        simp only [Store.cell?, Store.appendAttribute, Array.getElem?_modify, if_neg apart] at found
        exact alone other cell different found column member within

theorem attribute_stays (effect : Effect before operation after) {column : AttributeRef}
    (known : ∃ found, before.attribute? column = some found) :
    ∃ found, after.attribute? column = some found := by
  obtain ⟨found, here⟩ := known
  cases effect with
  | adds adds => exact ⟨found, adds.attributes column found here⟩
  | assigns place count changed =>
      obtain ⟨inside, -⟩ := Array.getElem?_eq_some_iff.mp here
      apply Option.isSome_iff_exists.mp
      simp only [Store.attribute?, Store.replaceAttribute, isSome_getElem?, Array.size_setIfInBounds]
      exact inside
  | relates => exact ⟨found, here⟩
  | appends => exact ⟨found, here⟩

/-- A change that is confined to a relation changes no other one. -/
theorem confined (effect : Effect before operation after) (wellFormed : before.WellFormed)
    (confined : operation.Confined before ref) {other : RelationRef} {cell : RelationCell}
    (different : other ≠ ref) (found : before.cell? other = some cell) :
    after.relation other = before.relation other := by
  apply (effect.spared wellFormed found _).2
  cases confined with
  | assign count alone => exact alone other cell different found
  | append column => exact different.symm

end Effect

namespace Session

variable {session : Session} {operation : Operation}

theorem ifKnown_effect {Found : Type} {found : Option Found} {go : Found → Session × Report}
    (effect : ∀ value, found = some value → Effect session.store operation (go value).1.store) :
    Effect session.store operation (session.ifKnown found go).1.store := by
  cases found with
  | none => exact .adds (.refl _)
  | some value => exact effect value rfl

theorem keepAttribute_adds (made : Except StatisticFault Attribute) :
    session.store.Adds (session.keepAttribute made).1.store := by
  cases made with
  | error fault => exact .refl _
  | ok column =>
      have extension := Store.extends_addAttribute session.store column
      exact .of_same extension.attributes rfl extension.nodes

theorem adds_addNode (store : Store) (operator : Operator RelationRef) (inputs : List Node) :
    store.Adds (store.addNode operator inputs).1 :=
  .of_same (fun _ _ found => found) rfl (Store.extends_addNode store operator inputs).nodes

theorem keepStatistics_adds (read : Except CatalogFault (Catalog Relation)) :
    session.store.Adds (session.keepStatistics read).1.store := by
  cases read with
  | error fault => exact .refl _
  | ok catalog =>
      have entries := Store.adds_addEntries session.store catalog.entries
      exact entries.trans (.of_same (fun _ _ found => found) rfl fun _ _ found => found)

theorem compile_adds (catalog : Catalog RelationRef) (strict verbose : Bool)
    (input : Query.Input) :
    session.store.Adds (session.compile catalog strict verbose input).1.store := by
  cases outcome : (Query.compile catalog.lookup? strict input.characters).outcome with
  | error fault =>
      rw [(compile_error outcome).1]
      exact .refl _
  | ok plan =>
      rw [(compile_ok outcome).1]
      apply Query.assemble_keeps (fun store => session.store.Adds store) _ plan (.refl _)
      exact fun store operator inputs adds => adds.trans (adds_addNode store operator inputs)

theorem estimate_adds (wellFormed : session.store.WellFormed) {node : Node}
    (stored : session.store.node? node.ref = some node) (verbose : Bool) :
    session.store.Adds (session.estimate node verbose).1.store := by
  rw [estimate]
  split
  · exact .refl _
  · next pending =>
      have unknown := Option.not_isSome_iff_eq_none.mp pending
      exact (wellFormed.separates_estimateNode stored unknown).toAdds

/-- Every operation does no more to the store than what it names. -/
theorem perform_effect (wellFormed : session.store.WellFormed) (operation : Operation) :
    Effect session.store operation (session.perform operation).1.store := by
  cases operation with
  | makeAttribute name count => exact .adds (keepAttribute_adds _)
  | copyAttribute ref => exact ifKnown_effect fun _ _ => .adds (keepAttribute_adds _)
  | recountAttribute ref count => exact ifKnown_effect fun _ _ => .adds (keepAttribute_adds _)
  | assignCount ref count =>
      apply ifKnown_effect
      intro column _
      rw [assignCount]
      split
      · exact .adds (.refl _)
      · exact .assigns ref count _
  | makeRelation tupleCount refs =>
      apply ifKnown_effect
      intro columns _
      rw [makeRelation]
      split
      · exact .adds (.refl _)
      · exact .relates tupleCount _ refs
  | appendAttribute ref column =>
      exact ifKnown_effect fun _ _ => ifKnown_effect fun _ _ => .appends ref column
  | copyRelation ref => exact ifKnown_effect fun _ _ => .adds (Store.adds_addRelation _ _)
  | scan name base => exact ifKnown_effect fun _ _ => .adds (adds_addNode _ _ _)
  | project input attributes => exact ifKnown_effect fun _ _ => .adds (adds_addNode _ _ _)
  | select input condition => exact ifKnown_effect fun _ _ => .adds (adds_addNode _ _ _)
  | product inputs =>
      apply ifKnown_effect
      intro nodes _
      split
      · exact .adds (.refl _)
      · exact .adds (adds_addNode _ _ _)
  | join left right condition =>
      apply ifKnown_effect
      intro first _
      apply ifKnown_effect
      intro second _
      rcases condition with - | ⟨column, value⟩ | comparison
      · exact .adds (.refl _)
      · exact .adds (.refl _)
      · exact .adds (adds_addNode _ _ _)
  | «foreign» kind inputs => exact ifKnown_effect fun _ _ => .adds (adds_addNode _ _ _)
  | setOutput ref output =>
      apply ifKnown_effect
      intro node _
      apply ifKnown_effect
      intro cell _
      rw [setOutput]
      split
      · exact .adds (.refl _)
      · have nodes : ∀ other found, session.store.node? other = some found →
            (session.store.setOutput node.ref output).node? other = some found := by
          intro other found here
          rw [Store.node?_setOutput, here]
        exact .adds (.of_same (fun _ _ found => found) rfl nodes)
  | estimate ref verbose =>
      apply ifKnown_effect
      intro node found
      exact .adds (estimate_adds wellFormed (node?_ref wellFormed found) verbose)
  | makeCatalog entries =>
      exact ifKnown_effect fun _ _ =>
        .adds (.of_same (fun _ _ found => found) rfl fun _ _ found => found)
  | addToCatalog ref name relation =>
      exact ifKnown_effect fun _ _ => ifKnown_effect fun _ _ =>
        .adds (.of_same (fun _ _ found => found) rfl fun _ _ found => found)
  | importFrame columns frame => exact .adds (keepStatistics_adds _)
  | loadCatalog format files path => exact .adds (keepStatistics_adds _)
  | compile compiler input => exact ifKnown_effect fun _ _ => .adds (compile_adds _ _ _ _)
  | setStrict value => exact .adds (.refl _)

end Session

end Selectivity

import Selectivity.Proofs.Query.Resolution
import Selectivity.Proofs.Query.Shape
import Selectivity.Session.Operation

/-!
# Reachable sessions

A session is reachable if some sequence of operations, successful or refused, leads to it. The store
of a reachable session is well-formed, because no operation leaves a store that is not.
-/

namespace Selectivity

namespace Session

/-- The session after some operations. -/
def run (session : Session) (operations : List Operation) : Session :=
  operations.foldl (fun session operation => (session.perform operation).1) session

def Reachable (session : Session) : Prop :=
  ∃ operations, initial.run operations = session

theorem reachable_run (operations : List Operation) : (initial.run operations).Reachable :=
  ⟨operations, rfl⟩

theorem Reachable.perform {session : Session} (reachable : session.Reachable)
    (operation : Operation) : (session.perform operation).1.Reachable := by
  obtain ⟨operations, rfl⟩ := reachable
  exact ⟨operations ++ [operation], List.foldl_append⟩

/-- What holds at the start and is kept by every operation holds of every reachable session. -/
theorem Reachable.invariant {session : Session} (reachable : session.Reachable)
    (Good : Session → Prop) (start : Good initial)
    (step : ∀ session operation, Good session → Good (session.perform operation).1) :
    Good session := by
  obtain ⟨operations, rfl⟩ := reachable
  have kept : ∀ session, Good session → Good (session.run operations) := by
    induction operations with
    | nil => exact fun _ good => good
    | cons operation rest induction =>
        exact fun session good => induction _ (step session operation good)
  exact kept initial start

theorem exists_of_isOk {Fault Value : Type} {answer : Except Fault Value}
    (accepted : answer.isOk = true) : ∃ value, answer = .ok value := by
  cases answer with
  | error fault => cases accepted
  | ok value => exact ⟨value, rfl⟩

end Session

namespace Store

mutual

/-- Estimating keeps a store well-formed, whether it succeeds or not. -/
theorem WellFormed.estimateNode {store : Store} (wellFormed : store.WellFormed) (node : Node) :
    (store.estimateNode node).store.WellFormed := by
  cases node with
  | node placed inputs =>
      have pending := WellFormed.estimatePending wellFormed inputs
      rw [Store.estimateNode]
      split
      · next store computed fault result =>
          rw [result] at pending
          exact pending
      · next store computed result =>
          rw [result] at pending
          split
          · exact pending
          · exact pending.fill placed.ref _

theorem WellFormed.estimatePending {store : Store} (wellFormed : store.WellFormed)
    (nodes : List Node) : (store.estimatePending nodes).store.WellFormed := by
  cases nodes with
  | nil =>
      rw [Store.estimatePending]
      exact wellFormed
  | cons node rest =>
      rw [Store.estimatePending]
      split
      · exact WellFormed.estimatePending wellFormed rest
      · have first := WellFormed.estimateNode wellFormed node
        split
        · next store computed fault result =>
            rw [result] at first
            exact first
        · next store computed result =>
            rw [result] at first
            exact WellFormed.estimatePending first rest

end

end Store

namespace Session

variable {session : Session} (wellFormed : session.store.WellFormed)

include wellFormed

/-- Looking something up keeps a store well-formed, if going on with what was found does. -/
theorem ifKnown_wellFormed {Found : Type} {found : Option Found}
    {go : Found → Session × Report}
    (kept : ∀ value, found = some value → (go value).1.store.WellFormed) :
    (session.ifKnown found go).1.store.WellFormed := by
  cases found with
  | none => exact wellFormed
  | some value => exact kept value rfl

theorem node?_ref {ref : NodeRef} {node : Node} (found : session.store.node? ref = some node) :
    session.store.node? node.ref = some node := by
  rw [(wellFormed.nodes ref node found).here]
  exact found

theorem keepAttribute_wellFormed (made : Except StatisticFault Attribute) :
    (session.keepAttribute made).1.store.WellFormed := by
  cases made with
  | error fault => exact wellFormed
  | ok column => exact wellFormed.addAttribute column

theorem keepNode_wellFormed {operator : Operator RelationRef} {inputs : List Node}
    (stored : ∀ input ∈ inputs, session.store.node? input.ref = some input)
    (arity : operator.accepts inputs.length = true)
    (base : ∀ name base, operator = .scan name base → session.store.Holds base) :
    (session.keepNode operator inputs).1.store.WellFormed :=
  wellFormed.addNode stored arity base

theorem keepStatistics_wellFormed (read : Except CatalogFault (Catalog Relation)) :
    (session.keepStatistics read).1.store.WellFormed := by
  cases read with
  | error fault => exact wellFormed
  | ok catalog => exact wellFormed.addStatistics catalog

omit wellFormed in
theorem compile_ok {catalog : Catalog RelationRef} {strict verbose : Bool}
    {input : Query.Input} {plan : Query.CanonicalPlan RelationRef}
    (accepted : (Query.compile catalog.lookup? strict input.characters).outcome = .ok plan) :
    (session.compile catalog strict verbose input).1.store =
        (plan.assemble Store.addNode session.store).1 ∧
      (session.compile catalog strict verbose input).2.result =
        .ok (.node (plan.assemble Store.addNode session.store).2.ref) := by
  unfold compile
  simp only [accepted, and_self]

omit wellFormed in
theorem compile_error {catalog : Catalog RelationRef} {strict verbose : Bool}
    {input : Query.Input} {fault : QueryFault}
    (refused : (Query.compile catalog.lookup? strict input.characters).outcome = .error fault) :
    (session.compile catalog strict verbose input).1 = session ∧
      (session.compile catalog strict verbose input).2.result = .error (.query fault) := by
  unfold compile
  simp only [refused, and_self]

theorem holds_of_lookup? {ref : CatalogRef} {catalog : Catalog RelationRef} {name : String}
    {base : RelationRef} (known : session.store.catalog? ref = some catalog)
    (found : catalog.lookup? name = some base) : session.store.Holds base :=
  wellFormed.catalogs ref catalog known (name, base) (Entries.get?_eq_some_mem found)

theorem holds_of_compile {ref : CatalogRef} {catalog : Catalog RelationRef} {strict : Bool}
    {text : List Char} {plan : Query.CanonicalPlan RelationRef}
    (known : session.store.catalog? ref = some catalog)
    (told : (Query.compile catalog.lookup? strict text).outcome = .ok plan) :
    ∀ scan ∈ plan.scans, session.store.Holds scan.base := by
  obtain ⟨script, -, resolves⟩ := Query.resolves_of_compile told
  intro scan member
  exact holds_of_lookup? wellFormed known (resolves.lookup_eq member)

theorem compile_wellFormed {ref : CatalogRef} {catalog : Catalog RelationRef}
    (known : session.store.catalog? ref = some catalog) (strict verbose : Bool)
    (input : Query.Input) :
    (session.compile catalog strict verbose input).1.store.WellFormed := by
  cases outcome : (Query.compile catalog.lookup? strict input.characters).outcome with
  | error fault =>
      rw [(compile_error outcome).1]
      exact wellFormed
  | ok plan =>
      have bases := holds_of_compile wellFormed known outcome
      rw [(compile_ok outcome).1]
      exact (Query.assemble_made plan wellFormed bases).1.grown.wellFormed

private theorem stored_of_mapM {refs : List NodeRef} {inputs : List Node}
    (found : refs.mapM session.store.node? = some inputs) :
    ∀ input ∈ inputs, session.store.node? input.ref = some input := by
  intro input member
  obtain ⟨ref, -, here⟩ := Query.exists_of_mem_mapM found member
  exact node?_ref wellFormed here

private theorem stored_of_found {ref : NodeRef} {node : Node}
    (found : session.store.node? ref = some node) :
    ∀ input ∈ [node], session.store.node? input.ref = some input := by
  intro input member
  rw [List.mem_singleton.mp member]
  exact node?_ref wellFormed found

/-- Every operation keeps the store well-formed. -/
theorem perform_wellFormed (operation : Operation) :
    (session.perform operation).1.store.WellFormed := by
  cases operation with
  | makeAttribute name count => exact keepAttribute_wellFormed wellFormed _
  | copyAttribute ref =>
      exact ifKnown_wellFormed wellFormed fun _ _ => keepAttribute_wellFormed wellFormed _
  | recountAttribute ref count =>
      exact ifKnown_wellFormed wellFormed fun _ _ => keepAttribute_wellFormed wellFormed _
  | assignCount ref count =>
      refine ifKnown_wellFormed wellFormed fun column _ => ?_
      rw [assignCount]
      split
      · exact wellFormed
      · exact wellFormed.replaceAttribute ref _
  | makeRelation tupleCount refs =>
      refine ifKnown_wellFormed wellFormed fun columns found => ?_
      rw [makeRelation]
      split
      · exact wellFormed
      · exact wellFormed.addCell fun _ member => Query.exists_value_of_mem found member
  | appendAttribute ref column =>
      exact ifKnown_wellFormed wellFormed fun _ _ =>
        ifKnown_wellFormed wellFormed fun _ known => wellFormed.appendAttribute ref known
  | copyRelation ref =>
      exact ifKnown_wellFormed wellFormed fun _ _ => wellFormed.addRelation _
  | scan name base =>
      refine ifKnown_wellFormed wellFormed fun cell found =>
        keepNode_wellFormed wellFormed (fun _ member => absurd member List.not_mem_nil) rfl ?_
      intro other held same
      cases same
      exact ⟨cell, found⟩
  | project input attributes =>
      exact ifKnown_wellFormed wellFormed fun _ found =>
        keepNode_wellFormed wellFormed (stored_of_found wellFormed found) rfl nofun
  | select input condition =>
      exact ifKnown_wellFormed wellFormed fun _ found =>
        keepNode_wellFormed wellFormed (stored_of_found wellFormed found) rfl nofun
  | product inputs =>
      refine ifKnown_wellFormed wellFormed fun nodes found => ?_
      split
      · exact wellFormed
      · next enough =>
          refine keepNode_wellFormed wellFormed (stored_of_mapM wellFormed found) ?_ nofun
          exact decide_eq_true (Nat.not_lt.mp enough)
  | join left right condition =>
      refine ifKnown_wellFormed wellFormed fun first found =>
        ifKnown_wellFormed wellFormed fun second known => ?_
      rcases condition with - | ⟨column, value⟩ | comparison
      · exact wellFormed
      · exact wellFormed
      · refine keepNode_wellFormed wellFormed ?_ rfl nofun
        intro input member
        rcases List.mem_cons.mp member with rfl | last
        · exact node?_ref wellFormed found
        · rw [List.mem_singleton.mp last]
          exact node?_ref wellFormed known
  | «foreign» kind inputs =>
      exact ifKnown_wellFormed wellFormed fun _ found =>
        keepNode_wellFormed wellFormed (stored_of_mapM wellFormed found) rfl nofun
  | setOutput ref output =>
      refine ifKnown_wellFormed wellFormed fun node _ =>
        ifKnown_wellFormed wellFormed fun cell found => ?_
      rw [setOutput]
      split
      · exact wellFormed
      · exact wellFormed.setOutput node.ref ⟨cell, found⟩
  | estimate ref verbose =>
      refine ifKnown_wellFormed wellFormed fun node _ => ?_
      rw [estimate]
      split
      · exact wellFormed
      · exact wellFormed.estimateNode node
  | makeCatalog entries =>
      refine ifKnown_wellFormed wellFormed fun _ found => wellFormed.addCatalog ?_
      intro entry member
      exact Query.exists_value_of_mem found (Entries.mem_of_mem_ofList member)
  | addToCatalog ref name relation =>
      exact ifKnown_wellFormed wellFormed fun _ _ =>
        ifKnown_wellFormed wellFormed fun cell found =>
          wellFormed.putRelation ref name ⟨cell, found⟩
  | importFrame columns frame => exact keepStatistics_wellFormed wellFormed _
  | loadCatalog format files path => exact keepStatistics_wellFormed wellFormed _
  | compile compiler input =>
      exact ifKnown_wellFormed wellFormed fun _ known =>
        compile_wellFormed wellFormed known _ _ input
  | setStrict value => exact wellFormed

omit wellFormed in
theorem Reachable.store_wellFormed (reachable : session.Reachable) :
    session.store.WellFormed :=
  reachable.invariant (fun session => session.store.WellFormed) Store.WellFormed.empty
    fun _ operation wellFormed => perform_wellFormed wellFormed operation

end Session

end Selectivity

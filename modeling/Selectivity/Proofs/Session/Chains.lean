import Selectivity.Proofs.Session.Selections

/-!
# Chains of operators

Operators that have one input each can stand on top of each other. Over a node that can be
estimated, the chain is estimated to what comes of handing the relation from operator to operator,
until the first of them that nothing comes of. So it only takes the rules to tell what two chains
have in common.
-/

namespace Selectivity

/-- What comes of operators on top of each other, the lowest first, over a relation. The first fault
is the fault of the chain. -/
def Operator.outputs (operators : List (Operator Relation)) (input : Relation) :
    Except EstimateFault Relation :=
  operators.foldlM (fun relation operator => operator.output [relation]) input

namespace Operator

variable {operator : Operator Relation} {operators : List (Operator Relation)}
  {input output : Relation} {fault : EstimateFault}

theorem outputs_cons_ok (told : operator.output [input] = .ok output) :
    outputs (operator :: operators) input = outputs operators output := by
  rw [outputs, List.foldlM_cons, told]
  rfl

theorem outputs_cons_error (failed : operator.output [input] = .error fault) :
    outputs (operator :: operators) input = .error fault := by
  rw [outputs, List.foldlM_cons, failed]
  rfl

theorem outputs_singleton : outputs [operator] input = operator.output [input] := by
  cases told : operator.output [input] with
  | error fault => exact outputs_cons_error told
  | ok output => exact outputs_cons_ok told

theorem outputs_append_ok (told : outputs operators input = .ok output)
    (others : List (Operator Relation)) :
    outputs (operators ++ others) input = outputs others output := by
  rw [outputs] at told
  rw [outputs, List.foldlM_append, told]
  rfl

theorem outputs_append_error (failed : outputs operators input = .error fault)
    (others : List (Operator Relation)) :
    outputs (operators ++ others) input = .error fault := by
  rw [outputs] at failed
  rw [outputs, List.foldlM_append, failed]
  rfl

/-- A chain goes on with what the rule of its lowest operator allows, if that can be told. -/
theorem outputs_cons_of_estimates (estimates : Estimates operator [input] output)
    (operators : List (Operator Relation)) :
    outputs (operator :: operators) input =
      if operator.hasCondition && output.hasCompoundName then .error .compoundName
      else if output.isWritable then outputs operators output
      else .error .unwritable := by
  rw [outputs, List.foldlM_cons, Operator.output, estimate_of_estimates estimates]
  simp only [Relation.isSome_render?]
  split
  · rfl
  · split
    · rfl
    · rfl

/-- A chain ends at an operator that misses its attributes, and the fault tells its input if that
can be written. -/
theorem outputs_cons_of_misses {attributes : List String}
    (misses : Misses operator [input] attributes) (operators : List (Operator Relation)) :
    outputs (operator :: operators) input =
      .error (if input.isWritable then .missingAttribute ⟨attributes, [input.render]⟩
        else .unwritable) := by
  rw [← EstimateFault.missing_singleton]
  exact outputs_cons_error misses.output_eq

end Operator

namespace Store

variable {store : Store} {bottom root : Node} {operators : List (Operator RelationRef)}
  {input output : Relation}

/-- Operators on top of a node, the lowest first. Each has the one below it as its only input, and
none of their outputs is known. -/
inductive Chain (store : Store) (bottom : Node) : Node → List (Operator RelationRef) → Prop where
  | start : Chain store bottom bottom []
  | next {root : Node} {operators : List (Operator RelationRef)} (ref : NodeRef)
      (operator : Operator RelationRef) (below : Chain store bottom root operators)
      (unknown : store.output? ref = none) :
      Chain store bottom (.node ⟨ref, operator⟩ [root]) (operators ++ [operator])

theorem partsOfAll_singleton (node : Node) : store.partsOfAll [node] = store.parts node := by
  rw [partsOfAll, partsOfAll, List.append_nil]

/-- An operator can be estimated over an input that can be, if its output can be told. -/
theorem Estimable.next {ref : NodeRef} {operator : Operator RelationRef} {node : Node}
    (here : Estimable store node input) (unknown : store.output? ref = none)
    (told : (operator.mapBase store.relation).output [input] = .ok output) :
    Estimable store (.node ⟨ref, operator⟩ [node]) output := by
  obtain ⟨estimates, tellable⟩ := Operator.output_eq_ok_iff.mp told
  have means : Means store (.node ⟨ref, operator⟩ [node]) output :=
    .rule unknown (.cons here.means .nil) estimates
  refine ⟨means, fun part member result partMeans => ?_⟩
  rw [parts_of_pending unknown, partsOfAll_singleton] at member
  rcases List.mem_append.mp member with below | top
  · exact here.tellable part below result partMeans
  · rw [List.mem_singleton.mp top] at partMeans ⊢
    rw [partMeans.unique means]
    refine ⟨fun condition => tellable.names ?_, tellable.counts⟩
    exact (Operator.hasCondition_mapBase _ _).trans condition

/-- A chain on a node that can be estimated either can be estimated to what comes of its operators,
or stops with their fault. -/
theorem Chain.settles (chain : Chain store bottom root operators)
    (here : Estimable store bottom input) :
    (∃ output, Operator.outputs (operators.map (Operator.mapBase store.relation)) input =
        .ok output ∧ Estimable store root output) ∨
      ∃ fault, Operator.outputs (operators.map (Operator.mapBase store.relation)) input =
        .error fault ∧ (store.parts root).findSome? store.stop? = some fault := by
  induction chain with
  | start => exact Or.inl ⟨input, rfl, here⟩
  | @next root operators ref operator below unknown induction =>
      have order : store.parts (.node ⟨ref, operator⟩ [root]) =
          store.parts root ++ [.node ⟨ref, operator⟩ [root]] := by
        rw [parts_of_pending unknown, partsOfAll_singleton]
      rw [List.map_append, List.map_singleton]
      rcases induction with ⟨middle, comes, estimable⟩ | ⟨fault, comes, stops⟩
      · have verdict : store.verdict (.node ⟨ref, operator⟩ [root]) =
            (operator.mapBase store.relation).output [middle] :=
          verdict_eq_output (.cons estimable.means .nil)
        rw [Operator.outputs_append_ok comes, Operator.outputs_singleton]
        cases told : (operator.mapBase store.relation).output [middle] with
        | ok output => exact Or.inl ⟨output, rfl, estimable.next unknown told⟩
        | error fault =>
            have passes : (store.parts root).findSome? store.stop? = none :=
              List.findSome?_eq_none_iff.mpr fun part member => estimable.stop?_eq_none member
            refine Or.inr ⟨fault, rfl, ?_⟩
            rw [order, List.findSome?_append, passes, Option.none_or, List.findSome?_singleton,
              stop?_eq_some_iff, verdict, told]
      · refine Or.inr ⟨fault, Operator.outputs_append_error comes _, ?_⟩
        rw [order, List.findSome?_append, stops]
        rfl

theorem Chain.stops {fault : EstimateFault} (chain : Chain store bottom root operators)
    (fails : (store.parts bottom).findSome? store.stop? = some fault) :
    (store.parts root).findSome? store.stop? = some fault := by
  induction chain with
  | start => exact fails
  | next ref operator below unknown induction =>
      rw [parts_of_pending unknown, partsOfAll_singleton, List.findSome?_append, induction]
      rfl

end Store

namespace Session

variable {session : Session} {node : Node} {input output : Relation}

/-- An estimation yields one answer. -/
theorem Yields.unique {ref : NodeRef} {verbose : Bool} {first second : Except EstimateFault Relation}
    (left : session.Yields ref verbose first) (right : session.Yields ref verbose second) :
    first = second := by
  cases left with
  | output result said now =>
      cases right with
      | output _ other same =>
          rw [said, Option.some.injEq] at other
          rw [← now, ← same, other]
      | fault failed =>
          rw [result] at failed
          cases failed
  | fault failed =>
      cases right with
      | output result _ _ =>
          rw [failed] at result
          cases result
      | fault other =>
          rw [failed] at other
          cases other
          rfl

theorem yields_of_estimable (wellFormed : session.store.WellFormed)
    (here : Store.Estimable session.store node output) (pending : session.store.Pending node)
    (verbose : Bool) : session.Yields node.ref verbose (.ok output) := by
  obtain ⟨stored, unknown⟩ := pending
  obtain ⟨quiet, ref, said, same⟩ := here.estimateNode wellFormed stored unknown
  refine .output (perform_estimate_ok stored unknown quiet said) ?_ ?_
  · rw [perform_estimate_store stored unknown, said]
  · rw [perform_estimate_store stored unknown, same]

/-- In every session, operators on top of a node that can be estimated to the relation yield the
answer, whatever node that is. -/
def LeadsTo (operators : List (Operator RelationRef)) (input : Relation)
    (answer : Except EstimateFault Relation) : Prop :=
  ∀ (session : Session) (bottom root : Node) (verbose : Bool), session.Reachable →
    Store.Estimable session.store bottom input → Store.Chain session.store bottom root operators →
    session.store.Pending root → session.Yields root.ref verbose answer

/-- Operators that scan no relation yield what comes of them. -/
theorem leadsTo_outputs (input : Relation) (operators : List (Operator RelationRef))
    (images : List (Operator Relation))
    (same : ∀ image, operators.map (Operator.mapBase image) = images) :
    LeadsTo operators input (Operator.outputs images input) := by
  intro session bottom root verbose reachable here chain pending
  have wellFormed := reachable.store_wellFormed
  rw [← same session.store.relation]
  rcases chain.settles here with ⟨output, comes, estimable⟩ | ⟨fault, comes, stops⟩
  · rw [comes]
    exact yields_of_estimable wellFormed estimable pending verbose
  · rw [comes]
    exact yields_fault wellFormed pending.stored pending.unknown verbose stops

theorem yields_none_of_stops {bottom root : Node} {operators : List (Operator RelationRef)}
    {fault : EstimateFault} (reachable : session.Reachable)
    (chain : Store.Chain session.store bottom root operators)
    (pending : session.store.Pending root)
    (fails : (session.store.parts bottom).findSome? session.store.stop? = some fault) :
    ¬ ∃ output, session.Yields root.ref false (.ok output) := by
  rintro ⟨output, yields⟩
  have stopped := yields_fault reachable.store_wellFormed pending.stored pending.unknown false
    (chain.stops fails)
  cases yields.unique stopped

end Session

end Selectivity

import Selectivity.Proofs.Plan.Outlines
import Selectivity.Proofs.Query.Parts
import Selectivity.Proofs.Session.Compilation

/-!
# Outlines in a session

The plan of an accepted query can be told from its outline: its operators are of the five kinds, no
output is known yet, and all its names and literals are words, because the query is made of words.
-/

namespace Selectivity

namespace Operator

variable {Base Other : Type} (image : Base → Other) (operator : Operator Base)

@[simp]
theorem isNative_mapBase : (operator.mapBase image).isNative = operator.isNative := by
  cases operator <;> rfl

@[simp]
theorem texts_mapBase : (operator.mapBase image).texts = operator.texts := by
  cases operator with
  | select condition => cases condition <;> rfl
  | _ => rfl

end Operator

namespace Query

variable {plan : CanonicalPlan RelationRef} {operator : Operator RelationRef}

theorem PartOf.isNative (part : PartOf plan operator) : operator.isNative = true := by
  cases part <;> rfl

/-- The names and literals of an operator are among those of the plan that it is a part of. -/
theorem PartOf.mem_texts (part : PartOf plan operator) {text : String}
    (member : text ∈ operator.texts) : text ∈ plan.texts := by
  rw [CanonicalPlan.texts, List.mem_append, List.mem_append, List.mem_append]
  cases part with
  | @scan scan listed =>
      rw [List.mem_singleton.mp member]
      exact Or.inl (Or.inl (Or.inr (List.mem_map_of_mem listed)))
  | product => cases member
  | @join group condition joined listed =>
      exact Or.inl (Or.inr (List.mem_flatMap.mpr ⟨group, joined,
        List.mem_flatMap.mpr ⟨condition, listed, member⟩⟩))
  | @select condition listed =>
      exact Or.inr (List.mem_flatMap.mpr ⟨condition, listed, member⟩)
  | project kept =>
      rw [kept]
      exact Or.inl (Or.inl (Or.inl member))

/-- The nodes of a canonical plan over words, without outputs, can be told from their lines. -/
theorem Canonical.wordNodes {store : Store} {root : Node} (canonical : Canonical root plan)
    (words : ∀ text ∈ plan.texts, Word text)
    (unknown : ∀ placed ∈ root.preorder, store.output? placed.ref = none) :
    ∀ node ∈ (store.plan root).preorder, Plan.WordNode node := by
  intro node member
  rw [Store.plan, Tree.preorder_map] at member
  obtain ⟨placed, within, rfl⟩ := List.mem_map.mp member
  have part := canonical.parts placed within
  refine ⟨?_, ?_, fun text listed => ?_⟩
  · rw [Store.outputRelation?, unknown placed within]
    rfl
  · rw [Operator.isNative_mapBase]
    exact part.isNative
  · rw [Operator.texts_mapBase] at listed
    exact words text (part.mem_texts listed)

end Query

/-- An accepted query has become a plan whose nodes can all be told from their lines. -/
theorem Session.accepted_query_in_words {session : Session} (reachable : session.Reachable)
    {compiler : Compiler} {input : Query.Input} {outcome : Outcome}
    (accepted : (session.perform (.compile compiler input)).2.result = .ok outcome) :
    let after := (session.perform (.compile compiler input)).1.store
    ∃ root, outcome = .node root.ref ∧ after.node? root.ref = some root ∧
      ∀ node ∈ (after.plan root).preorder, Plan.WordNode node := by
  have wellFormed := reachable.store_wellFormed
  obtain ⟨catalog, plan, known, told, store, rfl⟩ := compile_accepted accepted
  obtain ⟨spoken, -⟩ := Query.says_of_compile told
  obtain ⟨made, canonical⟩ :=
    Query.assemble_made plan wellFormed (holds_of_compile wellFormed known told)
  intro after
  have same : after = (plan.assemble Store.addNode session.store).1 := store
  rw [same]
  exact ⟨_, rfl, made.new.stored, canonical.wordNodes spoken.word_of_mem_texts
    fun placed member => made.output?_eq_none member⟩

end Selectivity

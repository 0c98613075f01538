import Mathlib.Data.List.Forall2
import Selectivity.Proofs.Estimation.Meaning

/-!
# Plans of one shape

Two nodes, perhaps of two stores, whose plans have one shape and no outputs have their parts in the
same order. So the parts correspond one by one, whatever the labels of the plans have to do with
each other, and what is said of the outputs of corresponding parts at a later time is said of the
plans.
-/

namespace Selectivity.Store

/-- Nodes of plans are related only if their outputs are not known. -/
def Blank (related : PlanNode → PlanNode → Prop) : Prop :=
  ∀ node other, related node other → node.output = none ∧ other.output = none

variable {first second : Store} {related : PlanNode → PlanNode → Prop}

theorem output?_eq_none_of_plan {store : Store} {ref : NodeRef}
    (unknown : store.outputRelation? ref = none) : store.output? ref = none :=
  Option.map_eq_none_iff.mp unknown

/-- The labels at the roots of two plans of one shape are related, and so are the inputs. -/
theorem alike_node {placed other : PlacedOperator} {inputs others : List Node}
    (alike : Tree.Alike related (first.plan (.node placed inputs))
      (second.plan (.node other others))) :
    related ⟨placed.operator.mapBase first.relation, first.outputRelation? placed.ref⟩
        ⟨other.operator.mapBase second.relation, second.outputRelation? other.ref⟩ ∧
      Tree.AlikeAll related (inputs.map first.plan) (others.map second.plan) := by
  rw [plan_node, plan_node] at alike
  cases alike with
  | node labels below => exact ⟨labels, below⟩

theorem unknown_of_alike (blank : Blank related) {node copy : Node}
    (alike : Tree.Alike related (first.plan node) (second.plan copy)) :
    first.output? node.ref = none ∧ second.output? copy.ref = none := by
  cases node with
  | node placed inputs =>
      cases copy with
      | node other others =>
          obtain ⟨unknown, otherUnknown⟩ := blank _ _ (alike_node alike).1
          exact ⟨output?_eq_none_of_plan unknown, output?_eq_none_of_plan otherUnknown⟩

mutual

theorem parts_alike (blank : Blank related) (node copy : Node)
    (alike : Tree.Alike related (first.plan node) (second.plan copy)) :
    List.Forall₂ (fun part other => Tree.Alike related (first.plan part) (second.plan other))
      (first.parts node) (second.parts copy) := by
  have unknown := unknown_of_alike blank alike
  cases node with
  | node placed inputs =>
      cases copy with
      | node other others =>
          obtain ⟨here, there⟩ := unknown
          have pending : first.output? placed.ref = none := here
          have otherPending : second.output? other.ref = none := there
          rw [parts_of_pending pending, parts_of_pending otherPending]
          exact List.rel_append (partsOfAll_alike blank inputs others (alike_node alike).2)
            (.cons alike .nil)

theorem partsOfAll_alike (blank : Blank related) (nodes copies : List Node)
    (alike : Tree.AlikeAll related (nodes.map first.plan) (copies.map second.plan)) :
    List.Forall₂ (fun part other => Tree.Alike related (first.plan part) (second.plan other))
      (first.partsOfAll nodes) (second.partsOfAll copies) := by
  cases nodes with
  | nil =>
      cases copies with
      | nil => exact .nil
      | cons copy rest => cases alike
  | cons node rest =>
      cases copies with
      | nil => cases alike
      | cons copy others =>
          cases alike with
          | cons head tail =>
              exact List.rel_append (parts_alike blank node copy head)
                (partsOfAll_alike blank rest others tail)

end

variable {current later : Store} {result : PlanNode → PlanNode → Prop}

mutual

/-- The plans of two nodes have one shape at any later time, and their labels are related in
whatever way those of corresponding parts are. -/
theorem plans_alike (blank : Blank related) (node copy : Node)
    (alike : Tree.Alike related (first.plan node) (second.plan copy))
    (places : ∀ part ∈ first.parts node, ∀ other ∈ second.parts copy,
      Tree.Alike related (first.plan part) (second.plan other) →
        result ⟨part.operator.mapBase current.relation, current.outputRelation? part.ref⟩
          ⟨other.operator.mapBase later.relation, later.outputRelation? other.ref⟩) :
    Tree.Alike result (current.plan node) (later.plan copy) := by
  have unknown := unknown_of_alike blank alike
  cases node with
  | node placed inputs =>
      cases copy with
      | node other others =>
          obtain ⟨here, there⟩ := unknown
          have pending : first.output? placed.ref = none := here
          have otherPending : second.output? other.ref = none := there
          rw [parts_of_pending pending, parts_of_pending otherPending] at places
          rw [plan_node, plan_node]
          refine .node ?_ (allPlans_alike blank inputs others (alike_node alike).2
            fun part member other within =>
              places part (List.mem_append_left _ member) other (List.mem_append_left _ within))
          exact places _ (List.mem_append_right _ List.mem_cons_self) _
            (List.mem_append_right _ List.mem_cons_self) alike

theorem allPlans_alike (blank : Blank related) (nodes copies : List Node)
    (alike : Tree.AlikeAll related (nodes.map first.plan) (copies.map second.plan))
    (places : ∀ part ∈ first.partsOfAll nodes, ∀ other ∈ second.partsOfAll copies,
      Tree.Alike related (first.plan part) (second.plan other) →
        result ⟨part.operator.mapBase current.relation, current.outputRelation? part.ref⟩
          ⟨other.operator.mapBase later.relation, later.outputRelation? other.ref⟩) :
    Tree.AlikeAll result (nodes.map current.plan) (copies.map later.plan) := by
  cases nodes with
  | nil =>
      cases copies with
      | nil => exact .nil
      | cons copy rest => cases alike
  | cons node rest =>
      cases copies with
      | nil => cases alike
      | cons copy others =>
          cases alike with
          | cons head tail =>
              refine .cons ?_ ?_
              · exact plans_alike blank node copy head fun part member other within =>
                  places part (List.mem_append_left _ member) other (List.mem_append_left _ within)
              · exact allPlans_alike blank rest others tail fun part member other within =>
                  places part (List.mem_append_right _ member) other
                    (List.mem_append_right _ within)

end

end Selectivity.Store

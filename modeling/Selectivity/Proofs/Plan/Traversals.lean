import Selectivity.Proofs.Plan.Outlines
import Selectivity.Proofs.Session.Reachable

/-!
# Traversals of a plan

The walk through a plan, the names of its relations and its outline are computed by recursions of
their own. They see the same tree: the walk and the lines of the outline go through the places of
the plan in their order, and the names are those of the scans that the walk meets.
-/

namespace Selectivity

namespace NameSet

theorem insert_sorted {name : String} {names : List String} (sorted : names.Pairwise (· < ·)) :
    (insert name names).Pairwise (· < ·) := by
  induction names with
  | nil => exact List.pairwise_singleton _ _
  | cons first rest induction =>
      obtain ⟨least, others⟩ := List.pairwise_cons.mp sorted
      rw [insert]
      split
      · next less =>
          refine List.pairwise_cons.mpr ⟨fun other member => ?_, sorted⟩
          rcases List.mem_cons.mp member with rfl | later
          · exact less
          · exact String.lt_trans less (least other later)
      · next notLess =>
          split
          · exact sorted
          · next different =>
              have greater : first < name := by
                by_contra notGreater
                exact different (String.le_antisymm (String.not_lt.mp notGreater)
                  (String.not_lt.mp notLess))
              refine List.pairwise_cons.mpr ⟨fun other member => ?_, induction others⟩
              rcases mem_insert.mp member with rfl | later
              · exact greater
              · exact least other later

theorem union_sorted (sets : List (List String)) : (union sets).Pairwise (· < ·) := by
  have fold : ∀ names set : List String, set.Pairwise (· < ·) →
      (names.foldl (fun set name => insert name set) set).Pairwise (· < ·) := by
    intro names
    induction names with
    | nil => exact fun set sorted => sorted
    | cons name names induction => exact fun set sorted => induction _ (insert_sorted sorted)
  exact fold sets.flatten [] .nil

end NameSet

namespace Plan

/-- No scan of the plan has an input. -/
def ScansAreLeaves (plan : Plan) : Prop :=
  ∀ place (part : Plan) name base, plan.subtree? place = some part →
    part.operator = .scan name base → part.children = []

theorem ScansAreLeaves.input {node : PlanNode} {inputs : List Plan}
    (leaves : ScansAreLeaves (.node node inputs)) {input : Plan} (member : input ∈ inputs) :
    ScansAreLeaves input := by
  intro place part name base here scan
  obtain ⟨index, found⟩ := List.mem_iff_getElem?.mp member
  refine leaves (index :: place) part name base ?_ scan
  rw [Tree.subtree?_cons, Tree.children, found, Option.bind_some, here]

theorem walk_node (node : PlanNode) (inputs : List Plan) :
    walk (.node node inputs) = node.operator :: inputs.flatMap walk := by
  rw [walk, Tree.preorder_node, List.map_cons, List.map_flatMap]
  rfl

/-- The names of a plan are those of its root, if that is a scan, or else of its inputs. -/
theorem relations_node (node : PlanNode) (inputs : List Plan) :
    (∃ name base, node.operator = .scan name base ∧ relations (.node node inputs) = [name]) ∨
      (∀ name base, node.operator ≠ .scan name base) ∧
        relations (.node node inputs) = NameSet.union (inputs.map relations) := by
  rw [relations, Tree.fold_node]
  split
  · next name base scan => exact Or.inl ⟨name, base, scan, rfl⟩
  · next other => exact Or.inr ⟨other, rfl⟩

theorem relations_sorted (plan : Plan) : plan.relations.Pairwise (· < ·) := by
  cases plan with
  | node node inputs =>
      rcases relations_node node inputs with ⟨name, base, -, same⟩ | ⟨-, same⟩
      · rw [same]
        exact List.pairwise_singleton _ _
      · rw [same]
        exact NameSet.union_sorted _

mutual

theorem mem_relations (name : String) (plan : Plan) (leaves : plan.ScansAreLeaves) :
    name ∈ plan.relations ↔ ∃ base, .scan name base ∈ plan.walk := by
  cases plan with
  | node node inputs =>
      rw [walk_node]
      rcases relations_node node inputs with ⟨scanned, held, scan, same⟩ | ⟨other, same⟩
      · have none : inputs = [] := leaves [] _ scanned held rfl scan
        rw [same, none, scan, List.flatMap_nil]
        simp only [List.mem_singleton, Operator.scan.injEq, exists_and_left, exists_eq, and_true]
      · have below := exists_mem_relations name inputs fun input => leaves.input
        simp only [same, NameSet.mem_union, List.mem_map, exists_exists_and_eq_and, below,
          List.mem_cons]
        exact exists_congr fun base => (or_iff_right (other name base).symm).symm

theorem exists_mem_relations (name : String) (plans : List Plan)
    (leaves : ∀ plan ∈ plans, ScansAreLeaves plan) : (∃ plan ∈ plans, name ∈ relations plan) ↔
      ∃ base, .scan name base ∈ plans.flatMap walk := by
  cases plans with
  | nil => simp
  | cons plan plans =>
      have here := mem_relations name plan (leaves plan List.mem_cons_self)
      have later := exists_mem_relations name plans fun other member =>
        leaves other (List.mem_cons_of_mem plan member)
      simp only [List.mem_cons, exists_eq_or_imp, here, later, List.flatMap_cons, List.mem_append,
        exists_or]

end

end Plan

namespace Store.WellFormed

variable {store : Store} {node part : Node}

theorem stored_subtree (wellFormed : store.WellFormed)
    (stored : store.node? node.ref = some node) {place : List Nat}
    (here : node.subtree? place = some part) : store.node? part.ref = some part := by
  induction place generalizing node with
  | nil =>
      cases here
      exact stored
  | cons index rest induction =>
      rw [Tree.subtree?_cons] at here
      obtain ⟨input, found, below⟩ := Option.bind_eq_some_iff.mp here
      have placed := wellFormed.nodes node.ref node stored
      exact induction (placed.inputs input (List.mem_of_getElem? found)) below

theorem scansAreLeaves (wellFormed : store.WellFormed) (stored : store.node? node.ref = some node) :
    (store.plan node).ScansAreLeaves := by
  intro place part name base here scan
  rw [Store.plan, Tree.subtree?_map] at here
  obtain ⟨inner, found, rfl⟩ := Option.map_eq_some_iff.mp here
  cases inner with
  | node placed inputs =>
      have arity : placed.operator.accepts inputs.length = true :=
        (wellFormed.nodes _ _ (wellFormed.stored_subtree stored found)).arity
      have scanned : placed.operator.mapBase store.relation = .scan name base := by
        rw [Tree.map_node] at scan
        exact scan
      rw [← Operator.accepts_mapBase store.relation, scanned, Operator.accepts, beq_iff_eq,
        List.length_eq_zero_iff] at arity
      rw [arity, Tree.map_node]
      rfl

end Store.WellFormed

namespace Plan

/-- A product over a scan and two selections over the same scan. The estimation has ended at the
second selection. -/
def sharedScan : Session :=
  Session.initial.run [.makeAttribute "a" 2, .makeRelation 4 [⟨0⟩], .scan "R" ⟨0⟩,
    .select ⟨0⟩ (some (.equalsValue "a" "x")), .select ⟨0⟩ (some (.equalsValue "c" "x")),
    .product [⟨1⟩, ⟨0⟩, ⟨2⟩], .estimate ⟨3⟩ false]

def sharedScanNode : Node :=
  let scan : Node := .node ⟨⟨0⟩, .scan "R" ⟨0⟩⟩ []
  .node ⟨⟨3⟩, .product⟩ [.node ⟨⟨1⟩, .select (some (.equalsValue "a" "x"))⟩ [scan], scan,
    .node ⟨⟨2⟩, .select (some (.equalsValue "c" "x"))⟩ [scan]]

end Plan

end Selectivity

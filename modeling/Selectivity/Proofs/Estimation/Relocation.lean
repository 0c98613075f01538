import Selectivity.Proofs.Estimation.Course
import Selectivity.Proofs.Query.Relocation

/-!
# Estimation at a distance

An estimation looks at nothing but the nodes below its own, their outputs and their base relations.
Where these are the same in two stores up to a distance between the references of the nodes, two
estimations go the same way.
-/

namespace Selectivity

def Computed.shift (distance : Nat) (made : Computed) : Computed :=
  ⟨made.placed.shift distance, made.output⟩

namespace Store

/-- What a store has in a window is found in another one at a distance. -/
structure Mirrors (window : Window) (limit : Nat) (first second : Store) : Prop where
  left : first.WellFormed
  right : second.WellFormed
  near : first.nodes.size = limit
  far : second.nodes.size = limit + window.distance
  outputs : ∀ ref : NodeRef, window.start ≤ ref.index →
    second.outputRelation? (ref.shift window.distance) = first.outputRelation? ref
  bases : ∀ base, window.shared base →
    first.Holds base ∧ second.Holds base ∧ second.relation base = first.relation base

variable {window : Window} {limit : Nat} {first second store : Store}

theorem size_fill (store : Store) (ref : NodeRef) (output : Relation) :
    (store.fill ref output).nodes.size = store.nodes.size := by
  have added := nodes_addRelation store output
  simp only [fill, setOutput, Array.size_modify, added]

theorem holds_fill {base : RelationRef} (held : store.Holds base) (ref : NodeRef)
    (output : Relation) : (store.fill ref output).Holds base := by
  obtain ⟨cell, found⟩ := held
  exact ⟨cell, (extends_addRelation store output).cells base cell found⟩

theorem relation_fill (wellFormed : store.WellFormed) {base : RelationRef}
    (held : store.Holds base) (ref : NodeRef) (output : Relation) :
    (store.fill ref output).relation base = store.relation base := by
  -- saying an output does not touch the relations
  have same : (store.fill ref output).relation base = (store.addRelation output).1.relation base :=
    rfl
  rw [same, relation_eq_of_extends (extends_addRelation store output) wellFormed held]

theorem outputRelation?_fill_of_ne (wellFormed : store.WellFormed) {ref other : NodeRef}
    (output : Relation) (different : other ≠ ref) :
    (store.fill ref output).outputRelation? other = store.outputRelation? other := by
  rw [outputRelation?, outputRelation?, output?_fill_of_ne store output different]
  cases said : store.output? other with
  | none => rfl
  | some relation =>
      have held := wellFormed.outputs other relation said
      rw [Option.map_some, Option.map_some, relation_fill wellFormed held]

theorem node?_of_lt {ref : NodeRef} (inside : ref.index < store.nodes.size) :
    ∃ node, store.node? ref = some node :=
  ⟨_, congrArg (Option.map NodeCell.node) (Array.getElem?_eq_getElem inside)⟩

/-- Filling a node and the one at a distance with the same output keeps the stores alike. -/
theorem Mirrors.fill (mirrors : Mirrors window limit first second) {ref : NodeRef}
    (start : window.start ≤ ref.index) (inside : ref.index < limit) (output : Relation) :
    Mirrors window limit (first.fill ref output)
      (second.fill (ref.shift window.distance) output) := by
  refine ⟨mirrors.left.fill ref output, mirrors.right.fill _ output, ?_, ?_, ?_, ?_⟩
  · rw [size_fill, mirrors.near]
  · rw [size_fill, mirrors.far]
  · intro other reached
    by_cases same : other = ref
    · subst same
      obtain ⟨node, stored⟩ : ∃ node, first.node? other = some node :=
        node?_of_lt (mirrors.near ▸ inside)
      have further : (other.shift window.distance).index < second.nodes.size := by
        rw [mirrors.far]
        exact Nat.add_lt_add_right inside _
      obtain ⟨twin, there⟩ := node?_of_lt further
      rw [outputRelation?_fill_self first output stored,
        outputRelation?_fill_self second output there]
    · have apart : other.shift window.distance ≠ ref.shift window.distance := by
        intro moved
        have index := congrArg NodeRef.index moved
        exact same (congrArg NodeRef.mk (Nat.add_right_cancel index))
      rw [outputRelation?_fill_of_ne mirrors.left output same,
        outputRelation?_fill_of_ne mirrors.right output apart]
      exact mirrors.outputs other reached
  · intro base shared
    obtain ⟨here, there, same⟩ := mirrors.bases base shared
    refine ⟨holds_fill here ref output, holds_fill there _ output, ?_⟩
    rw [relation_fill mirrors.left here, relation_fill mirrors.right there, same]

theorem Mirrors.mapBase_eq (mirrors : Mirrors window limit first second)
    {operator : Operator RelationRef}
    (bases : ∀ name base, operator = .scan name base → window.shared base) :
    operator.mapBase second.relation = operator.mapBase first.relation := by
  apply Operator.mapBase_congr
  intro name base scan
  exact (mirrors.bases base (bases name base scan)).2.2

mutual

theorem Mirrors.plan_eq {window : Window} {limit : Nat} {first second : Store}
    (mirrors : Mirrors window limit first second) (node : Node)
    (within : window.Holds limit node) :
    second.plan (node.shift window.distance) = first.plan node := by
  cases node with
  | node placed inputs =>
      have below := Mirrors.plans_eq mirrors inputs fun input member => within.input member
      obtain ⟨start, -, bases⟩ := within.root
      rw [Node.shift_node, plan_node, plan_node, below, PlacedOperator.shift,
        mirrors.mapBase_eq bases, mirrors.outputs placed.ref start]

theorem Mirrors.plans_eq {window : Window} {limit : Nat} {first second : Store}
    (mirrors : Mirrors window limit first second) (nodes : List Node)
    (within : ∀ node ∈ nodes, window.Holds limit node) :
    (nodes.map (Node.shift window.distance)).map second.plan = nodes.map first.plan := by
  cases nodes with
  | nil => rfl
  | cons node rest =>
      have others : ∀ other ∈ rest, window.Holds limit other :=
        fun other member => within other (List.mem_cons_of_mem node member)
      rw [List.map_cons, List.map_cons, List.map_cons,
        Mirrors.plan_eq mirrors node (within node List.mem_cons_self),
        Mirrors.plans_eq mirrors rest others]

end

/-- Two estimations went the same way. -/
structure Mirrored (window : Window) (limit : Nat) (first second : Estimation) : Prop where
  stores : Mirrors window limit first.store second.store
  computed : second.computed = first.computed.map (Computed.shift window.distance)
  fault : second.fault = first.fault

theorem Mirrors.isSome_output? (mirrors : Mirrors window limit first second) {ref : NodeRef}
    (start : window.start ≤ ref.index) :
    (second.output? (ref.shift window.distance)).isSome = (first.output? ref).isSome := by
  have same := congrArg Option.isSome (mirrors.outputs ref start)
  rw [outputRelation?, outputRelation?, Option.isSome_map, Option.isSome_map] at same
  exact same

theorem Mirrors.estimateOperator (mirrors : Mirrors window limit first second)
    {placed : PlacedOperator} {inputs : List Node}
    (within : window.Holds limit (.node placed inputs)) :
    second.estimateOperator placed.operator (inputs.map (Node.shift window.distance)) =
      first.estimateOperator placed.operator inputs := by
  have outputs : (inputs.map (Node.shift window.distance)).filterMap
        (fun input => second.outputRelation? input.ref) =
      inputs.filterMap fun input => first.outputRelation? input.ref := by
    apply filterMap_eq_of_map_eq
    rw [List.map_map]
    apply List.map_congr_left
    intro input member
    cases input with
    | node below others =>
        rw [Function.comp_apply, Node.ref_shift]
        exact mirrors.outputs below.ref (within.input member).root.1
  rw [Store.estimateOperator, Store.estimateOperator, outputs,
    mirrors.mapBase_eq within.root.2.2]

mutual

theorem Mirrors.estimateNode {window : Window} {limit : Nat} {first second : Store}
    (mirrors : Mirrors window limit first second) (node : Node)
    (within : window.Holds limit node) :
    Mirrored window limit (first.estimateNode node)
      (second.estimateNode (node.shift window.distance)) := by
  cases node with
  | node placed inputs =>
      have below := Mirrors.estimatePending mirrors inputs fun input member => within.input member
      obtain ⟨start, inside, -⟩ := within.root
      rw [Node.shift_node, Store.estimateNode, Store.estimateNode]
      generalize first.estimatePending inputs = left at below
      generalize second.estimatePending (inputs.map (Node.shift window.distance)) = right at below
      obtain ⟨near, computed, fault⟩ := left
      obtain ⟨far, others, told⟩ := right
      obtain ⟨stores, listed, same⟩ := below
      cases same
      cases listed
      cases fault with
      | some fault => exact ⟨stores, rfl, rfl⟩
      | none =>
          have output := stores.estimateOperator within
          simp only [PlacedOperator.shift, output]
          cases told : near.estimateOperator placed.operator inputs with
          | error fault => exact ⟨stores, rfl, rfl⟩
          | ok output =>
              refine ⟨stores.fill start inside output, ?_, rfl⟩
              rw [List.map_append]
              rfl

theorem Mirrors.estimatePending {window : Window} {limit : Nat} {first second : Store}
    (mirrors : Mirrors window limit first second) (nodes : List Node)
    (within : ∀ node ∈ nodes, window.Holds limit node) :
    Mirrored window limit (first.estimatePending nodes)
      (second.estimatePending (nodes.map (Node.shift window.distance))) := by
  cases nodes with
  | nil => exact ⟨mirrors, rfl, rfl⟩
  | cons node rest =>
      have others : ∀ other ∈ rest, window.Holds limit other :=
        fun other member => within other (List.mem_cons_of_mem node member)
      have here := within node List.mem_cons_self
      have start : window.start ≤ node.ref.index := by
        cases node with
        | node placed inputs => exact here.root.1
      rw [List.map_cons, Store.estimatePending, Store.estimatePending, Node.ref_shift,
        mirrors.isSome_output? start]
      split
      · exact Mirrors.estimatePending mirrors rest others
      · have early := Mirrors.estimateNode mirrors node here
        generalize first.estimateNode node = left at early
        generalize second.estimateNode (node.shift window.distance) = right at early
        obtain ⟨near, computed, fault⟩ := left
        obtain ⟨far, listed, told⟩ := right
        obtain ⟨stores, same, ended⟩ := early
        cases ended
        cases same
        cases fault with
        | some fault => exact ⟨stores, rfl, rfl⟩
        | none =>
            have late := Mirrors.estimatePending stores rest others
            refine ⟨late.stores, ?_, late.fault⟩
            simp only [Estimation.after, late.computed, List.map_append]

end

end Store

end Selectivity

import Selectivity.Proofs.Query.Shape

/-!
# Nodes at a distance

When the nodes of one plan are made in two stores, they get different references, and the distance
between these is the same for all of them: it is the number of nodes that the second store had
before the first one.
-/

namespace Selectivity

def NodeRef.shift (distance : Nat) (ref : NodeRef) : NodeRef :=
  ⟨ref.index + distance⟩

def PlacedOperator.shift (distance : Nat) (placed : PlacedOperator) : PlacedOperator :=
  ⟨placed.ref.shift distance, placed.operator⟩

namespace Node

/-- The node with all references moved by a distance. -/
def shift (distance : Nat) (node : Node) : Node :=
  node.map (PlacedOperator.shift distance)

theorem shift_node (distance : Nat) (placed : PlacedOperator) (inputs : List Node) :
    shift distance (.node placed inputs) =
      .node (placed.shift distance) (inputs.map (shift distance)) :=
  Tree.map_node _ placed inputs

@[simp]
theorem ref_shift (distance : Nat) (node : Node) :
    (shift distance node).ref = node.ref.shift distance := by
  cases node with
  | node placed inputs =>
      rw [shift_node]
      rfl

end Node

/-- Where the nodes of a plan begin in one store, how far away they are in another, and which base
relations the stores share. -/
structure Window where
  start : Nat
  distance : Nat
  shared : RelationRef → Prop

/-- A node and all nodes below it lie in a window that ends at a limit. -/
def Window.Holds (window : Window) (limit : Nat) (node : Node) : Prop :=
  ∀ placed ∈ node.preorder, window.start ≤ placed.ref.index ∧ placed.ref.index < limit ∧
    ∀ name base, placed.operator = .scan name base → window.shared base

namespace Window

variable {window : Window} {limit : Nat}

theorem Holds.root {placed : PlacedOperator} {inputs : List Node}
    (holds : window.Holds limit (.node placed inputs)) :
    window.start ≤ placed.ref.index ∧ placed.ref.index < limit ∧
      ∀ name base, placed.operator = .scan name base → window.shared base :=
  holds placed (Tree.mem_preorder_node.mpr (Or.inl rfl))

theorem Holds.input {placed : PlacedOperator} {inputs : List Node}
    (holds : window.Holds limit (.node placed inputs)) {input : Node} (member : input ∈ inputs) :
    window.Holds limit input :=
  fun below within => holds below (Tree.mem_preorder_node.mpr (Or.inr ⟨input, member, within⟩))

theorem Holds.mono {node : Node} (holds : window.Holds limit node) {further : Nat}
    (later : limit ≤ further) : window.Holds further node := by
  intro placed member
  obtain ⟨after, before, bases⟩ := holds placed member
  exact ⟨after, Nat.lt_of_lt_of_le before later, bases⟩

end Window

namespace Query

/-- Two stores in which the same nodes have been made: they have the same number of new nodes. -/
structure Beside (window : Window) (first second : Store) : Prop where
  reach : window.start ≤ first.nodes.size
  size : second.nodes.size = first.nodes.size + window.distance

/-- The same node made in two stores. -/
structure Twins (window : Window) (first : Store) (node : Node) (second : Store) (other : Node) :
    Prop extends Beside window first second where
  same : other = node.shift window.distance
  within : window.Holds first.nodes.size node

variable {window : Window} {first second : Store}

theorem size_addNode (store : Store) (operator : Operator RelationRef) (inputs : List Node) :
    (store.addNode operator inputs).1.nodes.size = store.nodes.size + 1 :=
  Array.size_push _

theorem size_le_addNode (store : Store) (operator : Operator RelationRef) (inputs : List Node) :
    store.nodes.size ≤ (store.addNode operator inputs).1.nodes.size := by
  rw [size_addNode]
  exact Nat.le_succ _

theorem Twins.keep {node other : Node} (twins : Twins window first node second other)
    {third fourth : Store} (beside : Beside window third fourth)
    (grown : first.nodes.size ≤ third.nodes.size) : Twins window third node fourth other :=
  ⟨beside, twins.same, twins.within.mono grown⟩

theorem Beside.addNode (beside : Beside window first second) (operator : Operator RelationRef)
    (inputs : List Node)
    (bases : ∀ name base, operator = .scan name base → window.shared base)
    (within : ∀ input ∈ inputs, window.Holds first.nodes.size input) :
    Twins window (first.addNode operator inputs).1 (first.addNode operator inputs).2
      (second.addNode operator (inputs.map (Node.shift window.distance))).1
      (second.addNode operator (inputs.map (Node.shift window.distance))).2 := by
  refine ⟨⟨?_, ?_⟩, ?_, ?_⟩
  · rw [size_addNode]
    exact Nat.le_succ_of_le beside.reach
  · rw [size_addNode, size_addNode, beside.size, Nat.succ_add]
  · have moved := Node.shift_node window.distance ⟨⟨first.nodes.size⟩, operator⟩ inputs
    have place : second.nodes.size = first.nodes.size + window.distance := beside.size
    rw [Store.addNode, Store.addNode, moved, PlacedOperator.shift, NodeRef.shift, ← place]
  · intro placed member
    rw [size_addNode]
    rcases Tree.mem_preorder_node.mp member with rfl | ⟨input, listed, below⟩
    · exact ⟨beside.reach, Nat.lt_succ_self _, bases⟩
    · exact (within input listed).mono (Nat.le_succ _) placed below

theorem Twins.apply {node other : Node} (twins : Twins window first node second other)
    (operator : Operator RelationRef)
    (noScan : ∀ name base, operator ≠ .scan name base) :
    Twins window (first.addNode operator [node]).1 (first.addNode operator [node]).2
      (second.addNode operator [other]).1 (second.addNode operator [other]).2 := by
  rw [twins.same]
  apply twins.toBeside.addNode operator [node]
  · exact fun name base same => absurd same (noScan name base)
  · exact fun input member => List.mem_singleton.mp member ▸ twins.within

theorem Twins.pair {node other : Node} (twins : Twins window first node second other)
    {right : Node} (within : window.Holds first.nodes.size right)
    (operator : Operator RelationRef)
    (noScan : ∀ name base, operator ≠ .scan name base) :
    Twins window (first.addNode operator [node, right]).1 (first.addNode operator [node, right]).2
      (second.addNode operator [other, right.shift window.distance]).1
      (second.addNode operator [other, right.shift window.distance]).2 := by
  rw [twins.same]
  apply twins.toBeside.addNode operator [node, right]
  · exact fun name base same => absurd same (noScan name base)
  · exact forall_mem_pair twins.within within

/-- What each item keeps of two runs side by side holds when both chains have been made. -/
theorem chain_twins {Item : Type} (items : List Item)
    (extend further : Store → Node → Item → Store × Node)
    (Alike : Store → Node → Store → Node → Prop)
    (step : ∀ item ∈ items, ∀ first node second other, Alike first node second other →
      Alike (extend first node item).1 (extend first node item).2
        (further second other item).1 (further second other item).2)
    {node other : Node} (alike : Alike first node second other) :
    Alike (chain extend first node items).1 (chain extend first node items).2
      (chain further second other items).1 (chain further second other items).2 := by
  induction items generalizing first node second other with
  | nil => exact alike
  | cons item rest induction =>
      apply induction
      · exact fun later member => step later (List.mem_cons_of_mem item member)
      · exact step item List.mem_cons_self first node second other alike

theorem Beside.addScan (beside : Beside window first second) {scan : BaseScan RelationRef}
    (base : window.shared scan.base) :
    Twins window (first.addNode scan.operator []).1 (first.addNode scan.operator []).2
      (second.addNode scan.operator []).1 (second.addNode scan.operator []).2 := by
  apply beside.addNode scan.operator []
  · intro name other same
    cases same
    exact base
  · exact nofun

theorem extendProduct_twins {scan : BaseScan RelationRef} {node other : Node}
    (twins : Twins window first node second other) (base : window.shared scan.base) :
    Twins window (CanonicalPlan.extendProduct Store.addNode first node scan).1
      (CanonicalPlan.extendProduct Store.addNode first node scan).2
      (CanonicalPlan.extendProduct Store.addNode second other scan).1
      (CanonicalPlan.extendProduct Store.addNode second other scan).2 := by
  have scanned := twins.toBeside.addScan base
  have left := twins.keep scanned.toBeside (size_le_addNode first _ [])
  rw [CanonicalPlan.extendProduct, CanonicalPlan.extendProduct]
  have made := left.pair scanned.within .product nofun
  rw [← scanned.same] at made
  exact made

theorem extendJoins_twins {group : JoinGroup RelationRef} {node other : Node}
    (twins : Twins window first node second other) (base : window.shared group.scan.base) :
    Twins window (CanonicalPlan.extendJoins Store.addNode first node group).1
      (CanonicalPlan.extendJoins Store.addNode first node group).2
      (CanonicalPlan.extendJoins Store.addNode second other group).1
      (CanonicalPlan.extendJoins Store.addNode second other group).2 := by
  have scanned := twins.toBeside.addScan base
  have left := twins.keep scanned.toBeside (size_le_addNode first _ [])
  have right := scanned.within
  simp only [CanonicalPlan.extendJoins, scanned.same]
  generalize (first.addNode group.scan.operator []).2 = scan at right
  -- the shared scan has to stay in the window while the joins are made
  have run := chain_twins group.conditions
    (fun store node condition => store.addNode (.join condition) [node, scan])
    (fun store node condition =>
      store.addNode (.join condition) [node, scan.shift window.distance])
    (fun first node second other =>
      window.Holds first.nodes.size scan ∧ Twins window first node second other)
    (by
      intro condition _ first node second other alike
      refine ⟨alike.1.mono (size_le_addNode first _ _), ?_⟩
      exact alike.2.pair alike.1 (.join condition) nofun)
    ⟨right, left⟩
  exact run.2

/-- The nodes of one plan that are made in two stores are twins. -/
theorem assemble_twins (plan : CanonicalPlan RelationRef) (beside : Beside window first second)
    (bases : ∀ scan ∈ plan.scans, window.shared scan.base) :
    Twins window (plan.assemble Store.addNode first).1 (plan.assemble Store.addNode first).2
      (plan.assemble Store.addNode second).1 (plan.assemble Store.addNode second).2 := by
  obtain ⟨projection, source, others, joins, selections⟩ := plan
  have scanned := beside.addScan (bases source List.mem_cons_self)
  have products := chain_twins others (CanonicalPlan.extendProduct Store.addNode)
    (CanonicalPlan.extendProduct Store.addNode) (Twins window)
    (by
      intro scan member first node second other twins
      apply extendProduct_twins twins
      apply bases
      exact List.mem_append_left _ (List.mem_cons_of_mem _ member))
    scanned
  have joined := chain_twins joins (CanonicalPlan.extendJoins Store.addNode)
    (CanonicalPlan.extendJoins Store.addNode) (Twins window)
    (by
      intro group member first node second other twins
      apply extendJoins_twins twins
      apply bases
      exact List.mem_append_right _ (List.mem_map_of_mem member))
    products
  have selected := chain_twins selections (CanonicalPlan.extendSelection Store.addNode)
    (CanonicalPlan.extendSelection Store.addNode) (Twins window)
    (fun condition _ _ _ _ _ twins => twins.apply (.select (some condition)) nofun)
    joined
  cases projection with
  | none => exact selected
  | some attributes => exact selected.apply (.project attributes) nofun

end Query

end Selectivity

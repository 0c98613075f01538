import Selectivity.Proofs.Query.Resolution
import Selectivity.Proofs.Store.WellFormed
import Selectivity.Query.Canonical

/-!
# The shape of canonical plans

Canonical plans are told from the nodes themselves: products that lean to the left over scans,
joins over them that share a scan line by line, selections over these and at most one projection.
The nodes that are made for the parts of a canonical plan have this shape, stand in the store, are
new, and change nothing that was there.
-/

namespace Selectivity.Query

def BaseScan.at (scan : BaseScan RelationRef) (ref : NodeRef) : Node :=
  .node ⟨ref, scan.operator⟩ []

/-- Products of two inputs that lean to the left, over scans that are listed in order. -/
inductive ProductTree : Node → List (BaseScan RelationRef) → Prop where
  | scan (scan : BaseScan RelationRef) (ref : NodeRef) : ProductTree (scan.at ref) [scan]
  | product {left : Node} {scans : List (BaseScan RelationRef)}
      (scan : BaseScan RelationRef) (right ref : NodeRef) :
      ProductTree left scans →
      ProductTree (.node ⟨ref, .product⟩ [left, scan.at right]) (scans ++ [scan])

/-- Joins with one and the same right input, innermost first. -/
inductive JoinChain (left right : Node) : Node → List Comparison → Prop where
  | start : JoinChain left right left []
  | join {root : Node} {conditions : List Comparison} (condition : Comparison)
      (ref : NodeRef) :
      JoinChain left right root conditions →
      JoinChain left right (.node ⟨ref, .join condition⟩ [root, right])
        (conditions ++ [condition])

/-- Groups of joins over products; the joins of a group share one scan. -/
inductive JoinTree (products : Node) : Node → List (JoinGroup RelationRef) → Prop where
  | start : JoinTree products products []
  | group {left root : Node} {groups : List (JoinGroup RelationRef)}
      (group : JoinGroup RelationRef) (ref : NodeRef) :
      JoinTree products left groups →
      JoinChain left (group.scan.at ref) root group.conditions →
      JoinTree products root (groups ++ [group])

/-- Selections over joins, innermost first. -/
inductive SelectionChain (joined : Node) : Node → List Predicate → Prop where
  | start : SelectionChain joined joined []
  | select {root : Node} {conditions : List Predicate} (condition : Predicate)
      (ref : NodeRef) :
      SelectionChain joined root conditions →
      SelectionChain joined (.node ⟨ref, .select (some condition)⟩ [root])
        (conditions ++ [condition])

/-- A projection over selections, or the selections themselves if all attributes are kept. -/
inductive Projected (selected : Node) : Node → Option (List String) → Prop where
  | all : Projected selected selected none
  | project (attributes : List String) (ref : NodeRef) :
      Projected selected (.node ⟨ref, .project attributes⟩ [selected]) (some attributes)

/-- A node is the root of a canonical plan with the given parts. -/
structure Canonical (root : Node) (plan : CanonicalPlan RelationRef) : Prop where
  shape : ∃ products joined selected,
    ProductTree products (plan.first :: plan.others) ∧
      JoinTree products joined plan.joins ∧
        SelectionChain joined selected plan.selections ∧
          Projected selected root plan.projection

section ScannedNames

variable {store : Store} {name : String}

theorem mem_relations_scan {scan : BaseScan RelationRef} {ref : NodeRef} :
    name ∈ (store.plan (scan.at ref)).relations ↔ name = scan.name := by
  have relations : (store.plan (scan.at ref)).relations = [scan.name] := rfl
  rw [relations, List.mem_singleton]

theorem mem_relations_node {ref : NodeRef} {inputs : List Node}
    (operator : Operator RelationRef) (noScan : ∀ name base, operator ≠ .scan name base) :
    name ∈ (store.plan (.node ⟨ref, operator⟩ inputs)).relations ↔
      ∃ input ∈ inputs, name ∈ (store.plan input).relations := by
  have relations : (store.plan (.node ⟨ref, operator⟩ inputs)).relations =
      NameSet.union (inputs.map fun input => (store.plan input).relations) := by
    rw [Store.plan, Tree.map_node, Plan.relations, Tree.fold_node, List.map_map]
    cases operator with
    | scan name base => exact absurd rfl (noScan name base)
    | _ => rfl
  rw [relations, NameSet.mem_union]
  constructor
  · rintro ⟨set, member, within⟩
    obtain ⟨input, below, rfl⟩ := List.mem_map.mp member
    exact ⟨input, below, within⟩
  · rintro ⟨input, below, within⟩
    exact ⟨_, List.mem_map_of_mem below, within⟩

theorem ProductTree.mem_relations {root : Node} {scans : List (BaseScan RelationRef)}
    (tree : ProductTree root scans) :
    name ∈ (store.plan root).relations ↔ name ∈ scans.map BaseScan.name := by
  induction tree with
  | scan scan ref => exact mem_relations_scan.trans List.mem_singleton.symm
  | product scan right ref tree induction =>
      rw [mem_relations_node .product nofun, List.map_append, List.mem_append, ← induction]
      constructor
      · rintro ⟨input, member, within⟩
        rcases List.mem_cons.mp member with rfl | last
        · exact Or.inl within
        · rw [List.mem_singleton.mp last, mem_relations_scan] at within
          exact Or.inr (List.mem_singleton.mpr within)
      · rintro (within | last)
        · exact ⟨_, List.mem_cons_self, within⟩
        · refine ⟨_, List.mem_cons_of_mem _ List.mem_cons_self, mem_relations_scan.mpr ?_⟩
          exact List.mem_singleton.mp last

theorem JoinChain.mem_relations {left right root : Node} {conditions : List Comparison}
    (chain : JoinChain left right root conditions) :
    name ∈ (store.plan root).relations ↔
      name ∈ (store.plan left).relations ∨
        conditions ≠ [] ∧ name ∈ (store.plan right).relations := by
  induction chain with
  | start =>
      constructor
      · exact Or.inl
      · rintro (within | ⟨none, -⟩)
        · exact within
        · exact absurd rfl none
  | join condition ref chain induction =>
      rw [mem_relations_node (.join condition) nofun]
      constructor
      · rintro ⟨input, member, within⟩
        rcases List.mem_cons.mp member with rfl | last
        · exact (induction.mp within).imp id fun right => ⟨by simp, right.2⟩
        · rw [List.mem_singleton.mp last] at within
          exact Or.inr ⟨by simp, within⟩
      · rintro (within | ⟨-, within⟩)
        · exact ⟨_, List.mem_cons_self, induction.mpr (Or.inl within)⟩
        · exact ⟨_, List.mem_cons_of_mem _ List.mem_cons_self, within⟩

theorem JoinTree.mem_relations {products root : Node} {groups : List (JoinGroup RelationRef)}
    (tree : JoinTree products root groups)
    (conditions : ∀ group ∈ groups, group.conditions ≠ []) :
    name ∈ (store.plan root).relations ↔
      name ∈ (store.plan products).relations ∨
        name ∈ groups.map fun group => group.scan.name := by
  induction tree with
  | start => exact (or_iff_left List.not_mem_nil).symm
  | @group left root groups group ref tree chain induction =>
      have before := induction fun other member =>
        conditions other (List.mem_append_left _ member)
      have some := conditions group (List.mem_append_right _ List.mem_cons_self)
      rw [chain.mem_relations, before, mem_relations_scan, List.map_append, List.mem_append,
        List.map_singleton, List.mem_singleton, and_iff_right some, or_assoc]

theorem SelectionChain.mem_relations {joined root : Node} {conditions : List Predicate}
    (chain : SelectionChain joined root conditions) :
    name ∈ (store.plan root).relations ↔ name ∈ (store.plan joined).relations := by
  induction chain with
  | start => rfl
  | select condition ref chain induction =>
      rw [mem_relations_node (.select (some condition)) nofun, ← induction]
      exact ⟨fun ⟨_, member, within⟩ => List.mem_singleton.mp member ▸ within,
        fun within => ⟨_, List.mem_cons_self, within⟩⟩

theorem Projected.mem_relations {selected root : Node} {projection : Option (List String)}
    (projected : Projected selected root projection) :
    name ∈ (store.plan root).relations ↔ name ∈ (store.plan selected).relations := by
  cases projected with
  | all => rfl
  | project attributes ref =>
      rw [mem_relations_node (.project attributes) nofun]
      exact ⟨fun ⟨_, member, within⟩ => List.mem_singleton.mp member ▸ within,
        fun within => ⟨_, List.mem_cons_self, within⟩⟩

/-- A canonical plan scans exactly the relations among its parts, if no group of joins is without a
condition. -/
theorem Canonical.mem_relations {root : Node} {plan : CanonicalPlan RelationRef}
    (canonical : Canonical root plan)
    (conditions : ∀ group ∈ plan.joins, group.conditions ≠ []) :
    name ∈ (store.plan root).relations ↔ name ∈ plan.scans.map BaseScan.name := by
  obtain ⟨products, joined, selected, product, join, selection, projection⟩ := canonical.shape
  rw [projection.mem_relations, selection.mem_relations, join.mem_relations conditions,
    product.mem_relations, CanonicalPlan.scans, List.map_append, List.mem_append, List.map_map]
  rfl

end ScannedNames

/-- What a chain keeps for each item holds of all its items in the end. -/
theorem chain_invariant {State Node Item : Type} (items : List Item)
    (extend : State → Node → Item → State × Node)
    (Good : List Item → State → Node → Prop)
    (step : ∀ done item state node, item ∈ items → Good done state node →
      Good (done ++ [item]) (extend state node item).1 (extend state node item).2)
    {done : List Item} {state : State} {node : Node} (start : Good done state node) :
    Good (done ++ items) (chain extend state node items).1
      (chain extend state node items).2 := by
  induction items generalizing done state node with
  | nil =>
      rw [List.append_nil]
      exact start
  | cons item rest induction =>
      rw [List.append_cons]
      apply induction
      · exact fun done other state node member =>
          step done other state node (List.mem_cons_of_mem item member)
      · exact step done item state node List.mem_cons_self start

theorem chain_keeps {State Node Item : Type} {items : List Item}
    {extend : State → Node → Item → State × Node} (Good : State → Prop)
    (keeps : ∀ state node item, Good state → Good (extend state node item).1)
    {state : State} (node : Node) (good : Good state) : Good (chain extend state node items).1 := by
  induction items generalizing state node with
  | nil => exact good
  | cons item rest induction => exact induction _ (keeps state node item good)

/-- What every new node keeps of a state is kept when the nodes of a plan are made. -/
theorem assemble_keeps {Base State Node : Type}
    {make : State → Operator Base → List Node → State × Node} (Good : State → Prop)
    (keeps : ∀ state operator inputs, Good state → Good (make state operator inputs).1)
    (plan : CanonicalPlan Base) {state : State} (good : Good state) :
    Good (plan.assemble make state).1 := by
  obtain ⟨projection, first, others, joins, selections⟩ := plan
  have scanned : Good (make state first.operator []).1 := keeps _ _ _ good
  have products : ∀ state node, Good state →
      Good (chain (CanonicalPlan.extendProduct make) state node others).1 := by
    intro state node
    apply chain_keeps Good
    exact fun state node scan good => keeps _ _ _ (keeps _ _ _ good)
  have joined : ∀ state node, Good state →
      Good (chain (CanonicalPlan.extendJoins make) state node joins).1 := by
    intro state node
    apply chain_keeps Good
    intro state node group good
    apply chain_keeps Good
    · exact fun state node condition good => keeps _ _ _ good
    · exact keeps _ _ _ good
  have selected : ∀ state node, Good state →
      Good (chain (CanonicalPlan.extendSelection make) state node selections).1 := by
    intro state node
    apply chain_keeps Good
    exact fun state node condition good => keeps _ _ _ good
  cases projection with
  | none => exact selected _ _ (joined _ _ (products _ _ scanned))
  | some attributes => exact keeps _ _ _ (selected _ _ (joined _ _ (products _ _ scanned)))

/-- A store after some nodes were made: what was there is there, and no output was said. -/
structure Grown (start store : Store) : Prop where
  extension : Store.Extends start store
  wellFormed : store.WellFormed
  outputs : ∀ ref, store.output? ref = start.output? ref
  size_le : start.nodes.size ≤ store.nodes.size

/-- A node that was made after the start, with all nodes below it. -/
structure New (start store : Store) (node : Node) : Prop where
  stored : store.node? node.ref = some node
  fresh : ∀ placed ∈ node.preorder, start.nodes.size ≤ placed.ref.index

variable {start store : Store}

theorem Grown.refl (wellFormed : start.WellFormed) : Grown start start :=
  ⟨Store.Extends.refl start, wellFormed, fun _ => rfl, Nat.le_refl _⟩

theorem New.mono {later : Store} {node : Node} (extension : Store.Extends store later)
    (new : New start store node) : New start later node :=
  ⟨extension.nodes node.ref node new.stored, new.fresh⟩

theorem Grown.addNode (grown : Grown start store) (operator : Operator RelationRef)
    {inputs : List Node} (made : ∀ input ∈ inputs, New start store input)
    (arity : operator.accepts inputs.length = true)
    (base : ∀ name base, operator = .scan name base → start.Holds base) :
    Grown start (store.addNode operator inputs).1 ∧
      New start (store.addNode operator inputs).1 (store.addNode operator inputs).2 := by
  have extension := Store.extends_addNode store operator inputs
  refine ⟨⟨grown.extension.trans extension, ?_, ?_, ?_⟩, ?_, ?_⟩
  · exact grown.wellFormed.addNode (fun input member => (made input member).stored) arity
      fun name kept scan => (base name kept scan).mono grown.extension
  · intro ref
    rw [Store.output?_addNode, grown.outputs]
  · exact Nat.le_trans grown.size_le (by simp [Store.addNode])
  · exact Store.node?_addNode store operator inputs
  · intro placed member
    rcases Tree.mem_preorder_node.mp member with rfl | ⟨input, below, member⟩
    · exact grown.size_le
    · exact (made input below).fresh placed member

theorem Grown.addScan {scan : BaseScan RelationRef} (grown : Grown start store)
    (base : start.Holds scan.base) :
    Grown start (store.addNode scan.operator []).1 ∧
      New start (store.addNode scan.operator []).1 (store.addNode scan.operator []).2 := by
  refine grown.addNode _ (fun input member => absurd member List.not_mem_nil) rfl ?_
  intro name other same
  cases same
  exact base

/-- The root was made after the start, and stands in a store that has grown from there. -/
structure Made (start store : Store) (root : Node) : Prop where
  grown : Grown start store
  new : New start store root

theorem Made.output?_eq_none {root : Node} (made : Made start store root)
    {placed : PlacedOperator} (member : placed ∈ root.preorder) :
    store.output? placed.ref = none := by
  have unused : start.nodes[placed.ref.index]? = none :=
    Array.getElem?_eq_none (made.new.fresh placed member)
  rw [made.grown.outputs, Store.output?, unused]
  rfl

theorem Made.root_unknown {root : Node} (made : Made start store root) :
    store.output? root.ref = none := by
  cases root with
  | node placed inputs =>
      exact made.output?_eq_none (Tree.mem_preorder_node.mpr (Or.inl rfl))

theorem Grown.apply (grown : Grown start store) (operator : Operator RelationRef)
    {inputs : List Node} (made : ∀ input ∈ inputs, New start store input)
    (arity : operator.accepts inputs.length = true)
    (noScan : ∀ name base, operator ≠ .scan name base) :
    Made start (store.addNode operator inputs).1 (store.addNode operator inputs).2 := by
  obtain ⟨later, new⟩ := grown.addNode operator made arity
    fun name base same => absurd same (noScan name base)
  exact ⟨later, new⟩

theorem extendProduct_made {scan : BaseScan RelationRef} {left : Node}
    (made : Made start store left) (base : start.Holds scan.base) :
    Made start (CanonicalPlan.extendProduct Store.addNode store left scan).1
      (CanonicalPlan.extendProduct Store.addNode store left scan).2 := by
  obtain ⟨grown, new⟩ := made.grown.addScan base
  have kept := made.new.mono (Store.extends_addNode store scan.operator [])
  exact grown.apply .product (forall_mem_pair kept new) rfl nofun

theorem extendJoins_made {group : JoinGroup RelationRef} {left : Node}
    (made : Made start store left) (base : start.Holds group.scan.base) :
    ∃ ref, Made start (CanonicalPlan.extendJoins Store.addNode store left group).1
        (CanonicalPlan.extendJoins Store.addNode store left group).2 ∧
      JoinChain left (group.scan.at ref)
        (CanonicalPlan.extendJoins Store.addNode store left group).2 group.conditions := by
  obtain ⟨grown, new⟩ := made.grown.addScan base
  have kept := made.new.mono (Store.extends_addNode store group.scan.operator [])
  refine ⟨⟨store.nodes.size⟩, ?_⟩
  have right : (store.addNode group.scan.operator []).2 = group.scan.at ⟨store.nodes.size⟩ := rfl
  rw [right] at new
  -- the shared scan stays new while the joins are made, which is why the invariant names it
  have run := chain_invariant group.conditions
    (fun state left condition =>
      Store.addNode state (.join condition) [left, group.scan.at ⟨store.nodes.size⟩])
    (fun done state root =>
      New start state (group.scan.at ⟨store.nodes.size⟩) ∧ Made start state root ∧
        JoinChain left (group.scan.at ⟨store.nodes.size⟩) root done)
    (by
      intro done condition state root _ good
      obtain ⟨scan, made, joined⟩ := good
      exact ⟨scan.mono (Store.extends_addNode state _ _),
        made.grown.apply (.join condition) (forall_mem_pair made.new scan) rfl nofun,
        .join condition _ joined⟩)
    ⟨new, ⟨grown, kept⟩, .start⟩
  exact run.2

/-- The nodes that are made for the parts of a canonical plan are new and have its shape. -/
theorem assemble_made (plan : CanonicalPlan RelationRef) (wellFormed : start.WellFormed)
    (bases : ∀ scan ∈ plan.scans, start.Holds scan.base) :
    Made start (plan.assemble Store.addNode start).1 (plan.assemble Store.addNode start).2 ∧
      Canonical (plan.assemble Store.addNode start).2 plan := by
  obtain ⟨projection, first, others, joins, selections⟩ := plan
  obtain ⟨grown, new⟩ := (Grown.refl wellFormed).addScan (bases first List.mem_cons_self)
  have products := chain_invariant others
    (CanonicalPlan.extendProduct Store.addNode)
    (fun done state root => Made start state root ∧ ProductTree root done)
    (by
      intro done scan state root member good
      refine ⟨extendProduct_made good.1 (bases scan ?_), .product scan _ _ good.2⟩
      exact List.mem_append_left _ (List.mem_cons_of_mem _ member))
    ⟨⟨grown, new⟩, .scan first _⟩
  have joined := chain_invariant joins
    (CanonicalPlan.extendJoins Store.addNode)
    (fun done state root => Made start state root ∧ JoinTree _ root done)
    (by
      intro done group state root member good
      obtain ⟨ref, made, chained⟩ := extendJoins_made good.1
        (bases group.scan (List.mem_append_right _ (List.mem_map_of_mem member)))
      exact ⟨made, .group group ref good.2 chained⟩)
    ⟨products.1, .start⟩
  have selected := chain_invariant selections
    (CanonicalPlan.extendSelection Store.addNode)
    (fun done state root => Made start state root ∧ SelectionChain _ root done)
    (by
      intro done condition state root _ good
      refine ⟨good.1.grown.apply (.select (some condition)) ?_ rfl nofun,
        .select condition _ good.2⟩
      exact fun input member => List.mem_singleton.mp member ▸ good.1.new)
    ⟨joined.1, .start⟩
  cases projection with
  | none => exact ⟨selected.1, _, _, _, products.2, joined.2, selected.2, .all⟩
  | some attributes =>
      refine ⟨selected.1.grown.apply (.project attributes) ?_ rfl nofun,
        _, _, _, products.2, joined.2, selected.2, .project attributes _⟩
      exact fun input member => List.mem_singleton.mp member ▸ selected.1.new

end Selectivity.Query

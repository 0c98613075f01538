import Mathlib.Data.List.Forall2
import Selectivity.Proofs.Plan.Hashing
import Selectivity.Proofs.Session.JoinLines

/-!
# Hashes that nodes get when they are made

A node is hashed once, when it is made, by the hashes that its inputs have got before. Whatever
happens in a session later, two nodes whose plans are the same have got the same hash. Both can be
told from the bare trees of the nodes, in which nothing is left of the statistics and of what is
shared.
-/

namespace Selectivity

variable {Hash : Type}

/-- All nodes of a store, the oldest one first. -/
def Store.nodeList (store : Store) : List Node :=
  store.nodes.toList.map NodeCell.node

/-- Hashes nodes that were made one after the other, after all nodes whose hashes are known. -/
def Node.record (hashing : Hashing Hash) (known : List Hash) : List Node → List Hash
  | [] => known
  | node :: rest =>
      let inputs := node.children.filterMap fun input : Node => known[input.ref.index]?
      record hashing (known ++ [node.operator.hash hashing inputs]) rest

namespace Store

theorem getElem?_nodeList (store : Store) (ref : NodeRef) :
    store.nodeList[ref.index]? = store.node? ref := by
  rw [nodeList, List.getElem?_map, Array.getElem?_toList, node?]

theorem nodeList_prefix {before after : Store}
    (kept : ∀ ref node, before.node? ref = some node → after.node? ref = some node) :
    before.nodeList <+: after.nodeList := by
  rw [List.prefix_iff_getElem?]
  intro index inside
  have here : before.node? ⟨index⟩ = some before.nodeList[index] := by
    rw [← getElem?_nodeList]
    exact List.getElem?_eq_getElem inside
  have there := kept ⟨index⟩ _ here
  rwa [← getElem?_nodeList] at there

end Store

/-- If every node comes after its inputs, then what is recorded are the hashes. -/
theorem Node.record_eq (hashing : Hashing Hash) (older newer : List Node)
    (ordered : ∀ index node, (older ++ newer)[index]? = some node → ∀ input : Node,
      input ∈ node.children →
        input.ref.index < index ∧ (older ++ newer)[input.ref.index]? = some input) :
    Node.record hashing (older.map (Node.hash hashing)) newer =
      (older ++ newer).map (Node.hash hashing) := by
  induction newer generalizing older with
  | nil => rw [record, List.append_nil]
  | cons node rest induction =>
      have here : (older ++ node :: rest)[older.length]? = some node := by
        rw [List.getElem?_append_right (Nat.le_refl _), Nat.sub_self]
        rfl
      -- The inputs are among the older nodes, so the hashes that they have got are at hand.
      have known : ∀ input : Node, input ∈ node.children →
          (older.map (Node.hash hashing))[input.ref.index]? = some (input.hash hashing) := by
        intro input member
        obtain ⟨before, found⟩ := ordered _ _ here input member
        rw [List.getElem?_append_left before] at found
        rw [List.getElem?_map, found]
        rfl
      have inputs := Store.filterMap_eq_of_map_eq (List.map_congr_left known)
      rw [List.filterMap_eq_map'] at inputs
      have own : node.hash hashing =
          node.operator.hash hashing (node.children.map (hash hashing)) := by
        cases node with
        | node placed children => exact Tree.fold_node _ placed children
      have split : older ++ node :: rest = (older ++ [node]) ++ rest := by
        rw [List.append_assoc, List.singleton_append]
      rw [record, inputs, ← own, split]
      rw [split] at ordered
      rw [← induction (older ++ [node]) ordered, List.map_append, List.map_singleton]

namespace Session

/-- Performs an operation and hashes the nodes that it makes. -/
def performHashed (hashing : Hashing Hash) (state : Session × List Hash) (operation : Operation) :
    Session × List Hash :=
  let after := (state.1.perform operation).1
  (after, Node.record hashing state.2 (after.store.nodeList.drop state.2.length))

/-- The hashes that all nodes have got after some operations. -/
def hashesAfter (hashing : Hashing Hash) (operations : List Operation) : List Hash :=
  (operations.foldl (performHashed hashing) (initial, [])).2

theorem performHashed_eq (hashing : Hashing Hash) {session : Session}
    (wellFormed : session.store.WellFormed) (operation : Operation) :
    let after := (session.perform operation).1
    performHashed hashing (session, session.store.nodeList.map (Node.hash hashing)) operation =
      (after, after.store.nodeList.map (Node.hash hashing)) := by
  intro after
  obtain ⟨newer, made⟩ := Store.nodeList_prefix fun _ _ found =>
    (perform_effect wellFormed operation).node? found
  have settled := perform_wellFormed wellFormed operation
  have ordered : ∀ index node, (session.store.nodeList ++ newer)[index]? = some node →
      ∀ input : Node, input ∈ node.children → input.ref.index < index ∧
        (session.store.nodeList ++ newer)[input.ref.index]? = some input := by
    rw [made]
    intro index node found input member
    rw [Store.getElem?_nodeList _ ⟨index⟩] at found
    have placed := settled.nodes ⟨index⟩ node found
    rw [Store.getElem?_nodeList]
    exact ⟨placed.older input member, placed.inputs input member⟩
  have recorded := Node.record_eq hashing session.store.nodeList newer ordered
  rw [performHashed, List.length_map, ← made, List.drop_left, recorded]

theorem hashesAfter_eq (hashing : Hashing Hash) (operations : List Operation) :
    hashesAfter hashing operations =
      (initial.run operations).store.nodeList.map (Node.hash hashing) := by
  -- Every operation starts and ends with the hashes of all nodes that there are.
  have runs : ∀ session : Session, session.store.WellFormed →
      (operations.foldl (performHashed hashing)
        (session, session.store.nodeList.map (Node.hash hashing))).2 =
      (session.run operations).store.nodeList.map (Node.hash hashing) := by
    induction operations with
    | nil => exact fun session _ => rfl
    | cons operation rest induction =>
        intro session wellFormed
        rw [List.foldl_cons, performHashed_eq hashing wellFormed]
        exact induction _ (perform_wellFormed wellFormed operation)
  exact runs initial Store.WellFormed.empty

theorem hashesAfter_node (hashing : Hashing Hash) {operations : List Operation} {node : Node}
    (stored : (initial.run operations).store.node? node.ref = some node)
    (further : List Operation) :
    (hashesAfter hashing (operations ++ further))[node.ref.index]? = some (node.hash hashing) := by
  have kept := run_node? (reachable_run operations).store_wellFormed stored further
  have same : initial.run (operations ++ further) = (initial.run operations).run further :=
    List.foldl_append
  rw [hashesAfter_eq, same, List.getElem?_map, Store.getElem?_nodeList, kept]
  rfl

/-- Do two nodes have the same plan in a session? -/
def Same (session : Session) (left right : Node) : Prop :=
  (session.store.plan left).sameAs (session.store.plan right) = true

theorem same_iff (session : Session) (left right : Node) :
    session.Same left right ↔ left.bare = right.bare := by
  rw [Same, Plan.sameAs_iff, Store.bare_plan, Store.bare_plan]

theorem same_equivalence (session : Session) : Equivalence session.Same where
  refl := fun node => (session.same_iff node node).mpr rfl
  symm := by
    intro left right same
    rw [same_iff] at same ⊢
    exact same.symm
  trans := by
    intro first second third earlier later
    rw [same_iff] at earlier later ⊢
    exact earlier.trans later

theorem same_of_inputs (session : Session) {one other : PlacedOperator} {lefts rights : List Node}
    (work : one.operator.sameWork other.operator = true)
    (inputs : List.Forall₂ session.Same lefts rights) :
    session.Same (.node one lefts) (.node other rights) := by
  have below : lefts.map Node.bare = rights.map Node.bare := by
    induction inputs with
    | nil => rfl
    | cons same _ induction =>
        rw [List.map_cons, List.map_cons, (session.same_iff _ _).mp same, induction]
  rw [Operator.sameWork_iff_bare_eq] at work
  rw [same_iff, Node.bare, Tree.map_node, Tree.map_node, work]
  exact congrArg (Tree.node other.operator.bare) below

/-- Whether two nodes are the same is an equivalence that respects the operators, and it is told by
their bare trees at all times. Nodes that are the same have got the same hash. If nothing collides,
then nodes that have got the same hash differ in the form of conditions at most. -/
theorem same_nodes_hash_alike (hashing : Hashing Hash) (operations further : List Operation) :
    let session := initial.run operations
    let later := session.run further
    Equivalence later.Same ∧
    (∀ one other lefts rights, one.operator.sameWork other.operator = true →
      List.Forall₂ later.Same lefts rights →
      later.Same (.node one lefts) (.node other rights)) ∧
    ∀ left right, session.store.node? left.ref = some left →
      session.store.node? right.ref = some right →
      (later.Same left right ↔ left.bare = right.bare) ∧
      ∃ hash other,
        (hashesAfter hashing operations)[left.ref.index]? = some hash ∧
        (hashesAfter hashing operations)[right.ref.index]? = some other ∧
        (hashesAfter hashing (operations ++ further))[left.ref.index]? = some hash ∧
        (hashesAfter hashing (operations ++ further))[right.ref.index]? = some other ∧
        (later.Same left right → hash = other) ∧
        (hashing.Collisionless →
          (∀ placed ∈ left.preorder, placed.operator.hasRule = true) →
          (∀ placed ∈ right.preorder, placed.operator.hasRule = true) →
          (hash = other ↔ left.SameButForm right) ∧
          (hash = other ↔
            (later.store.plan left).fingerprint = (later.store.plan right).fingerprint)) := by
  intro session later
  refine ⟨later.same_equivalence, fun _ _ _ _ => later.same_of_inputs, ?_⟩
  intro left right here there
  have wellFormed : session.store.WellFormed := (reachable_run operations).store_wellFormed
  refine ⟨later.same_iff left right, left.hash hashing, right.hash hashing, ?_, ?_,
    hashesAfter_node hashing here further, hashesAfter_node hashing there further, ?_, ?_⟩
  · rw [← List.append_nil operations]
    exact hashesAfter_node hashing here []
  · rw [← List.append_nil operations]
    exact hashesAfter_node hashing there []
  · intro same
    rw [Node.hash_eq_fold_bare, Node.hash_eq_fold_bare, (later.same_iff left right).mp same]
  · intro collisionless leftRules rightRules
    have told := Store.Ruled.hash_eq_iff collisionless wellFormed ⟨here, leftRules⟩
      ⟨there, rightRules⟩
    have settled : later.store.WellFormed := run_wellFormed wellFormed further
    have digests := Store.Ruled.fingerprint_eq_iff settled
      ⟨run_node? wellFormed here further, leftRules⟩
      ⟨run_node? wellFormed there further, rightRules⟩
    exact ⟨told, told.trans digests.symm⟩

/-- Selections over two scans of one relation: two that do the same, and one that compares with an
attribute instead of a text. -/
def threeSelections : List Operation :=
  [.makeAttribute "a" 2, .makeAttribute "b" 3, .makeRelation 6 [⟨0⟩, ⟨1⟩], .scan "R" ⟨0⟩,
    .scan "R" ⟨0⟩, .select ⟨0⟩ (some (.equalsValue "a" "b")),
    .select ⟨1⟩ (some (.equalsValue "a" "b")),
    .select ⟨1⟩ (some (.equalsAttribute ⟨"a", "b"⟩))]

/-- The first selection is estimated, and the statistics of the relation change. -/
def threeSelectionsLater : List Operation :=
  [.estimate ⟨2⟩ false, .assignCount ⟨0⟩ 5]

theorem threeSelections_hash_alike :
    let later := (initial.run threeSelections).run threeSelectionsLater
    let hashes := hashesAfter Hashing.terms (threeSelections ++ threeSelectionsLater)
    ∃ first second third, later.store.node? ⟨2⟩ = some first ∧
      later.store.node? ⟨3⟩ = some second ∧ later.store.node? ⟨4⟩ = some third ∧
      later.Same first second ∧ hashes[2]? = hashes[3]? ∧
      ¬ later.Same first third ∧ hashes[2]? = hashes[4]? ∧ first.SameButForm third := by
  intro later hashes
  let scan (index : Nat) : Node := .node ⟨⟨index⟩, .scan "R" ⟨0⟩⟩ []
  let first : Node := .node ⟨⟨2⟩, .select (some (.equalsValue "a" "b"))⟩ [scan 0]
  let second : Node := .node ⟨⟨3⟩, .select (some (.equalsValue "a" "b"))⟩ [scan 1]
  let third : Node := .node ⟨⟨4⟩, .select (some (.equalsAttribute ⟨"a", "b"⟩))⟩ [scan 1]
  obtain ⟨-, -, told⟩ := same_nodes_hash_alike Hashing.terms threeSelections threeSelectionsLater
  obtain ⟨alike, one, two, -, -, here, there, equal, -⟩ := told first second rfl rfl
  obtain ⟨different, one', three, -, -, here', there', -, kernel⟩ := told first third rfl rfl
  have same : later.Same first second := alike.mpr rfl
  have butForm : first.SameButForm third := .node (.toAttribute "a" "b") (.cons
    (.node (.same rfl) .nil) .nil)
  have forms := (kernel Hashing.terms_collisionless (by decide +kernel) (by decide +kernel)).1
  refine ⟨first, second, third, ?_, ?_, ?_, same, ?_, ?_, ?_, butForm⟩
  · decide +kernel
  · decide +kernel
  · decide +kernel
  · exact here.trans ((congrArg some (equal same)).trans there.symm)
  · exact fun same => absurd (different.mp same) (by decide +kernel)
  · exact here'.trans ((congrArg some (forms.mpr butForm)).trans there'.symm)

end Session

end Selectivity

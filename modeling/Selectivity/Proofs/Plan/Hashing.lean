import Selectivity.Proofs.Plan.Equality
import Selectivity.Proofs.Store.WellFormed

/-!
# Hashes of nodes

A node is hashed by the kind of its operator and by what it has of its own: the name of a scan, or
the hashes of the inputs followed by the hash of whatever else there is. How texts, tuples and
numbers are hashed is a parameter.

Nodes with equal bare trees have equal hashes. If the hashing has no collisions, then the hash tells
all of a bare tree but the form of its conditions, because both forms are hashed as the pair of
their texts. The digests of a plan tell exactly as much.
-/

namespace Selectivity

variable {Hash : Type}

/-- How texts, tuples and numbers are hashed. A tuple is known by the hashes of its parts, and the
numbers that occur are hashes themselves. -/
structure Hashing (Hash : Type) where
  text : String → Hash
  tuple : List Hash → Hash
  number : Hash → Hash
  /-- The hash of a condition that is left out. -/
  nothing : Hash

/-- Different things have different hashes. -/
structure Hashing.Collisionless (hashing : Hashing Hash) : Prop where
  text : ∀ one other, hashing.text one = hashing.text other → one = other
  tuple : ∀ one other, hashing.tuple one = hashing.tuple other → one = other
  number : ∀ one other, hashing.number one = hashing.number other → one = other

/-- Hashes that are terms, in which nothing is lost. -/
def Hashing.terms : Hashing (Tree String) where
  text := fun text => .node text []
  tuple := fun parts => .node "" parts
  number := id
  nothing := .node "None" []

theorem Hashing.terms_collisionless : Hashing.terms.Collisionless where
  text := fun _ _ same => (Tree.node.inj same).1
  tuple := fun _ _ same => (Tree.node.inj same).2
  number := fun _ _ same => same

/-- The hash of a tuple of texts. -/
def Hashing.texts (hashing : Hashing Hash) (texts : List String) : Hash :=
  hashing.tuple (texts.map hashing.text)

theorem Hashing.Collisionless.texts {hashing : Hashing Hash} (collisionless : hashing.Collisionless)
    {one other : List String} (same : hashing.texts one = hashing.texts other) : one = other := by
  have parts := collisionless.tuple _ _ same
  exact (List.map_inj_right fun first second => collisionless.text first second).mp parts

theorem Comparison.eq_of_texts {one other : Comparison}
    (same : [one.left, one.right] = [other.left, other.right]) : one = other := by
  cases one
  cases other
  cases same
  rfl

namespace Operator

variable {Base Other : Type}

/-- The hash of what an operator has besides its kind, over inputs with these hashes. -/
def ownHash (hashing : Hashing Hash) (operator : Operator Base) (inputs : List Hash) : Hash :=
  match operator with
  | .scan name _ => hashing.text name
  | .project attributes => hashing.tuple (inputs ++ [hashing.texts attributes])
  | .select none => hashing.tuple (inputs ++ [hashing.nothing])
  | .select (some condition) =>
      hashing.tuple (inputs ++ [hashing.texts [condition.parts.1, condition.parts.2]])
  | .product => hashing.tuple inputs
  | .join condition =>
      hashing.tuple (inputs ++ [hashing.texts [condition.left, condition.right]])
  | .foreign _ => hashing.tuple inputs

/-- The hash of an operator over inputs with these hashes. -/
def hash (hashing : Hashing Hash) (operator : Operator Base) (inputs : List Hash) : Hash :=
  hashing.tuple [hashing.text operator.kind, hashing.number (operator.ownHash hashing inputs)]

@[simp]
theorem hash_bare (hashing : Hashing Hash) (operator : Operator Base) (inputs : List Hash) :
    operator.bare.hash hashing inputs = operator.hash hashing inputs := by
  rcases operator with - | - | (- | -) | - | - | - <;> rfl

@[simp]
theorem digest_bare (operator : Operator Base) : operator.bare.digest = operator.digest := by
  rcases operator with - | - | (- | -) | - | - | - <;> rfl

theorem head?_digest (operator : Operator Base) : operator.digest.head? = some operator.kind := by
  rcases operator with - | - | (- | -) | - | - | - <;> rfl

/-- The operators do the same work, but for one thing: where one of them compares an attribute with
a text, the other one may compare it with the attribute of that name. -/
inductive SameButForm : Operator Base → Operator Other → Prop where
  | same {left : Operator Base} {right : Operator Other} (work : left.bare = right.bare) :
      SameButForm left right
  | toAttribute (column text : String) :
      SameButForm (.select (some (.equalsValue column text)))
        (.select (some (.equalsAttribute ⟨column, text⟩)))
  | toValue (column text : String) :
      SameButForm (.select (some (.equalsAttribute ⟨column, text⟩)))
        (.select (some (.equalsValue column text)))

namespace SameButForm

variable {left : Operator Base} {right : Operator Other}

theorem hash_eq (hashing : Hashing Hash) (same : SameButForm left right) (inputs : List Hash) :
    left.hash hashing inputs = right.hash hashing inputs := by
  cases same with
  | same work => rw [← hash_bare, work, hash_bare]
  | toAttribute => rfl
  | toValue => rfl

theorem digest_eq (same : SameButForm left right) : left.digest = right.digest := by
  cases same with
  | same work => rw [← digest_bare, work, digest_bare]
  | toAttribute => rfl
  | toValue => rfl

theorem of_texts {one other : Predicate}
    (same : [one.parts.1, one.parts.2] = [other.parts.1, other.parts.2]) :
    SameButForm (.select (some one) : Operator Base) (.select (some other) : Operator Other) := by
  cases one with
  | equalsValue column text =>
      cases other with
      | equalsValue =>
          cases same
          exact .same rfl
      | equalsAttribute =>
          cases same
          exact .toAttribute _ _
  | equalsAttribute comparison =>
      cases other with
      | equalsValue =>
          cases same
          exact .toValue _ _
      | equalsAttribute another =>
          rw [Comparison.eq_of_texts same]
          exact .same rfl

end SameButForm

/-- If nothing collides, then only operators that differ in form at most, over the same inputs, have
the same hash. -/
theorem sameButForm_of_hash_eq {hashing : Hashing Hash} (collisionless : hashing.Collisionless)
    {left : Operator Base} {right : Operator Other} {inputs others : List Hash}
    (leftRule : left.hasRule = true) (rightRule : right.hasRule = true)
    (leftArity : left.accepts inputs.length = true)
    (rightArity : right.accepts others.length = true)
    (same : left.hash hashing inputs = right.hash hashing others) :
    SameButForm left right ∧ inputs = others := by
  obtain ⟨kinds, rest⟩ := List.cons.inj (collisionless.tuple _ _ same)
  have own := collisionless.number _ _ (List.cons.inj rest).1
  cases sameKind_of_kind_eq (isNative_of_hasRule leftRule) (isNative_of_hasRule rightRule)
    (collisionless.text _ _ kinds) with
  | scans name other base held =>
      have names : name = other := collisionless.text _ _ own
      -- The hash of a scan does not cover its inputs, but there are none.
      have here := List.eq_nil_of_length_eq_zero (eq_of_beq leftArity)
      have there := List.eq_nil_of_length_eq_zero (eq_of_beq rightArity)
      exact ⟨.same (congrArg (Operator.scan · ()) names), here.trans there.symm⟩
  | projections attributes kept =>
      obtain ⟨below, last⟩ := List.append_inj' (collisionless.tuple _ _ own) rfl
      have names := collisionless.texts (List.cons.inj last).1
      exact ⟨.same (congrArg Operator.project names), below⟩
  | selections condition other =>
      obtain ⟨one, rfl⟩ := Option.isSome_iff_exists.mp leftRule
      obtain ⟨another, rfl⟩ := Option.isSome_iff_exists.mp rightRule
      obtain ⟨below, last⟩ := List.append_inj' (collisionless.tuple _ _ own) rfl
      exact ⟨.of_texts (collisionless.texts (List.cons.inj last).1), below⟩
  | products => exact ⟨.same rfl, collisionless.tuple _ _ own⟩
  | joins condition other =>
      obtain ⟨below, last⟩ := List.append_inj' (collisionless.tuple _ _ own) rfl
      have equal := Comparison.eq_of_texts (collisionless.texts (List.cons.inj last).1)
      exact ⟨.same (congrArg Operator.join equal), below⟩

theorem sameButForm_of_digest_eq {left : Operator Base} {right : Operator Other}
    (leftRule : left.hasRule = true) (rightRule : right.hasRule = true)
    (same : left.digest = right.digest) : SameButForm left right := by
  have kinds : left.kind = right.kind := by
    have heads := congrArg List.head? same
    rw [head?_digest, head?_digest] at heads
    exact Option.some.inj heads
  cases sameKind_of_kind_eq (isNative_of_hasRule leftRule) (isNative_of_hasRule rightRule)
    kinds with
  | scans name other base held =>
      have names : name = other := (List.cons.inj (List.cons.inj same).2).1
      exact .same (congrArg (Operator.scan · ()) names)
  | projections attributes kept =>
      exact .same (congrArg Operator.project (List.cons.inj same).2)
  | selections condition other =>
      obtain ⟨one, rfl⟩ := Option.isSome_iff_exists.mp leftRule
      obtain ⟨another, rfl⟩ := Option.isSome_iff_exists.mp rightRule
      exact .of_texts (List.cons.inj same).2
  | products => exact .same rfl
  | joins condition other =>
      exact .same (congrArg Operator.join (Comparison.eq_of_texts (List.cons.inj same).2))

end Operator

namespace Node

/-- The hash of a node, told from the hashes of the nodes below it. -/
def hash (hashing : Hashing Hash) : Node → Hash :=
  Tree.fold fun placed below => placed.operator.hash hashing below

/-- What is left of a node without its place and without the statistics. -/
def bare : Node → Tree (Operator Unit) :=
  Tree.map fun placed => placed.operator.bare

theorem hash_eq_fold_bare (hashing : Hashing Hash) (node : Node) :
    node.hash hashing = node.bare.fold fun operator below => operator.hash hashing below := by
  rw [hash, bare, Tree.fold_map]
  simp only [Operator.hash_bare]

end Node

theorem Store.bare_plan (store : Store) (node : Node) : (store.plan node).bare = node.bare := by
  rw [plan, Plan.bare, Tree.map_map, Node.bare]
  simp only [Operator.bare_mapBase]

theorem Store.fingerprint_plan (store : Store) (node : Node) :
    (store.plan node).fingerprint = node.map fun placed => placed.operator.digest := by
  have digests : ∀ placed : PlacedOperator,
      (placed.operator.mapBase store.relation).digest = placed.operator.digest := by
    intro placed
    rw [← Operator.digest_bare, Operator.bare_mapBase, Operator.digest_bare]
  rw [plan, Plan.fingerprint, Tree.map_map]
  simp only [digests]

/-- A node of the store, in which all operators have a rule. -/
structure Store.Ruled (store : Store) (node : Node) : Prop where
  stored : store.node? node.ref = some node
  rules : ∀ placed ∈ node.preorder, placed.operator.hasRule = true

/-- Two nodes have one shape, and their operators differ in form at most, place by place. -/
def Node.SameButForm : Node → Node → Prop :=
  Tree.Alike fun one other => one.operator.SameButForm other.operator

namespace Store.Ruled

variable {store : Store}

theorem inherited (wellFormed : store.WellFormed) (placed : PlacedOperator) (inputs : List Node)
    (ruled : store.Ruled (.node placed inputs)) : ∀ input ∈ inputs, store.Ruled input := by
  intro input member
  have fits := wellFormed.nodes _ _ ruled.stored
  refine ⟨fits.inputs input member, fun other within => ?_⟩
  exact ruled.rules other (Tree.mem_preorder_node.mpr (Or.inr ⟨input, member, within⟩))

theorem rule {placed : PlacedOperator} {inputs : List Node}
    (ruled : store.Ruled (.node placed inputs)) : placed.operator.hasRule = true :=
  ruled.rules placed (Tree.mem_preorder_node.mpr (Or.inl rfl))

/-- If nothing collides, then the hash of a node tells all but the form of the conditions. -/
theorem hash_eq_iff {hashing : Hashing Hash} (collisionless : hashing.Collisionless)
    (wellFormed : store.WellFormed) {left right : Node} (leftRuled : store.Ruled left)
    (rightRuled : store.Ruled right) :
    left.hash hashing = right.hash hashing ↔ left.SameButForm right := by
  constructor
  · have telling : Tree.Telling (fun placed below => placed.operator.hash hashing below)
        (fun one other : PlacedOperator => one.operator.SameButForm other.operator)
        store.Ruled := by
      refine ⟨inherited wellFormed, fun one below other others here there same => ?_⟩
      apply Operator.sameButForm_of_hash_eq collisionless here.rule there.rule _ _ same
      · rw [List.length_map]
        exact (wellFormed.nodes _ _ here.stored).arity
      · rw [List.length_map]
        exact (wellFormed.nodes _ _ there.stored).arity
    exact telling.alike left right leftRuled rightRuled
  · exact Tree.Alike.fold_eq fun one other same below => same.hash_eq hashing below

theorem fingerprint_eq_iff (wellFormed : store.WellFormed) {left right : Node}
    (leftRuled : store.Ruled left) (rightRuled : store.Ruled right) :
    (store.plan left).fingerprint = (store.plan right).fingerprint ↔ left.SameButForm right := by
  rw [fingerprint_plan, fingerprint_plan]
  constructor
  · have telling : Tree.Telling
        (fun (placed : PlacedOperator) below => Tree.node placed.operator.digest below)
        (fun one other : PlacedOperator => one.operator.SameButForm other.operator)
        store.Ruled := by
      refine ⟨inherited wellFormed, fun one below other others here there same => ?_⟩
      obtain ⟨digests, results⟩ := Tree.node.inj same
      exact ⟨Operator.sameButForm_of_digest_eq here.rule there.rule digests, results⟩
    exact telling.alike left right leftRuled rightRuled
  · exact Tree.Alike.fold_eq fun one other same below =>
      congrArg (Tree.node · below) same.digest_eq

end Store.Ruled

end Selectivity

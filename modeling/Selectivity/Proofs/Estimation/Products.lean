import Mathlib.Algebra.BigOperators.Group.List.Lemmas
import Selectivity.Proofs.Estimation.Sources
import Selectivity.Proofs.Estimation.Verdicts

/-!
# Nested products

Products without outputs can be the inputs of each other. The factors of such a nest are the nodes
that are multiplied in the end, from left to right, and the nest means the product of what they
mean, however its products are nested. If the factors can be estimated, then only the counts of the
products can end an estimation of the nest; and if no factor is empty, then no product within the
nest is longer than the whole.
-/

namespace Selectivity

namespace Relation

theorem product_singleton (relation : Relation) : product [relation] = relation := by
  simp [product]

theorem product_flatten (groups : List (List Relation)) :
    product (groups.map product) = product groups.flatten := by
  have tuples (relations : List Relation) :
      (product relations).tupleCount = (relations.map tupleCount).prod :=
    product_tupleCount relations
  refine eq_of_parts ?_ ?_
  · rw [tuples, tuples, List.map_flatten, List.prod_flatten, List.map_map, List.map_map]
    exact congrArg List.prod (List.map_congr_left fun group _ => tuples group)
  · simp only [product, List.flatMap_map, List.flatten_eq_flatMap, List.flatMap_assoc, id]

/-- The tuples of the relation divide those of the whole, and the whole has all of its
attributes. -/
structure Divides (relation whole : Relation) : Prop where
  tuples : relation.tupleCount ∣ whole.tupleCount
  attributes : ∀ column ∈ relation.attributes, column ∈ whole.attributes

namespace Divides

variable {relation middle whole : Relation}

theorem refl (relation : Relation) : relation.Divides relation :=
  ⟨Nat.dvd_refl _, fun _ member => member⟩

theorem trans (first : relation.Divides middle) (second : middle.Divides whole) :
    relation.Divides whole :=
  ⟨Nat.dvd_trans first.tuples second.tuples,
    fun column member => second.attributes column (first.attributes column member)⟩

theorem product {relations : List Relation} (member : relation ∈ relations) :
    relation.Divides (Relation.product relations) := by
  refine ⟨?_, fun column found => List.mem_flatMap.mpr ⟨relation, member, found⟩⟩
  rw [product_tupleCount]
  exact List.dvd_prod (List.mem_map_of_mem member)

/-- What divides a relation with tuples can be written if that relation can be. -/
theorem isWritable (divides : relation.Divides whole) (tuples : whole.tupleCount ≠ 0)
    (writable : whole.isWritable = true) : relation.isWritable = true :=
  isWritable_of_bounded writable (Nat.le_of_dvd (Nat.pos_of_ne_zero tuples) divides.tuples)
    fun column member => .of_mem (divides.attributes column member)

end Divides

end Relation

namespace Store

variable (store : Store)

/-- The operator multiplies its inputs, and its output is not known. -/
def Multiplies (placed : PlacedOperator) : Prop :=
  placed.operator = .product ∧ store.output? placed.ref = none

instance (placed : PlacedOperator) : Decidable (store.Multiplies placed) :=
  inferInstanceAs (Decidable (_ ∧ _))

mutual

/-- The nodes that a node multiplies in the end: the factors of the inputs, if it is a product
without output, and otherwise only the node itself. -/
def factors : Node → List Node
  | .node placed inputs =>
      if store.Multiplies placed then factorsOfAll inputs else [.node placed inputs]

def factorsOfAll : List Node → List Node
  | [] => []
  | node :: rest => factors node ++ factorsOfAll rest

end

mutual

/-- The products without output that stand above the factors of a node, inputs first. -/
def products : Node → List Node
  | .node placed inputs =>
      if store.Multiplies placed then productsOfAll inputs ++ [.node placed inputs] else []

def productsOfAll : List Node → List Node
  | [] => []
  | node :: rest => products node ++ productsOfAll rest

end

variable {store} {node part : Node} {output : Relation} {outputs : List Relation}

theorem factors_of_multiplies {placed : PlacedOperator} {inputs : List Node}
    (multiplies : store.Multiplies placed) :
    store.factors (.node placed inputs) = store.factorsOfAll inputs := by
  rw [factors, if_pos multiplies]

theorem factors_of_not {placed : PlacedOperator} {inputs : List Node}
    (other : ¬ store.Multiplies placed) :
    store.factors (.node placed inputs) = [.node placed inputs] := by
  rw [factors, if_neg other]

theorem products_of_multiplies {placed : PlacedOperator} {inputs : List Node}
    (multiplies : store.Multiplies placed) :
    store.products (.node placed inputs) =
      store.productsOfAll inputs ++ [.node placed inputs] := by
  rw [products, if_pos multiplies]

theorem products_of_not {placed : PlacedOperator} {inputs : List Node}
    (other : ¬ store.Multiplies placed) : store.products (.node placed inputs) = [] := by
  rw [products, if_neg other]

theorem means_of_multiplies {placed : PlacedOperator} {inputs : List Node}
    (multiplies : store.Multiplies placed) (below : MeansAll store inputs outputs) :
    Means store (.node placed inputs) (Relation.product outputs) := by
  refine .rule multiplies.2 below ?_
  rw [multiplies.1]
  exact .product (product_tupleCount outputs) rfl

theorem MeansAll.split {nodes others : List Node}
    (means : MeansAll store (nodes ++ others) outputs) :
    ∃ first second, outputs = first ++ second ∧ MeansAll store nodes first ∧
      MeansAll store others second := by
  induction nodes generalizing outputs with
  | nil => exact ⟨[], outputs, rfl, .nil, means⟩
  | cons node rest induction =>
      cases means with
      | @cons _ _ output _ first later =>
          obtain ⟨before, after, rfl, here, there⟩ := induction later
          exact ⟨output :: before, after, rfl, .cons first here, there⟩

mutual

theorem means_of_factors (node : Node) (outputs : List Relation)
    (below : MeansAll store (store.factors node) outputs) :
    Means store node (Relation.product outputs) := by
  cases node with
  | node placed inputs =>
      by_cases multiplies : store.Multiplies placed
      · rw [factors_of_multiplies multiplies] at below
        obtain ⟨groups, rfl, inputsMean⟩ := meansAll_of_factors inputs outputs below
        rw [← Relation.product_flatten]
        exact means_of_multiplies multiplies inputsMean
      · rw [factors_of_not multiplies] at below
        cases below with
        | cons first others =>
            cases others
            rw [Relation.product_singleton]
            exact first

theorem meansAll_of_factors (nodes : List Node) (outputs : List Relation)
    (below : MeansAll store (store.factorsOfAll nodes) outputs) :
    ∃ groups : List (List Relation),
      outputs = groups.flatten ∧ MeansAll store nodes (groups.map Relation.product) := by
  cases nodes with
  | nil =>
      cases below
      exact ⟨[], rfl, .nil⟩
  | cons node rest =>
      rw [factorsOfAll] at below
      obtain ⟨first, second, rfl, here, there⟩ := below.split
      obtain ⟨groups, rfl, later⟩ := meansAll_of_factors rest second there
      exact ⟨first :: groups, rfl, .cons (means_of_factors node first here) later⟩

end

mutual

theorem divides_of_mem_products (node : Node) (output : Relation)
    (means : Means store node output) :
    ∀ part ∈ store.products node, ∀ result, Means store part result → result.Divides output := by
  cases node with
  | node placed inputs =>
      intro part member result partMeans
      by_cases multiplies : store.Multiplies placed
      · rw [products_of_multiplies multiplies] at member
        rcases List.mem_append.mp member with below | here
        · obtain ⟨outputs, inputsMean, -⟩ := means.inputs multiplies.2
          rw [means.unique (means_of_multiplies multiplies inputsMean)]
          obtain ⟨input, found, divides⟩ :=
            divides_of_mem_productsOfAll inputs outputs inputsMean part below result partMeans
          exact divides.trans (.product found)
        · rw [List.mem_singleton.mp here] at partMeans
          rw [partMeans.unique means]
          exact .refl output
      · rw [products_of_not multiplies] at member
        cases member

theorem divides_of_mem_productsOfAll (nodes : List Node) (outputs : List Relation)
    (means : MeansAll store nodes outputs) :
    ∀ part ∈ store.productsOfAll nodes, ∀ result, Means store part result →
      ∃ output ∈ outputs, result.Divides output := by
  cases nodes with
  | nil => exact fun part member => absurd member List.not_mem_nil
  | cons node rest =>
      intro part member result partMeans
      cases means with
      | cons first others =>
          rw [productsOfAll] at member
          rcases List.mem_append.mp member with here | later
          · exact ⟨_, List.mem_cons_self,
              divides_of_mem_products node _ first part here result partMeans⟩
          · obtain ⟨output, found, divides⟩ :=
              divides_of_mem_productsOfAll rest _ others part later result partMeans
            exact ⟨output, List.mem_cons_of_mem _ found, divides⟩

end

mutual

theorem mem_parts_nest (node part : Node) :
    part ∈ store.parts node ↔
      (∃ factor ∈ store.factors node, part ∈ store.parts factor) ∨ part ∈ store.products node := by
  cases node with
  | node placed inputs =>
      by_cases multiplies : store.Multiplies placed
      · rw [parts_of_pending multiplies.2, factors_of_multiplies multiplies,
          products_of_multiplies multiplies, List.mem_append, List.mem_append,
          mem_partsOfAll_nest inputs part, or_assoc]
      · rw [factors_of_not multiplies, products_of_not multiplies]
        simp only [List.mem_singleton, exists_eq_left, List.not_mem_nil, or_false]

theorem mem_partsOfAll_nest (nodes : List Node) (part : Node) :
    part ∈ store.partsOfAll nodes ↔
      (∃ factor ∈ store.factorsOfAll nodes, part ∈ store.parts factor) ∨
        part ∈ store.productsOfAll nodes := by
  cases nodes with
  | nil => simp [partsOfAll, factorsOfAll, productsOfAll]
  | cons node rest =>
      rw [partsOfAll, factorsOfAll, productsOfAll, List.mem_append, List.mem_append,
        mem_parts_nest node part, mem_partsOfAll_nest rest part]
      simp only [List.mem_append, or_and_right, exists_or]
      exact or_or_or_comm

end

mutual

theorem multiplies_of_mem_products (node : Node) :
    ∀ part ∈ store.products node, store.Multiplies part.label := by
  cases node with
  | node placed inputs =>
      intro part member
      by_cases multiplies : store.Multiplies placed
      · rw [products_of_multiplies multiplies] at member
        rcases List.mem_append.mp member with below | here
        · exact multiplies_of_mem_productsOfAll inputs part below
        · rw [List.mem_singleton.mp here]
          exact multiplies
      · rw [products_of_not multiplies] at member
        cases member

theorem multiplies_of_mem_productsOfAll (nodes : List Node) :
    ∀ part ∈ store.productsOfAll nodes, store.Multiplies part.label := by
  cases nodes with
  | nil => exact fun part member => absurd member List.not_mem_nil
  | cons node rest =>
      intro part member
      rw [productsOfAll] at member
      rcases List.mem_append.mp member with here | later
      · exact multiplies_of_mem_products node part here
      · exact multiplies_of_mem_productsOfAll rest part later

end

/-- What comes of a node without condition is what it means, if that can be written. -/
theorem Means.verdict_eq (means : Means store node output) (unknown : store.output? node.ref = none)
    (plain : node.operator.hasCondition = false) :
    store.verdict node = if output.isWritable then .ok output else .error .unwritable := by
  obtain ⟨outputs, below, estimates⟩ := means.inputs unknown
  rw [verdict_eq_output below, Operator.output, Operator.estimate_of_estimates estimates]
  simp only [Operator.hasCondition_mapBase, plain, Bool.false_and, Bool.false_eq_true, if_false,
    Relation.isSome_render?]

/-- All products within a nest can be written. -/
def NestWritable (store : Store) (node : Node) : Prop :=
  ∀ product ∈ store.products node, ∀ output, Means store product output →
    output.isWritable = true

theorem meansAll_of_estimable {nodes : List Node}
    (each : List.Forall₂ (Estimable store) nodes outputs) : MeansAll store nodes outputs := by
  induction each with
  | nil => exact .nil
  | cons first others induction => exact .cons first.means induction

theorem estimable_of_mem {nodes : List Node}
    (each : List.Forall₂ (Estimable store) nodes outputs) (member : node ∈ nodes) :
    ∃ output, Estimable store node output := by
  have all := each.imp fun _ output here => And.intro (Exists.intro output here) here
  exact ((List.forall₂_and_left _ _).mp all).1 node member

section Nest

variable (estimable : List.Forall₂ (Estimable store) (store.factors node) outputs)

include estimable

theorem means_nest : Means store node (Relation.product outputs) :=
  means_of_factors node outputs (meansAll_of_estimable estimable)

theorem verdict_of_mem_products (member : part ∈ store.products node) :
    ∃ output, Means store part output ∧ output.Divides (Relation.product outputs) ∧
      store.verdict part = if output.isWritable then .ok output else .error .unwritable := by
  have within : part ∈ store.parts node := (mem_parts_nest node part).mpr (Or.inr member)
  have multiplies := multiplies_of_mem_products node part member
  have plain : part.operator.hasCondition = false := congrArg Operator.hasCondition multiplies.1
  obtain ⟨output, means⟩ := (means_nest estimable).of_mem_parts node _ part within
  exact ⟨output, means,
    divides_of_mem_products node _ (means_nest estimable) part member output means,
    means.verdict_eq multiplies.2 plain⟩

theorem estimable_nest (writable : store.NestWritable node) :
    Estimable store node (Relation.product outputs) := by
  refine ⟨means_nest estimable, fun part member result partMeans => ?_⟩
  rcases (mem_parts_nest node part).mp member with ⟨factor, found, below⟩ | product
  · obtain ⟨_, here⟩ := estimable_of_mem estimable found
    exact here.tellable part below result partMeans
  · have plain := congrArg Operator.hasCondition (multiplies_of_mem_products node part product).1
    refine ⟨fun condition => ?_, writable part product result partMeans⟩
    cases condition.symm.trans plain

/-- If a product within a nest cannot be written, then that ends an estimation of the nest. -/
theorem nest_stops (unwritable : ¬ store.NestWritable node) :
    (store.parts node).findSome? store.stop? = some .unwritable := by
  have only : ∀ part ∈ store.parts node,
      store.stop? part = none ∨ store.stop? part = some .unwritable := by
    intro part member
    rcases (mem_parts_nest node part).mp member with ⟨factor, found, below⟩ | product
    · obtain ⟨_, here⟩ := estimable_of_mem estimable found
      exact Or.inl (here.stop?_eq_none below)
    · obtain ⟨output, -, -, verdict⟩ := verdict_of_mem_products estimable product
      rw [stop?_eq_none_iff, stop?_eq_some_iff, verdict]
      split
      · exact Or.inl ⟨output, rfl⟩
      · exact Or.inr rfl
  cases ends : (store.parts node).findSome? store.stop? with
  | some fault =>
      obtain ⟨part, member, stops⟩ := List.exists_of_findSome?_eq_some ends
      rcases only part member with passes | stopped
      · rw [passes] at stops
        cases stops
      · rw [← stops, stopped]
  | none =>
      rw [List.findSome?_eq_none_iff] at ends
      refine absurd (fun product member output means => ?_) unwritable
      obtain ⟨result, resultMeans, -, verdict⟩ := verdict_of_mem_products estimable member
      have passes := ends product ((mem_parts_nest node product).mpr (Or.inr member))
      rw [stop?_eq_none_iff, verdict] at passes
      rw [means.unique resultMeans]
      by_contra unwritten
      rw [if_neg unwritten] at passes
      cases passes.choose_spec

/-- If no factor is empty, then no product within a nest is longer than the whole. -/
theorem nestWritable_iff (unknown : store.output? node.ref = none)
    (filled : ∀ output ∈ outputs, output.tupleCount ≠ 0) :
    store.NestWritable node ↔ (Relation.product outputs).isWritable = true := by
  constructor
  · intro writable
    exact ((estimable_nest estimable writable).tellable node (mem_parts_self unknown) _
      (means_nest estimable)).counts
  · intro writable product member output means
    have tuples : (Relation.product outputs).tupleCount ≠ 0 := by
      rw [product_tupleCount]
      refine Nat.ne_of_gt (List.prod_pos fun count member => ?_)
      obtain ⟨relation, found, rfl⟩ := List.mem_map.mp member
      exact Nat.pos_of_ne_zero (filled relation found)
    exact (divides_of_mem_products node _ (means_nest estimable) product member output
      means).isWritable tuples writable

end Nest

/-- The nodes scan the relations, one by one, and none of their outputs is known. -/
def ScanAll (store : Store) (nodes : List Node) (scans : List (Query.BaseScan RelationRef)) :
    Prop :=
  List.Forall₂ (fun node scan => ∃ ref, node = scan.at ref ∧ store.output? ref = none) nodes scans

variable {scans : List (Query.BaseScan RelationRef)}

theorem factors_scan (scan : Query.BaseScan RelationRef) (ref : NodeRef) :
    store.factors (scan.at ref) = [scan.at ref] :=
  factors_of_not fun multiplies => nomatch multiplies.1

theorem ScanAll.factors_eq {nodes : List Node} (all : store.ScanAll nodes scans) :
    store.factorsOfAll nodes = nodes := by
  induction all with
  | nil => rfl
  | cons first others induction =>
      obtain ⟨ref, rfl, -⟩ := first
      rw [factorsOfAll, factors_scan, induction]
      rfl

/-- The factors of a product that leans to the left over scans are these scans. -/
theorem scanAll_of_productTree (tree : Query.ProductTree node scans)
    (unknown : ∀ placed ∈ node.preorder, store.output? placed.ref = none) :
    store.ScanAll (store.factors node) scans := by
  induction tree with
  | scan scan ref =>
      rw [factors_scan]
      exact .cons ⟨ref, rfl, unknown _ (Tree.mem_preorder_node.mpr (Or.inl rfl))⟩ .nil
  | @product left scans scan right ref below induction =>
      have multiplies : store.Multiplies ⟨ref, .product⟩ :=
        ⟨rfl, unknown _ (Tree.mem_preorder_node.mpr (Or.inl rfl))⟩
      have within (input : Node) (listed : input ∈ [left, scan.at right]) :
          ∀ placed ∈ input.preorder, store.output? placed.ref = none :=
        fun placed member =>
          unknown placed (Tree.mem_preorder_node.mpr (Or.inr ⟨input, listed, member⟩))
      have here := induction (within left List.mem_cons_self)
      have there := within (scan.at right) (List.mem_cons_of_mem _ List.mem_cons_self) _
        (Tree.mem_preorder_node.mpr (Or.inl rfl))
      rw [factors_of_multiplies multiplies, factorsOfAll, factorsOfAll, factorsOfAll,
        factors_scan, List.append_nil]
      exact List.rel_append here (.cons ⟨right, rfl, there⟩ .nil)

theorem ScanAll.outputs_eq {nodes : List Node} (all : store.ScanAll nodes scans)
    (estimable : List.Forall₂ (Estimable store) nodes outputs) :
    outputs = scans.map fun scan => store.relation scan.base := by
  induction all generalizing outputs with
  | nil =>
      cases estimable
      rfl
  | @cons node scan rest others first later induction =>
      cases estimable with
      | cons here there =>
          obtain ⟨ref, rfl, unknown⟩ := first
          have means : Means store (scan.at ref) (store.relation scan.base) :=
            .rule unknown .nil (.scan scan.name _)
          rw [List.map_cons, here.means.unique means, induction there]

end Store

end Selectivity

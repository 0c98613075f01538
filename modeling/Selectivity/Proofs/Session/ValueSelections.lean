import Selectivity.Proofs.Session.Chains
import Selectivity.Proofs.Statistics.ValueSelections

/-!
# Selections by values in a session

Selections by values on top of each other are estimated to their closed form, if their names occur.
Only the lowest of them can make a difference then: if its output can be told, all further ones can
be, because no count rises and no name changes. A name that does not occur is missed by the lowest
selection that asks for it, wherever that stands.
-/

namespace Selectivity

/-- The selection of the tuples that have a value, which is given with the name of its column. -/
def Operator.valueSelection {Base : Type} (predicate : String × String) : Operator Base :=
  .select (some (.equalsValue predicate.1 predicate.2))

/-- The lowest of some selections by values can be told, if there is one. -/
def Relation.TellsLowest (input : Relation) (columns : List String) : Prop :=
  ∀ lowest ∈ columns.head?,
    input.hasCompoundName = false ∧ (input.pin [lowest]).isWritable = true

theorem Relation.tellsLowest {input : Relation} (writable : input.isWritable = true)
    (simple : input.hasCompoundName = false) (columns : List String) : input.TellsLowest columns :=
  fun lowest _ => ⟨simple, isWritable_pin writable [lowest]⟩

/-- The fault of a selection that cannot be told. -/
def Relation.selectionFault (input : Relation) : EstimateFault :=
  if input.hasCompoundName then .compoundName else .unwritable

namespace Operator

variable {input : Relation} {predicates : List (String × String)}

theorem outputs_cons_valueSelection {predicate : String × String}
    (occurs : (predicate.1 : Label) ∈ input.attributeNames)
    (operators : List (Operator Relation)) :
    outputs (valueSelection predicate :: operators) input =
      if input.hasCompoundName then .error .compoundName
      else if (input.pin [predicate.1]).isWritable then outputs operators (input.pin [predicate.1])
      else .error .unwritable := by
  have estimates := Relation.estimates_pin occurs predicate.2
  rw [valueSelection, outputs_cons_of_estimates estimates, Relation.hasCompoundName_pin]
  simp only [hasCondition, Option.isSome_some, Bool.true_and]

/-- Selections by values put out their closed form, if the lowest of them can be told. -/
theorem outputs_of_tells (tells : input.TellsLowest (predicates.map Prod.fst))
    (occur : ∀ predicate ∈ predicates, (predicate.1 : Label) ∈ input.attributeNames) :
    outputs (predicates.map valueSelection) input = .ok (input.pin (predicates.map Prod.fst)) := by
  induction predicates generalizing input with
  | nil =>
      rw [List.map_nil, List.map_nil, Relation.pin_nil]
      rfl
  | cons predicate rest induction =>
      rw [List.forall_mem_cons] at occur
      obtain ⟨simple, written⟩ := tells predicate.1 rfl
      have unchanged := (Relation.hasCompoundName_pin input [predicate.1]).trans simple
      have later := induction (Relation.tellsLowest written unchanged _)
        (by simpa [Relation.attributeNames_pin] using occur.2)
      rw [List.map_cons, outputs_cons_valueSelection occur.1, simple, if_neg Bool.false_ne_true,
        if_pos written, later, Relation.pin_pin]
      rfl

theorem outputs_of_not_tells (untold : ¬ input.TellsLowest (predicates.map Prod.fst))
    (occur : ∀ predicate ∈ predicates, (predicate.1 : Label) ∈ input.attributeNames) :
    outputs (predicates.map valueSelection) input = .error input.selectionFault := by
  cases predicates with
  | nil => exact absurd nofun untold
  | cons predicate rest =>
      rw [List.map_cons, outputs_cons_valueSelection (occur predicate List.mem_cons_self),
        Relation.selectionFault]
      by_cases compound : input.hasCompoundName = true
      · rw [if_pos compound, if_pos compound]
      · rw [if_neg compound, if_neg compound, if_neg]
        intro written
        apply untold
        intro lowest here
        cases here
        exact ⟨Bool.eq_false_iff.mpr compound, written⟩

/-- Over an input without its column, a selection misses it, and tells the input if it can. -/
theorem outputs_cons_of_absent {predicate : String × String}
    (absent : (predicate.1 : Label) ∉ input.attributeNames) (operators : List (Operator Relation)) :
    outputs (valueSelection predicate :: operators) input =
      .error (if input.isWritable then .missingAttribute ⟨[predicate.1], [input.render]⟩
        else .unwritable) :=
  outputs_cons_of_misses (.selectValue (Relation.lacks_iff.mpr absent)) operators

end Operator

namespace Session

/-- If all names occur, then selections by values lead to the closed form, in which the values do
not occur and the names count as a set. If some name does not occur, then the lowest selection with
such a name misses it, and tells what it has searched, if that can be written. In both cases the
lowest selection stops the chain, if it has its attribute and its output cannot be told. This cannot
happen if the input can be written and no attribute is called by a list or an object. -/
theorem value_selections_have_closed_form (input : Relation)
    (predicates : List (String × String)) :
    let columns := predicates.map Prod.fst
    let chain : List (Operator RelationRef) := predicates.map Operator.valueSelection
    ((∀ column ∈ columns, (column : Label) ∈ input.attributeNames) →
        (input.TellsLowest columns → LeadsTo chain input (.ok (input.pin columns))) ∧
          (¬ input.TellsLowest columns → LeadsTo chain input (.error input.selectionFault))) ∧
      ((∃ column ∈ columns, (column : Label) ∉ input.attributeNames) →
        ∃ (before : List String) (column : String) (after : List String),
          columns = before ++ column :: after ∧
          (∀ earlier ∈ before, (earlier : Label) ∈ input.attributeNames) ∧
          (column : Label) ∉ input.attributeNames ∧
          (input.TellsLowest before → LeadsTo chain input
            (.error (if (input.pin before).isWritable then
              .missingAttribute ⟨[column], [(input.pin before).render]⟩ else .unwritable))) ∧
          (¬ input.TellsLowest before → LeadsTo chain input (.error input.selectionFault))) ∧
      (∀ others : List String, (∀ name, name ∈ columns ↔ name ∈ others) →
        input.pin columns = input.pin others) ∧
      (input.isWritable = true → input.hasCompoundName = false →
        ∀ others : List String, input.TellsLowest others) := by
  intro columns chain
  have leads : LeadsTo chain input
      (Operator.outputs (predicates.map Operator.valueSelection) input) := by
    apply leadsTo_outputs
    intro image
    rw [List.map_map]
    rfl
  refine ⟨fun occur => ?_, ?_, fun others same => Relation.pin_congr same, Relation.tellsLowest⟩
  · have each : ∀ predicate ∈ predicates, (predicate.1 : Label) ∈ input.attributeNames :=
      fun predicate member => occur predicate.1 (List.mem_map_of_mem member)
    constructor
    · intro tells
      rw [Operator.outputs_of_tells tells each] at leads
      exact leads
    · intro untold
      rw [Operator.outputs_of_not_tells untold each] at leads
      exact leads
  · rintro ⟨_, member, absent⟩
    obtain ⟨other, listed, rfl⟩ := List.mem_map.mp member
    have found : (predicates.find? fun predicate =>
        decide ((predicate.1 : Label) ∉ input.attributeNames)).isSome = true :=
      List.find?_isSome.mpr ⟨other, listed, decide_eq_true absent⟩
    obtain ⟨predicate, first⟩ := Option.isSome_iff_exists.mp found
    obtain ⟨missing, before, after, split, earlier⟩ := List.find?_eq_some_iff_append.mp first
    have each : ∀ predicate ∈ before, (predicate.1 : Label) ∈ input.attributeNames := by
      simpa using earlier
    have lacks := of_decide_eq_true missing
    rw [split, List.map_append, List.map_cons] at leads
    refine ⟨before.map Prod.fst, predicate.1, after.map Prod.fst, by simp [columns, split],
      by simpa using each, lacks, fun tells => ?_, fun untold => ?_⟩
    · rw [Operator.outputs_append_ok (Operator.outputs_of_tells tells each),
        Operator.outputs_cons_of_absent] at leads
      · exact leads
      · rw [Relation.attributeNames_pin]
        exact lacks
    · rw [Operator.outputs_append_error (Operator.outputs_of_not_tells untold each)] at leads
      exact leads

/-- Selections from a relation with two attributes of one name: the same names in two orders, once
with a repetition and always with other values, and a name that does not occur. -/
def valueChains : Session :=
  initial.run [.makeAttribute "a" 2, .makeAttribute "b" 3, .makeAttribute "a" 5,
    .makeRelation 60 [⟨0⟩, ⟨1⟩, ⟨2⟩], .scan "R" ⟨0⟩,
    .select ⟨0⟩ (some (.equalsValue "a" "x")), .select ⟨1⟩ (some (.equalsValue "b" "y")),
    .select ⟨2⟩ (some (.equalsValue "a" "z")), .select ⟨0⟩ (some (.equalsValue "b" "u")),
    .select ⟨4⟩ (some (.equalsValue "a" "v")), .select ⟨1⟩ (some (.equalsValue "c" "w"))]

theorem valueChains_have_closed_form :
    valueChains.Reachable ∧
      (∃ output, valueChains.Yields ⟨3⟩ false (.ok output) ∧
        valueChains.Yields ⟨5⟩ false (.ok output) ∧ output.tupleCount = 10 ∧
        output.attributes.map Attribute.valueCount = [1, 1, 1]) ∧
      valueChains.Yields ⟨6⟩ false (.error (.missingAttribute
        ⟨["c"], ["[a:1, b:3, a:1] (30 tuples)"]⟩)) := by
  have reachable : valueChains.Reachable := reachable_run _
  let scan : Node := .node ⟨⟨0⟩, .scan "R" ⟨0⟩⟩ []
  let select (ref : NodeRef) (predicate : String × String) (below : Node) : Node :=
    .node ⟨ref, .valueSelection predicate⟩ [below]
  let relation := valueChains.store.relation ⟨0⟩
  have here : Store.Estimable valueChains.store scan relation :=
    Store.estimable_scan (by decide +kernel) (by decide +kernel)
  have tells (columns : List String) : relation.TellsLowest columns :=
    Relation.tellsLowest (by decide +kernel) (by decide +kernel) columns
  have lowest : Store.Chain valueChains.store scan (select ⟨1⟩ ("a", "x") scan)
      [.valueSelection ("a", "x")] := .next ⟨1⟩ _ .start (by decide +kernel)
  refine ⟨reachable, ?_, ?_⟩
  · obtain ⟨long, -, same, -⟩ := value_selections_have_closed_form relation
      [("a", "x"), ("b", "y"), ("a", "z")]
    obtain ⟨short, -⟩ := value_selections_have_closed_form relation [("b", "u"), ("a", "v")]
    have first := (long (by decide +kernel)).1 (tells _)
    have second := (short (by decide +kernel)).1 (tells _)
    rw [same ["b", "a"] (by simp)] at first
    have chain : Store.Chain valueChains.store scan
        (select ⟨3⟩ ("a", "z") (select ⟨2⟩ ("b", "y") (select ⟨1⟩ ("a", "x") scan)))
        [.valueSelection ("a", "x"), .valueSelection ("b", "y"), .valueSelection ("a", "z")] :=
      .next ⟨3⟩ _ (.next ⟨2⟩ _ lowest (by decide +kernel)) (by decide +kernel)
    have other : Store.Chain valueChains.store scan
        (select ⟨5⟩ ("a", "v") (select ⟨4⟩ ("b", "u") scan))
        [.valueSelection ("b", "u"), .valueSelection ("a", "v")] :=
      .next ⟨5⟩ _ (.next ⟨4⟩ _ .start (by decide +kernel)) (by decide +kernel)
    refine ⟨_, first valueChains scan _ false reachable here chain ⟨?_, ?_⟩,
      second valueChains scan _ false reachable here other ⟨?_, ?_⟩, ?_, ?_⟩
    all_goals decide +kernel
  · obtain ⟨-, absent, -⟩ := value_selections_have_closed_form relation [("a", "x"), ("c", "w")]
    obtain ⟨before, column, after, split, -, missing, stops, -⟩ := absent (by decide +kernel)
    have occurs : ("a" : Label) ∈ relation.attributeNames := by decide +kernel
    rcases List.cons_eq_append_iff.mp split with ⟨-, first⟩ | ⟨rest, rfl, later⟩
    · cases first
      exact absurd occurs missing
    · rcases List.cons_eq_append_iff.mp later with ⟨rfl, second⟩ | ⟨_, rfl, none⟩
      · cases second
        have shown : (relation.pin ["a"]).render = "[a:1, b:3, a:1] (30 tuples)" := by
          decide +kernel
        have writable : (relation.pin ["a"]).isWritable = true := by decide +kernel
        have fails := stops (tells _)
        rw [if_pos writable, shown] at fails
        have chain : Store.Chain valueChains.store scan
            (select ⟨6⟩ ("c", "w") (select ⟨1⟩ ("a", "x") scan))
            [.valueSelection ("a", "x"), .valueSelection ("c", "w")] :=
          .next ⟨6⟩ _ lowest (by decide +kernel)
        exact fails valueChains scan _ false reachable here chain
          ⟨by decide +kernel, by decide +kernel⟩
      · simp at none

/-- Two selections by values in both orders, from a product that is too long. -/
def longPairs : Session :=
  initial.run [.makeAttribute "a" (Nat.pow 10 2200), .makeAttribute "b" 1,
    .makeRelation (Nat.pow 10 2200) [⟨0⟩, ⟨1⟩], .scan "R" ⟨0⟩, .product [⟨0⟩, ⟨0⟩],
    .select ⟨1⟩ (some (.equalsValue "a" "x")), .select ⟨2⟩ (some (.equalsValue "b" "y")),
    .select ⟨1⟩ (some (.equalsValue "b" "y")), .select ⟨4⟩ (some (.equalsValue "a" "x"))]

/-- The product has both attributes, and yet the selections yield no relation in either order. -/
theorem longPairs_yield_no_selection :
    let scan : Node := .node ⟨⟨0⟩, .scan "R" ⟨0⟩⟩ []
    let product : Node := .node ⟨⟨1⟩, .product⟩ [scan, scan]
    let select (ref : NodeRef) (predicate : String × String) (below : Node) : Node :=
      .node ⟨ref, .valueSelection predicate⟩ [below]
    let first := select ⟨3⟩ ("b", "y") (select ⟨2⟩ ("a", "x") product)
    let second := select ⟨5⟩ ("a", "x") (select ⟨4⟩ ("b", "y") product)
    let relation := longPairs.store.relation ⟨0⟩
    longPairs.Reachable ∧
      Store.Means longPairs.store product (Relation.product [relation, relation]) ∧
      (∀ column ∈ ["a", "b"],
        (column : Label) ∈ (Relation.product [relation, relation]).attributeNames) ∧
      longPairs.store.Pending first ∧ longPairs.store.Pending second ∧
      (¬ ∃ output, longPairs.Yields ⟨3⟩ false (.ok output)) ∧
      ¬ ∃ output, longPairs.Yields ⟨5⟩ false (.ok output) := by
  intro scan product select first second relation
  have reachable : longPairs.Reachable := reachable_run _
  have here : Store.Estimable longPairs.store scan relation :=
    Store.estimable_scan (by decide +kernel) (by decide +kernel)
  have fails : (longPairs.store.parts product).findSome? longPairs.store.stop? =
      some .unwritable := by decide +kernel
  have firstChain : Store.Chain longPairs.store product first
      [.valueSelection ("a", "x"), .valueSelection ("b", "y")] :=
    .next ⟨3⟩ _ (.next ⟨2⟩ _ .start (by decide +kernel)) (by decide +kernel)
  have secondChain : Store.Chain longPairs.store product second
      [.valueSelection ("b", "y"), .valueSelection ("a", "x")] :=
    .next ⟨5⟩ _ (.next ⟨4⟩ _ .start (by decide +kernel)) (by decide +kernel)
  have pending : longPairs.store.Pending first := ⟨by decide +kernel, by decide +kernel⟩
  have secondPending : longPairs.store.Pending second := ⟨by decide +kernel, by decide +kernel⟩
  have unknown : longPairs.store.output? ⟨1⟩ = none := by decide +kernel
  exact ⟨reachable, Store.means_product unknown here.means here.means, by decide +kernel, pending,
    secondPending,
    yields_none_of_stops reachable firstChain pending fails,
    yields_none_of_stops reachable secondChain secondPending fails⟩

end Session

end Selectivity

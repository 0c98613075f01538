import Selectivity.Proofs.Session.Chains
import Selectivity.Proofs.Statistics.Projections

/-!
# Projections in a session

A projection of a projection without repetitions is estimated to what a single projection is, and a
selection whose attributes are kept can be estimated before or after the projection. Only what can
be told of the outputs in between makes a difference: one of two chains with the same top can end
below it, because a count cannot be written there, or because its selection looks through the names
of attributes that the projection drops.
-/

namespace Selectivity

namespace Operator

variable {input selected : Relation} {predicate : Predicate} {kept : List String}

theorem outputs_cons_project (input : Relation) (kept : List String)
    (operators : List (Operator Relation)) :
    outputs (.project kept :: operators) input =
      if (input.project kept).isWritable then outputs operators (input.project kept)
      else .error .unwritable := by
  simp only [outputs_cons_of_estimates (Relation.estimates_project input kept), hasCondition,
    Bool.false_and, Bool.false_eq_true, if_false]

theorem outputs_project_project (input : Relation) (first second : List String) :
    outputs [.project first, .project second] input =
      if (input.project first).isWritable then .ok ((input.project first).project second)
      else .error .unwritable := by
  rw [outputs_cons_project, outputs_cons_project]
  by_cases writable : (input.project first).isWritable = true
  · rw [if_pos writable, if_pos writable, if_pos (Relation.isWritable_project writable second)]
    rfl
  · rw [if_neg writable, if_neg writable]

/-- A selection from a projection puts out the projection of what it puts out before. -/
theorem outputs_project_select (listed : ∀ name ∈ predicate.attributes, name ∈ kept)
    (estimates : Estimates (.select (some predicate)) [input] selected) :
    outputs [.project kept, .select (some predicate)] input =
      if (input.project kept).isWritable then .ok (selected.project kept)
      else .error .unwritable := by
  have later := estimates.of_projection listed
  have simple := Relation.hasCompoundName_project selected kept
  rw [outputs_cons_project, outputs_cons_of_estimates later]
  by_cases writable : (input.project kept).isWritable = true
  · rw [if_pos writable, if_pos writable, simple, if_pos (later.isWritable rfl writable)]
    rfl
  · rw [if_neg writable, if_neg writable]

/-- A projection of a selection can be written, if the selection can be told. -/
theorem outputs_select_project
    (estimates : Estimates (.select (some predicate)) [input] selected) :
    outputs [.select (some predicate), .project kept] input =
      if input.hasCompoundName then .error .compoundName
      else if selected.isWritable then .ok (selected.project kept)
      else .error .unwritable := by
  rw [outputs_cons_of_estimates estimates, outputs_cons_project, estimates.hasCompoundName_select]
  by_cases writable : selected.isWritable = true
  · rw [if_pos writable, if_pos writable, if_pos (Relation.isWritable_project writable kept)]
    rfl
  · rw [if_neg writable, if_neg writable]
    rfl

/-- A selection that misses its attributes does so after a projection, if this can be written. -/
theorem outputs_project_select_of_misses {attributes : List String}
    (misses : Misses (.select (some predicate)) [input] attributes) :
    outputs [.project kept, .select (some predicate)] input =
      .error (if (input.project kept).isWritable then
        .missingAttribute ⟨predicate.attributes, [(input.project kept).render]⟩
      else .unwritable) := by
  rw [outputs_cons_project, outputs_cons_of_misses (misses.of_projection kept).2]
  by_cases writable : (input.project kept).isWritable = true
  · rw [if_pos writable]
  · rw [if_neg writable, if_neg writable]

end Operator

namespace Session

/-- If the first list has no repetitions, then a second projection keeps those of its names that are
in the first list, as a single projection onto these does. In particular the second projection can
be the first one again. No count of tuples changes. If the first projection cannot be written, then
it is the fault of every chain that starts with it. -/
theorem projections_compose (input : Relation) {first : List String} (distinct : first.Nodup)
    (second : List String) :
    let both := second.filter fun name => decide (name ∈ first)
    let inner := input.project first
    let result := input.project both
    LeadsTo [.project first] input (if inner.isWritable then .ok inner else .error .unwritable) ∧
      LeadsTo [.project first, .project first] input
        (if inner.isWritable then .ok inner else .error .unwritable) ∧
      LeadsTo [.project both] input
        (if result.isWritable then .ok result else .error .unwritable) ∧
      LeadsTo [.project first, .project second] input
        (if inner.isWritable then .ok result else .error .unwritable) ∧
      (input.isWritable = true → inner.isWritable = true) ∧
      (inner.isWritable = true → result.isWritable = true) ∧
      inner.tupleCount = input.tupleCount ∧ result.tupleCount = input.tupleCount := by
  intro both inner result
  have again : inner.project second = result := Relation.project_project distinct second
  have same : inner.project first = inner := by
    have composed : inner.project first = input.project (first.filter fun name =>
        decide (name ∈ first)) := Relation.project_project distinct first
    rw [composed, List.filter_eq_self.mpr fun name member => decide_eq_true member]
  have single (kept : List String) : LeadsTo [.project kept] input
      (if (input.project kept).isWritable then .ok (input.project kept)
        else .error .unwritable) := by
    have leads := leadsTo_outputs input [.project kept] [.project kept] fun _ => rfl
    rw [Operator.outputs_cons_project] at leads
    exact leads
  have double (kept : List String) : LeadsTo [.project first, .project kept] input
      (if inner.isWritable then .ok (inner.project kept) else .error .unwritable) := by
    have leads := leadsTo_outputs input [.project first, .project kept]
      [.project first, .project kept] fun _ => rfl
    rw [Operator.outputs_project_project] at leads
    exact leads
  refine ⟨single first, ?_, single both, ?_, fun writable => ?_, fun writable => ?_, rfl, rfl⟩
  · have leads := double first
    rw [same] at leads
    exact leads
  · have leads := double second
    rw [again] at leads
    exact leads
  · exact Relation.isWritable_project writable first
  · rw [← again]
    exact Relation.isWritable_project writable second

/-- A projection of a projection, and the single one onto the names that are left. The relation has
two attributes of one name, and the second list names it twice. -/
def regrouped : Session :=
  initial.run [.makeAttribute "a" 2, .makeAttribute "b" 3, .makeAttribute "a" 5,
    .makeRelation 6 [⟨0⟩, ⟨1⟩, ⟨2⟩], .scan "R" ⟨0⟩, .project ⟨0⟩ ["b", "a"],
    .project ⟨1⟩ ["a", "c", "a"], .project ⟨0⟩ ["a", "a"]]

theorem regrouped_composes :
    regrouped.Reachable ∧ ∃ output, regrouped.Yields ⟨2⟩ false (.ok output) ∧
      regrouped.Yields ⟨3⟩ false (.ok output) ∧ output.tupleCount = 6 ∧
      output.attributes.map Attribute.valueCount = [2, 5, 2, 5] := by
  have reachable : regrouped.Reachable := reachable_run _
  let scan : Node := .node ⟨⟨0⟩, .scan "R" ⟨0⟩⟩ []
  let inner : Node := .node ⟨⟨1⟩, .project ["b", "a"]⟩ [scan]
  let relation := regrouped.store.relation ⟨0⟩
  have here : Store.Estimable regrouped.store scan relation :=
    Store.estimable_scan (by decide +kernel) (by decide +kernel)
  have distinct : ["b", "a"].Nodup := by decide
  obtain ⟨-, -, single, double, writes, narrows, -, tuples⟩ :=
    projections_compose relation distinct ["a", "c", "a"]
  have written := writes (by decide +kernel)
  rw [if_pos (narrows written)] at single
  rw [if_pos written] at double
  have chain : Store.Chain regrouped.store scan (.node ⟨⟨2⟩, .project ["a", "c", "a"]⟩ [inner])
      [.project ["b", "a"], .project ["a", "c", "a"]] :=
    .next ⟨2⟩ _ (.next ⟨1⟩ _ .start (by decide +kernel)) (by decide +kernel)
  have short : Store.Chain regrouped.store scan (.node ⟨⟨3⟩, .project ["a", "a"]⟩ [scan])
      [.project ["a", "a"]] := .next ⟨3⟩ _ .start (by decide +kernel)
  refine ⟨reachable, _, double regrouped scan _ false reachable here chain ⟨?_, ?_⟩,
    single regrouped scan _ false reachable here short ⟨?_, ?_⟩, tuples, ?_⟩
  all_goals decide +kernel

/-- Projections of a product that is too long, and a selection before and after one of them. -/
def longColumns : Session :=
  initial.run [.makeAttribute "a" (Nat.pow 10 2200), .makeRelation (Nat.pow 10 2200) [⟨0⟩],
    .scan "R" ⟨0⟩, .product [⟨0⟩, ⟨0⟩], .project ⟨1⟩ ["a"], .project ⟨2⟩ ["a"],
    .select ⟨2⟩ (some (.equalsValue "a" "x")), .select ⟨1⟩ (some (.equalsValue "a" "x")),
    .project ⟨5⟩ ["a"]]

/-- The product means something, and neither projecting it once nor twice yields a relation. -/
theorem longColumns_yield_no_projection :
    let scan : Node := .node ⟨⟨0⟩, .scan "R" ⟨0⟩⟩ []
    let product : Node := .node ⟨⟨1⟩, .product⟩ [scan, scan]
    let single : Node := .node ⟨⟨2⟩, .project ["a"]⟩ [product]
    let relation := longColumns.store.relation ⟨0⟩
    longColumns.Reachable ∧
      Store.Means longColumns.store product (Relation.product [relation, relation]) ∧
      longColumns.store.Pending single ∧
      longColumns.store.Pending (.node ⟨⟨3⟩, .project ["a"]⟩ [single]) ∧
      (¬ ∃ output, longColumns.Yields ⟨2⟩ false (.ok output)) ∧
      ¬ ∃ output, longColumns.Yields ⟨3⟩ false (.ok output) := by
  intro scan product single relation
  have reachable : longColumns.Reachable := reachable_run _
  have here : Store.Estimable longColumns.store scan relation :=
    Store.estimable_scan (by decide +kernel) (by decide +kernel)
  have fails : (longColumns.store.parts product).findSome? longColumns.store.stop? =
      some .unwritable := by decide +kernel
  have once : Store.Chain longColumns.store product single [.project ["a"]] :=
    .next ⟨2⟩ _ .start (by decide +kernel)
  have twice : Store.Chain longColumns.store product (.node ⟨⟨3⟩, .project ["a"]⟩ [single])
      [.project ["a"], .project ["a"]] := .next ⟨3⟩ _ once (by decide +kernel)
  have pending : longColumns.store.Pending single := ⟨by decide +kernel, by decide +kernel⟩
  have above : longColumns.store.Pending (.node ⟨⟨3⟩, .project ["a"]⟩ [single]) :=
    ⟨by decide +kernel, by decide +kernel⟩
  have unknown : longColumns.store.output? ⟨1⟩ = none := by decide +kernel
  have means := Store.means_product unknown here.means here.means
  exact ⟨reachable, means, pending, above,
    yields_none_of_stops reachable once pending fails,
    yields_none_of_stops reachable twice above fails⟩

/-- A selection whose attributes are kept and the projection can change their places. Either the
rule of the selection allows an output, and both chains lead to the projection of this output, as
far as the output in between can be told, or the selection misses its attributes in both chains, and
tells the relation that it has searched, if this can be written. If the input can be written, then
every output in between can be, too. -/
theorem selections_and_projections_commute (input : Relation) (predicate : Predicate)
    {kept : List String} (listed : ∀ name ∈ predicate.attributes, name ∈ kept) :
    let inner := input.project kept
    ((∃ selected, Estimates (.select (some predicate)) [input] selected ∧
        LeadsTo [.project kept, .select (some predicate)] input
          (if inner.isWritable then .ok (selected.project kept) else .error .unwritable) ∧
        LeadsTo [.select (some predicate), .project kept] input
          (if input.hasCompoundName then .error .compoundName
            else if selected.isWritable then .ok (selected.project kept)
            else .error .unwritable) ∧
        (input.isWritable = true → selected.isWritable = true)) ∨
      Misses (.select (some predicate)) [input] predicate.attributes ∧
        LeadsTo [.project kept, .select (some predicate)] input
          (.error (if inner.isWritable then
            .missingAttribute ⟨predicate.attributes, [inner.render]⟩ else .unwritable)) ∧
        LeadsTo [.select (some predicate), .project kept] input
          (.error (if input.isWritable then
            .missingAttribute ⟨predicate.attributes, [input.render]⟩ else .unwritable))) ∧
      (input.isWritable = true → inner.isWritable = true) := by
  intro inner
  have after := leadsTo_outputs input [.project kept, .select (some predicate)]
    [.project kept, .select (some predicate)] fun _ => rfl
  have before := leadsTo_outputs input [.select (some predicate), .project kept]
    [.select (some predicate), .project kept] fun _ => rfl
  refine ⟨?_, fun writable => Relation.isWritable_project writable kept⟩
  have rule : (Operator.select (some predicate) : Operator Relation).hasRule = true := rfl
  have arity :
      (Operator.select (some predicate) : Operator Relation).accepts [input].length = true := rfl
  rcases Operator.estimate_cases rule arity with ⟨selected, estimates, -⟩ | ⟨attributes, misses, -⟩
  · rw [Operator.outputs_project_select listed estimates] at after
    rw [Operator.outputs_select_project estimates] at before
    exact Or.inl ⟨selected, estimates, after, before, estimates.isWritable rfl⟩
  · obtain ⟨rfl, later⟩ := misses.of_projection kept
    rw [Operator.outputs_project_select_of_misses misses] at after
    rw [Operator.outputs_cons_of_misses misses] at before
    exact Or.inr ⟨misses, after, before⟩

/-- Selections from a relation with two attributes of one name, before and after a projection that
lists this name twice and drops another one. -/
def selectedTwice : Session :=
  initial.run [.makeAttribute "a" 2, .makeAttribute "b" 3, .makeAttribute "a" 5,
    .makeRelation 6 [⟨0⟩, ⟨1⟩, ⟨2⟩], .scan "R" ⟨0⟩, .project ⟨0⟩ ["a", "c", "a"],
    .select ⟨1⟩ (some (.equalsValue "a" "x")), .select ⟨0⟩ (some (.equalsValue "a" "x")),
    .project ⟨3⟩ ["a", "c", "a"], .select ⟨1⟩ (some (.equalsValue "c" "x")),
    .select ⟨0⟩ (some (.equalsValue "c" "x")), .project ⟨6⟩ ["a", "c", "a"]]

theorem selectedTwice_commutes :
    selectedTwice.Reachable ∧
      (∃ output, selectedTwice.Yields ⟨2⟩ false (.ok output) ∧
        selectedTwice.Yields ⟨4⟩ false (.ok output) ∧ output.tupleCount = 3) ∧
      selectedTwice.Yields ⟨5⟩ false (.error (.missingAttribute
        ⟨["c"], ["[a:2, a:5, a:2, a:5] (6 tuples)"]⟩)) ∧
      selectedTwice.Yields ⟨7⟩ false (.error (.missingAttribute
        ⟨["c"], ["[a:2, b:3, a:5] (6 tuples)"]⟩)) := by
  have reachable : selectedTwice.Reachable := reachable_run _
  let scan : Node := .node ⟨⟨0⟩, .scan "R" ⟨0⟩⟩ []
  let project : Operator RelationRef := .project ["a", "c", "a"]
  let select (column : String) : Operator RelationRef :=
    .select (some (.equalsValue column "x"))
  let relation := selectedTwice.store.relation ⟨0⟩
  have here : Store.Estimable selectedTwice.store scan relation :=
    Store.estimable_scan (by decide +kernel) (by decide +kernel)
  have after (column : String) (ref : NodeRef) (unknown : selectedTwice.store.output? ref = none) :
      Store.Chain selectedTwice.store scan
        (.node ⟨ref, select column⟩ [.node ⟨⟨1⟩, project⟩ [scan]]) [project, select column] :=
    .next ref _ (.next ⟨1⟩ _ .start (by decide +kernel)) unknown
  have before (column : String) (ref above : NodeRef)
      (unknown : selectedTwice.store.output? ref = none)
      (aboveUnknown : selectedTwice.store.output? above = none) :
      Store.Chain selectedTwice.store scan
        (.node ⟨above, project⟩ [.node ⟨ref, select column⟩ [scan]]) [select column, project] :=
    .next above _ (.next ref _ .start unknown) aboveUnknown
  have writable : relation.isWritable = true := by decide +kernel
  refine ⟨reachable, ?_, ?_⟩
  · obtain ⟨choice, writes⟩ := selections_and_projections_commute relation (.equalsValue "a" "x")
      (show ∀ name ∈ ["a"], name ∈ ["a", "c", "a"] by decide)
    rcases choice with ⟨selected, estimates, late, early, narrows⟩ | ⟨misses, -⟩
    · have count : ((Operator.select (some (.equalsValue "a" "x"))).estimate
          [relation]).toOption.map Relation.tupleCount = some 3 := by decide +kernel
      rw [Operator.estimate_of_estimates estimates] at count
      have simple : relation.hasCompoundName = false := by decide +kernel
      rw [if_pos (writes writable)] at late
      rw [simple, if_neg Bool.false_ne_true, if_pos (narrows writable)] at early
      refine ⟨_, late _ _ _ false reachable here (after "a" ⟨2⟩ ?_) ⟨?_, ?_⟩,
        early _ _ _ false reachable here (before "a" ⟨3⟩ ⟨4⟩ ?_ ?_) ⟨?_, ?_⟩,
        Option.some.inj count⟩
      all_goals decide +kernel
    · cases misses with
      | selectValue lacks =>
          rw [Relation.lacks_iff] at lacks
          exact absurd lacks (by decide +kernel)
  · obtain ⟨choice, writes⟩ := selections_and_projections_commute relation (.equalsValue "c" "x")
      (show ∀ name ∈ ["c"], name ∈ ["a", "c", "a"] by decide)
    rcases choice with ⟨selected, estimates, -⟩ | ⟨-, late, early⟩
    · cases estimates with
      | selectValue leads _ _ =>
          have lacks : relation.Lacks "c" := by
            rw [Relation.lacks_iff]
            decide +kernel
          exact absurd lacks leads.not_lacks
    · rw [if_pos (writes writable)] at late
      rw [if_pos writable] at early
      have shown : relation.render = "[a:2, b:3, a:5] (6 tuples)" := by decide +kernel
      have projected : (relation.project ["a", "c", "a"]).render =
          "[a:2, a:5, a:2, a:5] (6 tuples)" := by decide +kernel
      rw [projected] at late
      rw [shown] at early
      refine ⟨late _ _ _ false reachable here (after "c" ⟨5⟩ ?_) ⟨?_, ?_⟩,
        early _ _ _ false reachable here (before "c" ⟨6⟩ ⟨7⟩ ?_ ?_) ⟨?_, ?_⟩⟩
      all_goals decide +kernel

/-- The product has the attribute that is selected by, and yet the selection from it yields no
relation before or after a projection. -/
theorem longColumns_yield_no_selection :
    let scan : Node := .node ⟨⟨0⟩, .scan "R" ⟨0⟩⟩ []
    let product : Node := .node ⟨⟨1⟩, .product⟩ [scan, scan]
    let select : Operator RelationRef := .select (some (.equalsValue "a" "x"))
    let late : Node := .node ⟨⟨4⟩, select⟩ [.node ⟨⟨2⟩, .project ["a"]⟩ [product]]
    let early : Node := .node ⟨⟨6⟩, .project ["a"]⟩ [.node ⟨⟨5⟩, select⟩ [product]]
    let relation := longColumns.store.relation ⟨0⟩
    longColumns.Reachable ∧
      Store.Means longColumns.store product (Relation.product [relation, relation]) ∧
      (∃ selected, Estimates (.select (some (.equalsValue "a" "x")))
        [Relation.product [relation, relation]] selected) ∧
      longColumns.store.Pending late ∧ longColumns.store.Pending early ∧
      (¬ ∃ output, longColumns.Yields ⟨4⟩ false (.ok output)) ∧
      ¬ ∃ output, longColumns.Yields ⟨6⟩ false (.ok output) := by
  intro scan product select late early relation
  have reachable : longColumns.Reachable := reachable_run _
  have here : Store.Estimable longColumns.store scan relation :=
    Store.estimable_scan (by decide +kernel) (by decide +kernel)
  have fails : (longColumns.store.parts product).findSome? longColumns.store.stop? =
      some .unwritable := by decide +kernel
  have lateChain : Store.Chain longColumns.store product late [.project ["a"], select] :=
    .next ⟨4⟩ _ (.next ⟨2⟩ _ .start (by decide +kernel)) (by decide +kernel)
  have earlyChain : Store.Chain longColumns.store product early [select, .project ["a"]] :=
    .next ⟨6⟩ _ (.next ⟨5⟩ _ .start (by decide +kernel)) (by decide +kernel)
  have pending : longColumns.store.Pending late := ⟨by decide +kernel, by decide +kernel⟩
  have earlyPending : longColumns.store.Pending early := ⟨by decide +kernel, by decide +kernel⟩
  have unknown : longColumns.store.output? ⟨1⟩ = none := by decide +kernel
  have means := Store.means_product unknown here.means here.means
  have allowed : ((Operator.select (some (.equalsValue "a" "x"))).estimate
      [Relation.product [relation, relation]]).isOk = true := by decide +kernel
  obtain ⟨selected, told⟩ := exists_of_isOk allowed
  exact ⟨reachable, means, ⟨selected, Operator.estimate_eq_ok_iff.mp told⟩, pending, earlyPending,
    yields_none_of_stops reachable lateChain pending fails,
    yields_none_of_stops reachable earlyChain earlyPending fails⟩

end Session

end Selectivity

import Selectivity.Proofs.Estimation.Verdicts
import Selectivity.Proofs.Session.Counts
import Selectivity.Proofs.Session.JoinLines
import Selectivity.Proofs.Statistics.Selections

/-!
# Joins and selections in a session

A join is estimated to the same output or the same fault as the selection that it is: the one from
its left input, or the one from the product of its inputs. Only the product itself can make a
difference, because it has to be told before a selection from it is estimated, and it can have more
tuples than can be written.
-/

namespace Selectivity

namespace Store

variable {store : Store}

/-- The node is in the store, and its output is not known. -/
structure Pending (store : Store) (node : Node) : Prop where
  stored : store.node? node.ref = some node
  unknown : store.output? node.ref = none

/-- A scan without output can be estimated if the counts of its base relation can be written. -/
theorem estimable_scan {ref : NodeRef} {name : String} {base : RelationRef}
    (unknown : store.output? ref = none) (writable : (store.relation base).isWritable = true) :
    Estimable store (.node ⟨ref, .scan name base⟩ []) (store.relation base) := by
  have means : Means store (.node ⟨ref, .scan name base⟩ []) (store.relation base) :=
    .rule unknown .nil (.scan name _)
  refine ⟨means, fun part member result partMeans => ?_⟩
  rw [parts_of_pending unknown] at member
  rw [List.mem_singleton.mp member] at partMeans ⊢
  rw [partMeans.unique means]
  exact ⟨nofun, writable⟩

variable {left right : Node} {first second : Relation}

/-- Neither of two nodes that can be estimated stops the estimation of a node above them. -/
theorem Estimable.pair_passes (here : Estimable store left first)
    (there : Estimable store right second) :
    ∀ part ∈ store.partsOfAll [left, right], store.stop? part = none := by
  intro part member
  rw [partsOfAll, partsOfAll, partsOfAll, List.append_nil] at member
  rcases List.mem_append.mp member with early | late
  · exact here.stop?_eq_none early
  · exact there.stop?_eq_none late

theorem Estimable.meansAll_pair (here : Estimable store left first)
    (there : Estimable store right second) : MeansAll store [left, right] [first, second] :=
  .cons here.means (.cons there.means .nil)

end Store

theorem Operator.product_output (inputs : List Relation) :
    (Operator.product : Operator Relation).output inputs =
      if (Relation.product inputs).isWritable then .ok (Relation.product inputs)
      else .error .unwritable := by
  simp only [Operator.output, Operator.estimate, Operator.hasCondition, Bool.false_and,
    Bool.false_eq_true, if_false, Relation.isSome_render?]

namespace Session

variable {session : Session} {left right : Node} {first second : Relation}
  {condition : Comparison} {ref base : NodeRef}

theorem join_yields (wellFormed : session.store.WellFormed)
    (here : Store.Estimable session.store left first)
    (there : Store.Estimable session.store right second)
    (pending : session.store.Pending (.node ⟨ref, .join condition⟩ [left, right]))
    (verbose : Bool) :
    session.Yields ref verbose ((Operator.join condition).output [first, second]) := by
  have yields := yields_verdict wellFormed pending.stored pending.unknown verbose
    (here.pair_passes there)
  rw [Store.verdict_eq_output (here.meansAll_pair there)] at yields
  exact yields

theorem selection_yields (wellFormed : session.store.WellFormed)
    (here : Store.Estimable session.store left first)
    (pending : session.store.Pending (.node ⟨ref, condition.selection⟩ [left]))
    (verbose : Bool) : session.Yields ref verbose (condition.selection.output [first]) := by
  have yields := yields_verdict wellFormed pending.stored pending.unknown verbose ?_
  · rw [Store.verdict_eq_output (.cons here.means .nil)] at yields
    exact yields
  · intro part member
    rw [Tree.children, Store.partsOfAll, Store.partsOfAll, List.append_nil] at member
    exact here.stop?_eq_none member

/-- A selection from a product is estimated to what its rule makes of the product, if that can be
written. -/
theorem product_selection_yields (wellFormed : session.store.WellFormed)
    (here : Store.Estimable session.store left first)
    (there : Store.Estimable session.store right second)
    (product : session.store.Pending (.node ⟨base, .product⟩ [left, right]))
    (pending : session.store.Pending
      (.node ⟨ref, condition.selection⟩ [.node ⟨base, .product⟩ [left, right]]))
    (verbose : Bool) :
    ((Relation.product [first, second]).isWritable = true → session.Yields ref verbose
        (condition.selection.output [Relation.product [first, second]])) ∧
      ((Relation.product [first, second]).isWritable = false →
        session.Yields ref verbose (.error .unwritable)) := by
  have comes : session.store.verdict (.node ⟨base, .product⟩ [left, right]) =
      (Operator.product : Operator Relation).output [first, second] :=
    Store.verdict_eq_output (here.meansAll_pair there)
  have below : session.store.parts (.node ⟨base, .product⟩ [left, right]) =
      session.store.partsOfAll [left, right] ++ [.node ⟨base, .product⟩ [left, right]] :=
    Store.parts_of_pending product.unknown
  rw [Operator.product_output] at comes
  constructor
  · intro writable
    rw [if_pos writable] at comes
    have means := Store.means_product product.unknown here.means there.means
    have yields := yields_verdict wellFormed pending.stored pending.unknown verbose ?_
    · rw [Store.verdict_eq_output (.cons means .nil)] at yields
      exact yields
    · intro part member
      rw [Tree.children, Store.partsOfAll, Store.partsOfAll, List.append_nil, below] at member
      rcases List.mem_append.mp member with deep | last
      · exact here.pair_passes there part deep
      · rw [List.mem_singleton.mp last, Store.stop?_eq_none_iff]
        exact ⟨_, comes⟩
  · intro tooLong
    rw [if_neg (Bool.eq_false_iff.mp tooLong)] at comes
    have passes := List.findSome?_eq_none_iff.mpr (here.pair_passes there)
    have order : session.store.parts
        (.node ⟨ref, condition.selection⟩ [.node ⟨base, .product⟩ [left, right]]) =
          session.store.partsOfAll [.node ⟨base, .product⟩ [left, right]] ++
            [.node ⟨ref, condition.selection⟩ [.node ⟨base, .product⟩ [left, right]]] :=
      Store.parts_of_pending pending.unknown
    apply yields_fault wellFormed pending.stored pending.unknown verbose
    rw [order, Store.partsOfAll, Store.partsOfAll, below, List.append_nil, List.append_assoc,
      List.findSome?_append, passes, Option.none_or, List.singleton_append, List.findSome?_cons,
      Store.stop?_eq_some_iff.mpr comes]

/-- Over inputs that can be estimated, the join yields the output of its rule, and so does the
selection that it is: if the left input has both names, the selection from it, and if one name is of
each input, the selection from their product, as long as the product can be written. In both cases
the rule allows an output. In all others the join yields that its attributes are missing in the two
relations, or that these cannot be told, if one of them has a count that is too long. -/
theorem joins_are_selections {session : Session} (reachable : session.Reachable)
    {left right : Node} {first second : Relation}
    (here : Store.Estimable session.store left first)
    (there : Store.Estimable session.store right second) (condition : Comparison)
    (verbose : Bool) :
    let joined := (Operator.join condition).output [first, second]
    (∀ ref, session.store.Pending (.node ⟨ref, .join condition⟩ [left, right]) →
        session.Yields ref verbose joined) ∧
      (condition.Within first →
        (∃ output, Estimates (.join condition) [first, second] output) ∧
          ∀ ref, session.store.Pending (.node ⟨ref, condition.selection⟩ [left]) →
            session.Yields ref verbose joined) ∧
      (condition.Crosses first second →
        (∃ output, Estimates (.join condition) [first, second] output) ∧
          ∀ ref base, session.store.Pending (.node ⟨base, .product⟩ [left, right]) →
            session.store.Pending
              (.node ⟨ref, condition.selection⟩ [.node ⟨base, .product⟩ [left, right]]) →
            ((Relation.product [first, second]).isWritable = true →
                session.Yields ref verbose joined) ∧
              ((Relation.product [first, second]).isWritable = false →
                session.Yields ref verbose (.error .unwritable))) ∧
      (¬ condition.Within first → ¬ condition.Crosses first second →
        (first.isWritable = true → second.isWritable = true →
            joined = .error (.missingAttribute
              ⟨[condition.left, condition.right], [first.render, second.render]⟩)) ∧
          (first.isWritable = false ∨ second.isWritable = false →
            joined = .error .unwritable)) := by
  have wellFormed := reachable.store_wellFormed
  intro joined
  refine ⟨fun ref pending => join_yields wellFormed here there pending verbose,
    fun within => ⟨?_, fun ref pending => ?_⟩,
    fun crosses => ⟨?_, fun ref base product pending => ?_⟩, fun apart aside => ?_⟩
  · obtain ⟨output, joins, -⟩ := within.estimates second
    exact ⟨output, joins⟩
  · have same : joined = condition.selection.output [first] := within.output_eq
    rw [same]
    exact selection_yields wellFormed here pending verbose
  · obtain ⟨output, joins, -⟩ := crosses.estimates
    exact ⟨output, joins⟩
  · have same : joined = condition.selection.output [Relation.product [first, second]] :=
      crosses.output_eq
    rw [same]
    exact product_selection_yields wellFormed here there product pending verbose
  · have told : joined = .error (.missing [condition.left, condition.right] [first, second]) :=
      (misses_of_apart apart aside).output_eq
    rw [told]
    refine ⟨fun left right => ?_, fun tooLong => congrArg Except.error ?_⟩
    · rw [EstimateFault.missing_of_writable _ (by simp [left, right])]
      rfl
    · rcases tooLong with long | long
      · exact EstimateFault.missing_of_tooLong _ List.mem_cons_self long
      · exact EstimateFault.missing_of_tooLong _ (List.mem_cons_of_mem _ List.mem_cons_self) long

/-- Joins of two scans: one within the left scan, one across both and one that finds both of its
names on the right, with the selections that the first two are. -/
def joinForms : Session :=
  initial.run [.makeAttribute "a" 2, .makeRelation 6 [⟨0⟩], .makeAttribute "b" 3,
    .makeRelation 5 [⟨1⟩], .scan "L" ⟨0⟩, .scan "R" ⟨1⟩,
    .join ⟨0⟩ ⟨1⟩ (some (.equalsAttribute ⟨"a", "a"⟩)),
    .select ⟨0⟩ (some (.equalsAttribute ⟨"a", "a"⟩)),
    .join ⟨0⟩ ⟨1⟩ (some (.equalsAttribute ⟨"b", "a"⟩)), .product [⟨0⟩, ⟨1⟩],
    .select ⟨5⟩ (some (.equalsAttribute ⟨"b", "a"⟩)),
    .join ⟨0⟩ ⟨1⟩ (some (.equalsAttribute ⟨"b", "b"⟩))]

theorem eq_ok_of_toOption {Fault Value : Type} {answer : Except Fault Value} {value : Value}
    (told : answer.toOption = some value) : answer = .ok value := by
  cases answer with
  | error fault => cases told
  | ok other => exact congrArg Except.ok (Option.some.inj told)

theorem joinForms_are_selections :
    joinForms.Reachable ∧
      (∃ output, joinForms.Yields ⟨2⟩ false (.ok output) ∧
        joinForms.Yields ⟨3⟩ false (.ok output) ∧ output.tupleCount = 3) ∧
      (∃ output, joinForms.Yields ⟨4⟩ false (.ok output) ∧
        joinForms.Yields ⟨6⟩ false (.ok output) ∧ output.tupleCount = 10) ∧
      joinForms.Yields ⟨7⟩ false (.error (.missingAttribute
        ⟨["b", "b"], ["[a:2] (6 tuples)", "[b:3] (5 tuples)"]⟩)) := by
  have reachable : joinForms.Reachable := reachable_run _
  let left : Node := .node ⟨⟨0⟩, .scan "L" ⟨0⟩⟩ []
  let right : Node := .node ⟨⟨1⟩, .scan "R" ⟨1⟩⟩ []
  have here : Store.Estimable joinForms.store left (joinForms.store.relation ⟨0⟩) :=
    Store.estimable_scan (by decide +kernel) (by decide +kernel)
  have there : Store.Estimable joinForms.store right (joinForms.store.relation ⟨1⟩) :=
    Store.estimable_scan (by decide +kernel) (by decide +kernel)
  have forms := fun condition => joins_are_selections reachable here there condition false
  refine ⟨reachable, ?_, ?_, ?_⟩
  · obtain ⟨joins, within, -, -⟩ := forms ⟨"a", "a"⟩
    have told : Comparison.Within ⟨"a", "a"⟩ (joinForms.store.relation ⟨0⟩) := by
      simp only [Comparison.Within, Relation.lacks_iff]
      decide +kernel
    have output : (Operator.output (.join ⟨"a", "a"⟩) [joinForms.store.relation ⟨0⟩,
        joinForms.store.relation ⟨1⟩]).toOption.map Relation.tupleCount = some 3 := by
      decide +kernel
    have join := joins ⟨2⟩ ⟨by decide +kernel, by decide +kernel⟩
    have select := (within told).2 ⟨3⟩ ⟨by decide +kernel, by decide +kernel⟩
    obtain ⟨relation, given, count⟩ := Option.map_eq_some_iff.mp output
    rw [eq_ok_of_toOption given] at join select
    exact ⟨relation, join, select, count⟩
  · obtain ⟨joins, -, across, -⟩ := forms ⟨"b", "a"⟩
    have told : Comparison.Crosses ⟨"b", "a"⟩ (joinForms.store.relation ⟨0⟩)
        (joinForms.store.relation ⟨1⟩) := by
      simp only [Comparison.Crosses, Relation.lacks_iff]
      decide +kernel
    have writable : (Relation.product [joinForms.store.relation ⟨0⟩,
        joinForms.store.relation ⟨1⟩]).isWritable = true := by decide +kernel
    have output : (Operator.output (.join ⟨"b", "a"⟩) [joinForms.store.relation ⟨0⟩,
        joinForms.store.relation ⟨1⟩]).toOption.map Relation.tupleCount = some 10 := by
      decide +kernel
    have join := joins ⟨4⟩ ⟨by decide +kernel, by decide +kernel⟩
    have select := ((across told).2 ⟨6⟩ ⟨5⟩ ⟨by decide +kernel, by decide +kernel⟩
      ⟨by decide +kernel, by decide +kernel⟩).1 writable
    obtain ⟨relation, given, count⟩ := Option.map_eq_some_iff.mp output
    rw [eq_ok_of_toOption given] at join select
    exact ⟨relation, join, select, count⟩
  · obtain ⟨joins, -, -, missing⟩ := forms ⟨"b", "b"⟩
    have apart : ¬ Comparison.Within ⟨"b", "b"⟩ (joinForms.store.relation ⟨0⟩) := by
      simp only [Comparison.Within, Relation.lacks_iff]
      decide +kernel
    have aside : ¬ Comparison.Crosses ⟨"b", "b"⟩ (joinForms.store.relation ⟨0⟩)
        (joinForms.store.relation ⟨1⟩) := by
      simp only [Comparison.Crosses, Relation.lacks_iff]
      decide +kernel
    have join := joins ⟨7⟩ ⟨by decide +kernel, by decide +kernel⟩
    rw [(missing apart aside).1 (by decide +kernel) (by decide +kernel)] at join
    exact join

/-- The join of two long relations yields an output, and the selection from their product by the
same condition, whose names are one of each relation, yields none. -/
theorem longJoin_yields_alone :
    let condition : Comparison := ⟨"a", "b"⟩
    let left : Node := .node ⟨⟨0⟩, .scan "L" ⟨0⟩⟩ []
    let right : Node := .node ⟨⟨1⟩, .scan "T" ⟨1⟩⟩ []
    let product : Node := .node ⟨⟨3⟩, .product⟩ [left, right]
    longJoin.Reachable ∧
      Store.Estimable longJoin.store left (longJoin.store.relation ⟨0⟩) ∧
      Store.Estimable longJoin.store right (longJoin.store.relation ⟨1⟩) ∧
      condition.Crosses (longJoin.store.relation ⟨0⟩) (longJoin.store.relation ⟨1⟩) ∧
      longJoin.store.Pending (.node ⟨⟨2⟩, .join condition⟩ [left, right]) ∧
      longJoin.store.Pending product ∧
      longJoin.store.Pending (.node ⟨⟨4⟩, condition.selection⟩ [product]) ∧
      (∃ output, longJoin.Yields ⟨2⟩ false (.ok output)) ∧
      ¬ ∃ output, longJoin.Yields ⟨4⟩ false (.ok output) := by
  intro condition left right product
  have crosses : condition.Crosses (longJoin.store.relation ⟨0⟩) (longJoin.store.relation ⟨1⟩) := by
    simp only [Comparison.Crosses, Relation.lacks_iff]
    decide +kernel
  have result : (longJoin.perform (.estimate ⟨2⟩ false)).2.result.toOption =
      some (.relation ⟨4⟩) := by decide +kernel
  have said : (longJoin.perform (.estimate ⟨2⟩ false)).1.store.output? ⟨2⟩ = some ⟨4⟩ := by
    decide +kernel
  have refused : (longJoin.perform (.estimate ⟨4⟩ false)).2.result =
      .error (.estimate .unwritable) :=
    eq_error_of_decide (by decide +kernel)
  refine ⟨reachable_run _, Store.estimable_scan (by decide +kernel) (by decide +kernel),
    Store.estimable_scan (by decide +kernel) (by decide +kernel), crosses,
    ⟨by decide +kernel, by decide +kernel⟩, ⟨by decide +kernel, by decide +kernel⟩,
    ⟨by decide +kernel, by decide +kernel⟩, ⟨_, .output (eq_ok_of_toOption result) said rfl⟩, ?_⟩
  rintro ⟨output, yields⟩
  cases yields with
  | output result =>
      rw [refused] at result
      cases result

end Session

end Selectivity

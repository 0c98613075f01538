import Selectivity.Proofs.Estimation.Bounds
import Selectivity.Proofs.Session.Compilation
import Selectivity.Proofs.Session.Isolation

/-!
# The joins of a line

The joins of one line share a scan. In a reachable session, however they get their outputs, at most
one of them brings in the scanned relation. If the first one has to, then selections from the
product would put out the same, as long as the counts of the product can be written. So the nodes of
a query have no more tuples than there are combinations of tuples of its relations.
-/

namespace Selectivity.Session

variable {session : Session}

/-- Estimations of several nodes, one after the other. -/
def estimates (requests : List (NodeRef × Bool)) : List Operation :=
  requests.map fun request => .estimate request.1 request.2

theorem perform_estimate_sound {start : Store} (wellFormed : start.WellFormed)
    (sound : Store.Sound start session.store) (ref : NodeRef) (verbose : Bool) :
    Store.Sound start (session.perform (.estimate ref verbose)).1.store := by
  rw [perform]
  cases found : session.store.node? ref with
  | none => exact sound
  | some node =>
      have here := node?_ref sound.wellFormed found
      rw [ifKnown, estimate]
      split
      · exact sound
      · next pending =>
          have unknown := Option.not_isSome_iff_eq_none.mp pending
          have stored := sound.nodes node.ref node here
          exact (sound.estimateNode wellFormed node stored unknown).sound

theorem run_estimates_sound {start : Store} (wellFormed : start.WellFormed)
    (sound : Store.Sound start session.store) (requests : List (NodeRef × Bool)) :
    Store.Sound start (session.run (estimates requests)).store := by
  induction requests generalizing session with
  | nil => exact sound
  | cons request rest induction =>
      exact induction (perform_estimate_sound wellFormed sound request.1 request.2)

theorem run_node? (wellFormed : session.store.WellFormed) {ref : NodeRef} {node : Node}
    (stored : session.store.node? ref = some node) (operations : List Operation) :
    (session.run operations).store.node? ref = some node := by
  induction operations generalizing session with
  | nil => exact stored
  | cons operation rest induction =>
      apply induction (perform_wellFormed wellFormed operation)
      exact (perform_effect wellFormed operation).node? stored

/-- Selections by these conditions from a product of nodes that mean the two relations are estimated
to the result, if the counts of the product can be written. Otherwise the estimation fails. -/
def SelectionsYield (conditions : List Comparison) (left right result : Relation) : Prop :=
  ∀ (session : Session) (first second root : Node) (ref : NodeRef)
    (selections : List (NodeRef × Comparison)) (verbose : Bool),
    session.Reachable →
    Store.Stacked session.store Comparison.selection [] (.node ⟨ref, .product⟩ [first, second]) root
      selections →
    selections.map Prod.snd = conditions →
    session.store.node? root.ref = some root → session.store.output? ref = none →
    Store.Estimable session.store first left → Store.Estimable session.store second right →
    let after := (session.perform (.estimate root.ref verbose)).1
    let report := (session.perform (.estimate root.ref verbose)).2
    ((Relation.product [left, right]).isWritable = true → ∃ output,
      report.result = .ok (.relation output) ∧ after.store.relation output = result) ∧
    ((Relation.product [left, right]).isWritable = false →
      report.result = .error (.estimate .unwritable))

/-- If the first join crosses, selections from the product yield what the joins do. -/
theorem selectionsYield_of_joins {left right result : Relation} {steps : List Step}
    (joins : Steps .join [right] left steps result)
    {first : Step} {rest : List Step} (split : steps = first :: rest)
    (crosses : first.condition.Crosses left right)
    (tellable : ∀ step ∈ steps,
      Tellable (.join step.condition : Operator RelationRef) step.output) :
    SelectionsYield (steps.map Step.condition) left right result := by
  subst split
  have listed : ∀ step, (first :: rest).head? = some step → step.condition.Crosses left right := by
    intro step here
    cases here
    exact crosses
  obtain ⟨⟨selects, run, conditions, outputs⟩, -⟩ :=
    (joins.selections listed).resolve_left (List.cons_ne_nil first rest)
  -- the selections put out what the joins do, which could be told
  have told : ∀ step ∈ selects,
      Tellable (Comparison.selection step.condition : Operator RelationRef) step.output := by
    intro step member
    have shown : step.output ∈ (first :: rest).map Step.output := by
      rw [← outputs]
      exact List.mem_map_of_mem member
    obtain ⟨join, made, same⟩ := List.mem_map.mp shown
    rw [← same]
    exact ⟨fun _ => (tellable join made).names rfl, (tellable join made).counts⟩
  intro session one other root ref selections verbose reachable stack matching stored unknown here
    there after report
  have nonempty : selections ≠ [] := by
    rintro rfl
    cases matching
  have wellFormed := reachable.store_wellFormed
  have pending := stack.root_unknown nonempty
  obtain ⟨succeeds, fails⟩ := stack.estimateNode_product wellFormed nonempty unknown stored run
    (conditions.trans matching.symm) told here there
  constructor
  · intro writable
    obtain ⟨quiet, output, said, same⟩ := succeeds writable
    refine ⟨output, perform_estimate_ok stored pending quiet said, ?_⟩
    rw [← same]
    exact congrArg (fun store : Store => store.relation output)
      (perform_estimate_store stored pending)
  · exact fun tooLong => perform_estimate_error stored pending (fails tooLong)

theorem exists_canonical (wellFormed : session.store.WellFormed) {compiler : Compiler}
    {input : Query.Input} {outcome : Outcome}
    (accepted : (session.perform (.compile compiler input)).2.result = .ok outcome) :
    let after := (session.perform (.compile compiler input)).1.store
    ∃ catalog root plan, session.store.catalog? compiler.catalog = some catalog ∧
      outcome = .node root.ref ∧ Query.Made session.store after root ∧
      Query.Canonical root plan ∧ Query.Says catalog.lookup? input.characters plan ∧
      (plan.scans.map Query.BaseScan.name).Nodup ∧
      ∀ scan ∈ plan.scans, catalog.lookup? scan.name = some scan.base := by
  obtain ⟨catalog, plan, known, told, store, rfl⟩ := compile_accepted accepted
  obtain ⟨script, -, resolves⟩ := Query.resolves_of_compile told
  obtain ⟨spoken, distinct⟩ := Query.says_of_compile told
  have bases := holds_of_compile wellFormed known told
  obtain ⟨made, canonical⟩ := Query.assemble_made plan wellFormed bases
  intro after
  refine ⟨catalog, _, plan, known, rfl, ?_, canonical, spoken, distinct, ?_⟩
  · have same : after = (plan.assemble Store.addNode session.store).1 := store
    rw [same]
    exact made
  · exact fun scan member => resolves.lookup_eq member

/-- Of joins that share the scan of one relation at most one brings it in. The others select from
their left input, and if all do, the relation does not matter. If the first one has to bring it in,
selections from the product yield the same. So no node of a query has more tuples than there are
combinations of tuples of its relations, unless one of these is empty. -/
theorem join_line_counts_once (reachable : session.Reachable) :
    (∀ left scan right root joins,
      Store.Stacked session.store .join [Query.BaseScan.at scan right] left root joins →
      joins ≠ [] → session.store.node? root.ref = some root →
      session.store.output? right = none → ∀ requests output,
      let after := (session.run (estimates requests)).store
      after.output? root.ref = some output →
      let base := session.store.relation scan.base
      let result := after.relation output
      ∃ start steps, after.outputRelation? left.ref = some start ∧
        Store.Shows after joins steps ∧ Steps .join [base] start steps result ∧
        CountsOnce base steps ∧
        ((∀ step ∈ steps, step.Degenerate) → ∀ other, Steps .join [other] start steps result) ∧
        ∀ first rest, steps = first :: rest → first.condition.Crosses start base →
          SelectionsYield (joins.map Prod.snd) start base result) ∧
    ∀ compiler input outcome,
      (session.perform (.compile compiler input)).2.result = .ok outcome →
      let compiled := (session.perform (.compile compiler input)).1
      ∃ catalog root plan, session.store.catalog? compiler.catalog = some catalog ∧
        outcome = .node root.ref ∧ compiled.store.node? root.ref = some root ∧
        (∀ placed ∈ root.preorder, compiled.store.output? placed.ref = none) ∧
        Query.Canonical root plan ∧ (plan.scans.map Query.BaseScan.name).Nodup ∧
        (∀ scan ∈ plan.scans, catalog.lookup? scan.name = some scan.base) ∧
        (∀ name, name ∈ (compiled.store.plan root).relations ↔
          name ∈ plan.scans.map Query.BaseScan.name) ∧
        ∀ operations, let before := compiled.run operations
          (∀ placed ∈ root.preorder, before.store.output? placed.ref = none) →
          (∀ scan ∈ plan.scans, 0 < (before.store.relation scan.base).tupleCount) →
          ∀ requests, let after := (before.run (estimates requests)).store
            after.Knows root → ∀ placed ∈ root.preorder, ∃ output,
              after.outputRelation? placed.ref = some output ∧
                output.tupleCount ≤ Query.weight before.store plan.scans := by
  have wellFormed := reachable.store_wellFormed
  constructor
  · intro left scan right root joins stack nonempty stored unknown requests output after said base
      result
    have sound := run_estimates_sound wellFormed (.refl wellFormed) requests
    obtain ⟨start, steps, last, bottom, top, run, shows, tellable⟩ :=
      Query.joins_are_steps wellFormed sound stack nonempty stored unknown ⟨output, said⟩
    have same : last = result := by
      have here : after.outputRelation? root.ref = some result :=
        congrArg (Option.map after.relation) said
      exact Option.some.inj (top.symm.trans here)
    subst same
    refine ⟨start, steps, bottom, shows, run, run.countsOnce, run.indifferent, ?_⟩
    intro first rest split crosses
    rw [← shows.conditions]
    exact selectionsYield_of_joins run split crosses tellable
  · intro compiler input outcome accepted compiled
    obtain ⟨catalog, root, plan, known, same, made, canonical, spoken, distinct, bases⟩ :=
      exists_canonical wellFormed accepted
    refine ⟨catalog, root, plan, known, same, made.new.stored,
      fun placed member => made.output?_eq_none member, canonical, distinct, bases,
      fun name => canonical.mem_relations spoken.conditions_ne_nil, ?_⟩
    intro operations before unknown some requests after reached
    have here : before.store.WellFormed := run_wellFormed made.grown.wellFormed operations
    apply canonical.bounded here _ some
    · exact ⟨run_node? made.grown.wellFormed made.new.stored operations, unknown, reached⟩
    · exact run_estimates_sound here (.refl here) requests

/-- Two joins with one scan, and a catalogue of both relations. -/
def twoConditions : Session :=
  initial.run [.makeAttribute "a" 2, .makeRelation 6 [⟨0⟩], .makeAttribute "b" 3,
    .makeAttribute "c" 4, .makeRelation 5 [⟨1⟩, ⟨2⟩], .scan "L" ⟨0⟩, .scan "T" ⟨1⟩,
    .join ⟨0⟩ ⟨1⟩ (some (.equalsAttribute ⟨"a", "b"⟩)),
    .join ⟨2⟩ ⟨1⟩ (some (.equalsAttribute ⟨"a", "c"⟩)),
    .makeCatalog [("L", ⟨0⟩), ("T", ⟨1⟩)]]

def twoConditionsQuery : Query.Input :=
  .text "SELECT *\nFROM L\nJOIN T ON a=b,a=c"

theorem twoConditions_count_once :
    twoConditions.Reachable ∧
      let base := twoConditions.store.relation ⟨1⟩
      (∃ start steps result, Steps .join [base] start steps result ∧
        steps.map Step.condition = [⟨"a", "b"⟩, ⟨"a", "c"⟩] ∧ CountsOnce base steps ∧
        SelectionsYield [⟨"a", "b"⟩, ⟨"a", "c"⟩] start base result) ∧
      let compiled := (twoConditions.perform (.compile ⟨⟨0⟩, none, false⟩ twoConditionsQuery)).1
      ∃ root plan, Query.Canonical root plan ∧ ∀ placed ∈ root.preorder, ∃ output,
        (compiled.run (estimates [(⟨7⟩, false)])).store.outputRelation? placed.ref = some output ∧
          output.tupleCount ≤ Query.weight compiled.store plan.scans := by
  have reachable : twoConditions.Reachable := reachable_run _
  obtain ⟨joins, queries⟩ := join_line_counts_once reachable
  refine ⟨reachable, ?_, ?_⟩
  · let left : Node := .node ⟨⟨0⟩, .scan "L" ⟨0⟩⟩ []
    have stack : Store.Stacked twoConditions.store .join [Query.BaseScan.at ⟨"T", ⟨1⟩⟩ ⟨1⟩] left _
        [(⟨2⟩, ⟨"a", "b"⟩), (⟨3⟩, ⟨"a", "c"⟩)] :=
      .next ⟨3⟩ ⟨"a", "c"⟩ (.next ⟨2⟩ ⟨"a", "b"⟩ .start rfl) rfl
    have said : (twoConditions.run (estimates [(⟨3⟩, false)])).store.output? ⟨3⟩ = some ⟨5⟩ := by
      decide +kernel
    have first : (twoConditions.run (estimates [(⟨3⟩, false)])).store.outputRelation? ⟨0⟩ =
        some (twoConditions.store.relation ⟨0⟩) := by decide +kernel
    obtain ⟨start, steps, bottom, shows, run, once, -, yields⟩ :=
      joins _ _ _ _ _ stack (List.cons_ne_nil _ _) rfl rfl _ _ said
    cases first.symm.trans bottom
    refine ⟨_, steps, _, run, shows.conditions, once, ?_⟩
    have crosses : Comparison.Crosses ⟨"a", "b"⟩ (twoConditions.store.relation ⟨0⟩)
        (twoConditions.store.relation ⟨1⟩) := by
      simp only [Comparison.Crosses, Relation.lacks_iff]
      decide +kernel
    have conditions := shows.conditions
    match steps, conditions with
    | head :: rest, same =>
        apply yields head rest rfl
        rw [(List.cons.inj same).1]
        exact crosses
  · intro compiled
    obtain ⟨outcome, accepted⟩ : ∃ outcome, (twoConditions.perform (.compile ⟨⟨0⟩, none, false⟩
        twoConditionsQuery)).2.result = .ok outcome := exists_of_isOk (by decide +kernel)
    have place : (twoConditions.perform (.compile ⟨⟨0⟩, none, false⟩
        twoConditionsQuery)).2.result.toOption = some (.node ⟨7⟩) := by decide +kernel
    have reached : ((compiled.run (estimates [(⟨7⟩, false)])).store.output? ⟨7⟩).isSome = true := by
      decide +kernel
    have filled : (twoConditions.store.catalog? ⟨0⟩).all (fun catalog => catalog.entries.all
        fun entry => 0 < (compiled.store.relation entry.2).tupleCount) = true := by decide +kernel
    obtain ⟨catalog, root, plan, known, same, -, unknown, canonical, -, bases, -, bounded⟩ :=
      queries _ _ _ accepted
    rw [accepted, same] at place
    have ref : root.ref = ⟨7⟩ := Outcome.node.inj (Option.some.inj place)
    refine ⟨root, plan, canonical, bounded [] unknown ?_ [(⟨7⟩, false)] ?_⟩
    · intro scan member
      have listed := Entries.get?_eq_some_mem (bases scan member)
      rw [known, Option.all_some, List.all_eq_true] at filled
      exact of_decide_eq_true (filled _ listed)
    · rw [Store.Knows, ref]
      exact Option.isSome_iff_exists.mp reached

/-- The join of two relations, and the selection from their product by the condition of the join.
The product has more tuples than can be written. -/
def longJoin : Session :=
  initial.run [.makeAttribute "a" (Nat.pow 10 2200), .makeRelation (Nat.pow 10 2200) [⟨0⟩],
    .makeAttribute "b" (Nat.pow 10 2200), .makeRelation (Nat.pow 10 2200) [⟨1⟩],
    .scan "L" ⟨0⟩, .scan "T" ⟨1⟩, .join ⟨0⟩ ⟨1⟩ (some (.equalsAttribute ⟨"a", "b"⟩)),
    .product [⟨0⟩, ⟨1⟩], .select ⟨3⟩ (some (.equalsAttribute ⟨"a", "b"⟩))]

/-- The join can be estimated, and the selection cannot. -/
theorem longJoin_is_no_selection :
    longJoin.Reachable ∧
      Comparison.Crosses ⟨"a", "b"⟩ (longJoin.store.relation ⟨0⟩) (longJoin.store.relation ⟨1⟩) ∧
      let joined := (longJoin.perform (.estimate ⟨2⟩ false)).1
      joined.store.outputRelation? ⟨0⟩ = some (longJoin.store.relation ⟨0⟩) ∧
        (∃ output, joined.store.output? ⟨2⟩ = some output) ∧
        ¬ ∃ outcome, (joined.perform (.estimate ⟨4⟩ false)).2.result = .ok outcome := by
  refine ⟨reachable_run _, ?_, ?_, ?_, ?_⟩
  · simp only [Comparison.Crosses, Relation.lacks_iff]
    decide +kernel
  · decide +kernel
  · exact Option.isSome_iff_exists.mp (by decide +kernel)
  · rintro ⟨outcome, succeeded⟩
    have refused : ((longJoin.perform (.estimate ⟨2⟩ false)).1.perform
        (.estimate ⟨4⟩ false)).2.result.isOk = false := by decide +kernel
    rw [succeeded] at refused
    cases refused

end Selectivity.Session

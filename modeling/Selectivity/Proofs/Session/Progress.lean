import Mathlib.Data.List.Forall2
import Selectivity.Proofs.Estimation.Agreement
import Selectivity.Proofs.Estimation.Repetition
import Selectivity.Proofs.Query.Reading

/-!
# The progress of an estimation

An estimation says the outputs of the nodes without output in their order, each node once, and its
log tells them. If it fails, the nodes in front of the one that failed keep what was said, and a
further estimation fails there at once.
-/

namespace Selectivity

namespace Store

/-- Some estimates lead from one store to another: each is of a node that had no output, and it is
what this node puts out now. All other nodes put out what they did. -/
structure Fills (before after : Store) (computed : List Computed) : Prop where
  once : (computed.map fun made => made.placed.ref).Nodup
  stored : ∀ made ∈ computed, ∃ inputs,
    before.node? made.placed.ref = some (.node made.placed inputs)
  unknown : ∀ made ∈ computed, before.output? made.placed.ref = none
  shown : ∀ made ∈ computed, after.outputRelation? made.placed.ref = some made.output
  untouched : ∀ ref, (∀ made ∈ computed, made.placed.ref ≠ ref) →
    after.output? ref = before.output? ref ∧
      after.outputRelation? ref = before.outputRelation? ref

/-- A node fails in a store: its inputs put something out, and its operator does not. -/
structure Fails (store : Store) (node : Node) (fault : EstimateFault) : Prop where
  unknown : store.output? node.ref = none
  ready : ∀ input : Node, input ∈ node.children → store.Knows input
  failed : store.estimateOperator node.operator node.children = .error fault

variable {start : Store}

theorem StoppedAt.fails {node part : Node} {earlier later : List Node} {fault : EstimateFault}
    (stop : StoppedAt start node part earlier later fault) (wellFormed : start.WellFormed)
    (stored : start.node? node.ref = some node) (unknown : start.output? node.ref = none) :
    Fails (start.estimateNode node).store part fault := by
  have runs := (Sound.refl wellFormed).estimateNode wellFormed node stored unknown
  have kept := (wellFormed.of_mem_parts node stored part stop.part_mem).1
  refine ⟨stop.unknown, stop.ready, ?_⟩
  rw [← stop.failed]
  cases part with
  | node placed inputs => exact runs.sound.estimateOperator_eq wellFormed kept stop.ready

theorem fills_estimateNode (wellFormed : start.WellFormed) {node : Node}
    (stored : start.node? node.ref = some node) (unknown : start.output? node.ref = none) :
    Fills start (start.estimateNode node).store (start.estimateNode node).computed := by
  have runs := (Sound.refl wellFormed).estimateNode wellFormed node stored unknown
  have follows := (Sound.refl wellFormed).follows_estimateNode wellFormed node stored unknown
  refine ⟨?_, ?_, ?_, ?_, ?_⟩
  · change (start.estimateNode node).order.Nodup
    cases follows.ends with
    | complete quiet order =>
        rw [order]
        exact Entries.nodup_eraseDups _
    | stopped earlier later part fault split order ready failed told =>
        rw [order]
        exact Entries.nodup_eraseDups _
  · exact fun made member => (follows.records.shown made member).1
  · intro made member
    apply follows.records.unknown
    exact List.mem_map_of_mem member
  · exact fun made member => (follows.records.shown made member).2
  · intro ref apart
    have same := follows.records.untouched ref fun member => by
      obtain ⟨made, listed, here⟩ := List.mem_map.mp member
      exact apart made listed here
    refine ⟨same, ?_⟩
    cases said : start.outputRelation? ref with
    | some output => exact outputRelation?_of_extends runs.extension wellFormed said
    | none => rw [outputRelation?, same, Option.map_eq_none_iff.mp said, Option.map_none]

end Store

namespace Session

variable {session : Session} {ref : NodeRef} {node : Node} {verbose : Bool}

theorem perform_estimate_log (stored : session.store.node? ref = some node)
    (unknown : session.store.output? node.ref = none) :
    (session.perform (.estimate ref verbose)).2.log =
      if verbose then (session.store.estimateNode node).computed.map Computed.logEntry else [] := by
  simp only [perform, ifKnown, stored, estimate, unknown, Option.isSome_none,
    Bool.false_eq_true, if_false]

/-- An entry of the log tells of a node what it is and which relation it has been given. -/
def Entered (before after : Store) (made : Computed) (entry : LogEntry) : Prop :=
  ∃ node output text, before.node? made.placed.ref = some node ∧
    after.outputRelation? made.placed.ref = some output ∧ output.render? = some text ∧
    entry = .estimated node.caption output ∧
    entry.render = "Estimated " ++ node.caption ++ " :: " ++ text

theorem entered_of_fills {before after : Store} {computed : List Computed}
    (fills : Store.Fills before after computed) (sound : Store.Sound before after) :
    List.Forall₂ (Entered before after) computed (computed.map Computed.logEntry) := by
  rw [List.forall₂_map_right_iff, List.forall₂_same]
  intro made listed
  obtain ⟨inputs, stored⟩ := fills.stored made listed
  have shown := fills.shown made listed
  obtain ⟨output, said, same⟩ := Option.map_eq_some_iff.mp shown
  have part : before.node? (Node.ref (.node made.placed inputs)) =
      some (.node made.placed inputs) := stored
  have writable := sound.isWritable part (fills.unknown made listed) said
  rw [same] at writable
  refine ⟨_, made.output, made.output.render, stored, shown, if_pos writable, rfl, rfl⟩

theorem perform_estimate_silent {fault : EstimateFault}
    (stored : session.store.node? ref = some node)
    (unknown : session.store.output? node.ref = none)
    (stopped : session.store.estimateNode node = ⟨session.store, [], some fault⟩) :
    session.perform (.estimate ref verbose) =
      (session, ⟨.error (.estimate fault), [], []⟩) := by
  simp only [perform, ifKnown, stored, estimate, unknown, Option.isSome_none,
    Bool.false_eq_true, if_false, stopped, List.map_nil, ite_self]

/-- An output that an estimation has said is the result of the estimation of its node alone. -/
theorem perform_estimate_alone {made : Computed} (wellFormed : session.store.WellFormed)
    (stored : session.store.node? node.ref = some node)
    (unknown : session.store.output? node.ref = none)
    (listed : made ∈ (session.store.estimateNode node).computed) :
    ∃ output, (session.perform (.estimate made.placed.ref verbose)).2.result =
        .ok (.relation output) ∧
      (session.perform (.estimate made.placed.ref verbose)).1.store.relation output =
        made.output := by
  have runs := (Store.Sound.refl wellFormed).estimateNode wellFormed node stored unknown
  have fills := Store.fills_estimateNode wellFormed stored unknown
  obtain ⟨inputs, there⟩ := fills.stored made listed
  have part : session.store.node? (Node.ref (.node made.placed inputs)) =
      some (.node made.placed inputs) := there
  have pending := fills.unknown made listed
  obtain ⟨output, said, shown⟩ := Option.map_eq_some_iff.mp (fills.shown made listed)
  obtain ⟨quiet, first, second, alone, found, same⟩ :=
    runs.sound.alone wellFormed part pending ⟨output, said⟩
  have here : (session.store.estimateNode node).store.output? made.placed.ref = some second := found
  rw [said] at here
  cases here
  refine ⟨first, perform_estimate_ok there pending quiet alone, ?_⟩
  rw [perform_estimate_store there pending, same, shown]

/-- An estimation goes through the nodes without output in their order, says what each of them would
put out if it was estimated alone, and tells this in its log. If it fails, it has said the outputs
in front of the failing node. No node above that one has got an output, and a further estimation
only fails again. -/
theorem estimate_in_order (reachable : session.Reachable)
    (stored : session.store.node? ref = some node) (unknown : session.store.output? ref = none)
    (verbose : Bool) :
    let before := session.store
    let after := (session.perform (.estimate ref verbose)).1
    let report := (session.perform (.estimate ref verbose)).2
    ∃ computed : List Computed,
      Store.Fills before after.store computed ∧
      (verbose = false → report.log = []) ∧
      (verbose = true → List.Forall₂ (Entered before after.store) computed report.log) ∧
      (∀ made ∈ computed, ∃ output,
        (session.perform (.estimate made.placed.ref verbose)).2.result = .ok (.relation output) ∧
          (session.perform (.estimate made.placed.ref verbose)).1.store.relation output =
            made.output) ∧
      ((∃ output, report.result = .ok (.relation output) ∧ after.store.output? ref = some output ∧
          before.order node = computed.map fun made => made.placed.ref) ∨
        ∃ fault failing others, report.result = .error (.estimate fault) ∧
          failing ∈ before.parts node ∧
          before.order node = (computed.map fun made => made.placed.ref) ++ failing.ref :: others ∧
          Store.Fails after.store failing fault ∧
          (∀ part ∈ before.parts node, failing ∈ before.parts part →
            after.store.output? part.ref = none) ∧
          ∀ verbose, after.perform (.estimate ref verbose) =
            (after, ⟨.error (.estimate fault), [], []⟩)) := by
  intro before after report
  have wellFormed := reachable.store_wellFormed
  have place := (wellFormed.nodes ref node stored).here
  subst place
  have store : after.store = (session.store.estimateNode node).store :=
    perform_estimate_store stored unknown
  have fills := Store.fills_estimateNode wellFormed stored unknown
  have log : report.log = _ := perform_estimate_log stored unknown
  rw [← store] at fills
  refine ⟨(session.store.estimateNode node).computed, fills, ?_, ?_, ?_, ?_⟩
  · rintro rfl
    exact log
  · rintro rfl
    have sound := (Store.Sound.refl wellFormed).estimateNode wellFormed node stored unknown |>.sound
    rw [← store] at sound
    rw [log]
    exact entered_of_fills fills sound
  · exact fun made listed => perform_estimate_alone wellFormed stored unknown listed
  have runs := (Store.Sound.refl wellFormed).estimateNode wellFormed node stored unknown
  have follows := (Store.Sound.refl wellFormed).follows_estimateNode wellFormed node stored unknown
  cases ended : (session.store.estimateNode node).fault with
  | none =>
      left
      obtain ⟨output, said⟩ := runs.known ended node (Store.mem_parts_self unknown)
      refine ⟨output, perform_estimate_ok stored unknown ended said, ?_, ?_⟩
      · rw [store, said]
      · rw [← Store.pending_parts]
        exact (follows.ends.order_of_quiet ended).symm
  | some fault =>
      right
      obtain ⟨failing, earlier, later, stop⟩ :=
        Store.estimateNode_stopped wellFormed stored unknown ended
      obtain ⟨others, order⟩ := stop.order_split wellFormed stored unknown
      refine ⟨fault, failing, others, perform_estimate_error stored unknown ended, stop.part_mem,
        order, ?_, ?_, ?_⟩
      · rw [store]
        exact stop.fails wellFormed stored unknown
      · intro part within above
        rw [store]
        exact stop.unknown_above wellFormed stored unknown within above
      · intro verbose
        have there : after.store.node? node.ref = some node := by
          rw [store]
          exact runs.extension.nodes node.ref node stored
        have missing : after.store.output? node.ref = none := by
          rw [store]
          apply stop.unknown_above wellFormed stored unknown _ stop.part_mem
          exact Store.mem_parts_self unknown
        have stopped : after.store.estimateNode node = ⟨after.store, [], some fault⟩ := by
          rw [store]
          exact stop.again wellFormed stored unknown
        exact perform_estimate_silent there missing stopped

/-- A scan that a product uses twice, under a selection by an attribute that it lacks. -/
def sharedGap : Session :=
  initial.run [.makeAttribute "a" 2, .makeRelation 6 [⟨0⟩], .scan "R" ⟨0⟩,
    .product [⟨0⟩, ⟨0⟩], .select ⟨1⟩ (some (.equalsValue "b" "x")), .project ⟨2⟩ ["a"]]

def gapProjection : Node :=
  .node ⟨⟨3⟩, .project ["a"]⟩
    [.node ⟨⟨2⟩, .select (some (.equalsValue "b" "x"))⟩
      [.node ⟨⟨1⟩, .product⟩
        [.node ⟨⟨0⟩, .scan "R" ⟨0⟩⟩ [], .node ⟨⟨0⟩, .scan "R" ⟨0⟩⟩ []]]]

/-- The scan and the product are estimated, each once, and the selection fails twice. -/
theorem sharedGap_fails_again :
    sharedGap.Reachable ∧ sharedGap.store.node? ⟨3⟩ = some gapProjection ∧
      sharedGap.store.output? ⟨3⟩ = none ∧
      sharedGap.store.order gapProjection = [⟨0⟩, ⟨1⟩, ⟨2⟩, ⟨3⟩] ∧
      ∃ fault failing, failing.ref = ⟨2⟩ ∧
        Store.Fails (sharedGap.perform (.estimate ⟨3⟩ true)).1.store failing fault ∧
        ∀ verbose, (sharedGap.perform (.estimate ⟨3⟩ true)).1.perform (.estimate ⟨3⟩ verbose) =
          ((sharedGap.perform (.estimate ⟨3⟩ true)).1, ⟨.error (.estimate fault), [], []⟩) := by
  have reachable : sharedGap.Reachable := reachable_run _
  have stored : sharedGap.store.node? ⟨3⟩ = some gapProjection := rfl
  have unknown : sharedGap.store.output? ⟨3⟩ = none := rfl
  have whole : sharedGap.store.order gapProjection = [⟨0⟩, ⟨1⟩, ⟨2⟩, ⟨3⟩] := by decide +kernel
  have refused : (sharedGap.perform (.estimate ⟨3⟩ true)).2.result.isOk = false := by
    decide +kernel
  have lines : (sharedGap.perform (.estimate ⟨3⟩ true)).2.log.length = 2 := by decide +kernel
  obtain ⟨computed, -, -, told, -, ended⟩ := estimate_in_order reachable stored unknown true
  rw [← (told rfl).length_eq] at lines
  rcases ended with ⟨output, succeeded, -⟩ | ⟨fault, failing, others, -, -, order, fails, -, again⟩
  · rw [succeeded] at refused
    cases refused
  · match computed, lines with
    | [first, second], _ =>
        rw [whole] at order
        have behind := (List.cons.inj (List.cons.inj order).2).2
        exact ⟨reachable, stored, unknown, whole, fault, failing, (List.cons.inj behind).1.symm,
          fails, again⟩

end Session

end Selectivity

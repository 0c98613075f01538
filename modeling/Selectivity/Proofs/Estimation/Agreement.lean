import Selectivity.Proofs.Estimation.Course
import Selectivity.Proofs.Session.Reachable

/-!
# Estimation agrees with the meaning of plans

In every reachable session an estimation, which works in place and says each output once, gives
every part of a node the relation that the part means on its own, however nodes are shared and
whatever outputs were known before. It ends early only at the first part in order that means
nothing, or whose relation cannot be told.
-/

namespace Selectivity

namespace Store

variable {start : Store}

/-- The verdict on a part is passed on its operator, once its inputs mean something. -/
theorem verdict_eq_output {part : Node} {outputs : List Relation}
    (below : MeansAll start part.children outputs) :
    start.verdict part = (part.operator.mapBase start.relation).output outputs := by
  cases part with
  | node placed inputs =>
      have found := (estimateAll_eq_ok_iff inputs outputs).mpr below
      rw [verdict, found]
      rfl

theorem Sound.isWritable {start after : Store} (sound : Sound start after) {part : Node}
    {output : RelationRef} (stored : start.node? part.ref = some part)
    (unknown : start.output? part.ref = none) (said : after.output? part.ref = some output) :
    (after.relation output).isWritable = true := by
  have told := sound.told part output stored unknown said
  cases part with
  | node placed inputs =>
      rw [verdict] at told
      split at told
      · cases told
      · exact (tellable_of_output told).counts

/-- A part has got the output that it means, and the output can be told. -/
def Settled (start after : Store) (part : Node) : Prop :=
  ∃ ref, after.output? part.ref = some ref ∧ Means start part (after.relation ref) ∧
    Tellable part.operator (after.relation ref)

/-- The estimation ends at a part: its inputs mean something, and its operator does not come to an
output that can be told. Inputs whose outputs were not known before could be told. -/
def StopsAt (start : Store) (part : Node) (fault : EstimateFault) : Prop :=
  ∃ outputs, MeansAll start part.children outputs ∧
    Stops (part.operator.mapBase start.relation) outputs fault ∧
    ∀ input : Node, input ∈ part.children → start.output? input.ref = none →
      ∀ output, Means start input output → Tellable input.operator output

theorem StopsAt.not_tellable {part : Node} {fault : EstimateFault} {output : Relation}
    (stops : StopsAt start part fault) (unknown : start.output? part.ref = none)
    (means : Means start part output) : ¬ Tellable part.operator output := by
  intro tellable
  obtain ⟨outputs, below, stops, -⟩ := stops
  obtain ⟨others, alsoBelow, estimates⟩ := means.inputs unknown
  rw [alsoBelow.unique below] at estimates
  refine stops.not_tellable estimates ⟨fun condition => ?_, tellable.counts⟩
  exact tellable.names ((Operator.hasCondition_mapBase _ _).symm.trans condition)

/-- Why an estimation ends at a part: attributes are missing, or what the part means cannot be
told, or attributes are missing from an input whose output was known and cannot be written. -/
theorem StopsAt.cause {part : Node} {cause : EstimateFault} (stops : StopsAt start part cause)
    (unknown : start.output? part.ref = none) :
    (∃ missing, cause = .missingAttribute missing) ∨
      (∃ output, Means start part output ∧
        (cause = .compoundName ∧ part.operator.hasCondition = true ∧
            output.hasCompoundName = true ∨
          cause = .unwritable ∧ output.isWritable = false)) ∨
      cause = .unwritable ∧ ∃ input : Node, input ∈ part.children ∧ ∃ ref,
        start.output? input.ref = some ref ∧ (start.relation ref).isWritable = false := by
  cases part with
  | node placed inputs =>
      obtain ⟨outputs, below, stops, tellable⟩ := stops
      cases stops with
      | missing misses => exact Or.inl ⟨_, rfl⟩
      | untold misses member tooLong =>
          refine Or.inr (Or.inr ⟨rfl, ?_⟩)
          obtain ⟨input, listed, means⟩ := below.exists_of_mem member
          refine ⟨input, listed, ?_⟩
          cases said : start.output? input.ref with
          | none =>
              have writable := (tellable input listed said _ means).counts
              rw [writable] at tooLong
              cases tooLong
          | some ref =>
              refine ⟨ref, rfl, ?_⟩
              rw [Means.unique (.known said) means]
              exact tooLong
      | compoundName estimates condition compound =>
          refine Or.inr (Or.inl ⟨_, .rule unknown below estimates, Or.inl ⟨rfl, ?_, compound⟩⟩)
          exact (Operator.hasCondition_mapBase _ _).symm.trans condition
      | unwritable estimates names tooLong =>
          exact Or.inr (Or.inl ⟨_, .rule unknown below estimates, Or.inr ⟨rfl, tooLong⟩⟩)

/-- Attributes that are missing at a part are those that its condition names. -/
theorem StopsAt.sought {part : Node} {attributes schemas : List String}
    (stops : StopsAt start part (.missingAttribute ⟨attributes, schemas⟩)) :
    attributes = part.operator.sought := by
  obtain ⟨outputs, -, stops, -⟩ := stops
  rw [← Operator.sought_mapBase start.relation]
  cases stops with
  | missing misses => exact misses.attributes_eq

/-- If the estimation of a node ends at one of its parts, then the node means nothing or some part
means what cannot be told. -/
theorem StopsAt.not_all_tellable {node part : Node} {fault : EstimateFault}
    (stops : StopsAt start part fault) (member : part ∈ start.parts node)
    (means : ∃ output, Means start node output) :
    ¬ ∀ part ∈ start.parts node, ∀ output, Means start part output →
      Tellable part.operator output := by
  intro tellable
  obtain ⟨output, means⟩ := means
  obtain ⟨result, partMeans⟩ := means.of_mem_parts node output part member
  have unknown := unknown_of_mem_parts node part member
  exact stops.not_tellable unknown partMeans (tellable part member result partMeans)

/-- An operator with a rule in its place either comes to an output that can be told or stops. -/
theorem verdict_cases {part : Node} {outputs : List Relation} (wellFormed : start.WellFormed)
    (stored : start.node? part.ref = some part) (rule : part.operator.hasRule = true)
    (below : MeansAll start part.children outputs) :
    (∃ output, Tellable part.operator output ∧ start.verdict part = .ok output) ∨
      ∃ fault, Stops (part.operator.mapBase start.relation) outputs fault ∧
        start.verdict part = .error fault := by
  have fits := wellFormed.nodes part.ref part stored
  have enough : (part.operator.mapBase start.relation).accepts outputs.length = true := by
    rw [Operator.accepts_mapBase, ← below.length_eq]
    exact fits.arity
  rw [verdict_eq_output below]
  have ruled : (part.operator.mapBase start.relation).hasRule = true := by
    rw [Operator.hasRule_mapBase, rule]
  rcases Operator.output_cases ruled enough with
    ⟨output, -, tellable, told⟩ | ⟨fault, stops, told⟩
  · refine Or.inl ⟨output, ⟨fun condition => ?_, tellable.counts⟩, told⟩
    exact tellable.names ((Operator.hasCondition_mapBase _ _).trans condition)
  · exact Or.inr ⟨fault, stops, told⟩

namespace Sound

variable {current : Store} (wellFormed : start.WellFormed) (sound : Sound start current)

include wellFormed sound

theorem meansAll {inputs : List Node}
    (stored : ∀ input ∈ inputs, start.node? input.ref = some input)
    (known : ∀ input ∈ inputs, current.Knows input) :
    ∃ outputs, MeansAll start inputs outputs := by
  obtain ⟨outputs, meanings, -⟩ := sound.outputs_eq wellFormed stored known
  exact ⟨outputs, (estimateAll_eq_ok_iff inputs outputs).mp (estimateAll_of_meanings meanings)⟩

theorem settled {part : Node} (stored : start.node? part.ref = some part)
    (unknown : start.output? part.ref = none) (rule : part.operator.hasRule = true)
    (known : current.Knows part) : Settled start current part := by
  obtain ⟨ref, said⟩ := known
  have told := sound.told part ref stored unknown said
  have means := (meaning_eq_ok_iff part _).mp (meaning_of_verdict unknown told)
  refine ⟨ref, said, means, ?_⟩
  obtain ⟨outputs, below, -⟩ := means.inputs unknown
  rcases verdict_cases wellFormed stored rule below with
    ⟨output, tellable, other⟩ | ⟨fault, -, other⟩
  · rw [told] at other
    cases other
    exact tellable
  · rw [told] at other
    cases other

/-- Where nothing comes of a part whose inputs have their outputs, the estimation ends. -/
theorem stopsAt {part : Node} {fault : EstimateFault} (stored : start.node? part.ref = some part)
    (rule : part.operator.hasRule = true)
    (rules : ∀ input : Node, input ∈ part.children →
      start.output? input.ref = none → input.operator.hasRule = true)
    (ready : ∀ input : Node, input ∈ part.children → current.Knows input)
    (failed : start.verdict part = .error fault) : StopsAt start part fault := by
  have inputs := (wellFormed.nodes part.ref part stored).inputs
  obtain ⟨outputs, below⟩ := sound.meansAll wellFormed inputs ready
  rcases verdict_cases wellFormed stored rule below with
    ⟨output, -, other⟩ | ⟨otherFault, stops, other⟩
  · rw [failed] at other
    cases other
  · rw [failed] at other
    cases other
    refine ⟨outputs, below, stops, fun input member unknown output means => ?_⟩
    obtain ⟨ref, -, same, tellable⟩ := sound.settled wellFormed (inputs input member) unknown
      (rules input member unknown) (ready input member)
    rw [means.unique same]
    exact tellable

end Sound

theorem estimateNode_settles (wellFormed : start.WellFormed) {node : Node}
    (stored : start.node? node.ref = some node) (unknown : start.output? node.ref = none)
    (rules : ∀ part ∈ start.parts node, part.operator.hasRule = true) :
    ((start.estimateNode node).fault = none ∧
        ∀ part ∈ start.parts node, Settled start (start.estimateNode node).store part) ∨
      ∃ earlier part later fault, start.parts node = earlier ++ part :: later ∧
        (∀ before ∈ earlier, Settled start (start.estimateNode node).store before) ∧
        StopsAt start part fault ∧ (start.estimateNode node).fault = some fault := by
  have runs := (Sound.refl wellFormed).estimateNode wellFormed node stored unknown
  have settles : ∀ part ∈ start.parts node, (start.estimateNode node).store.Knows part →
      Settled start (start.estimateNode node).store part := by
    intro part member known
    exact runs.sound.settled wellFormed (wellFormed.of_mem_parts node stored part member).1
      (unknown_of_mem_parts node part member) (rules part member) known
  cases runs.course with
  | complete quiet known =>
      exact Or.inl ⟨quiet, fun part member => settles part member (known part member)⟩
  | stopped earlier later part fault order known ready failed told =>
      have within : part ∈ start.parts node := by
        rw [order]
        exact List.mem_append_right _ List.mem_cons_self
      refine Or.inr ⟨earlier, part, later, fault, order, fun before member => ?_, ?_, told⟩
      · refine settles before ?_ (known before member)
        rw [order]
        exact List.mem_append_left _ member
      · refine runs.sound.stopsAt wellFormed (wellFormed.of_mem_parts node stored part within).1
          (rules part within) (fun input below unknown => ?_) ready failed
        exact rules input (mem_parts_of_mem_children node within below unknown)

end Store

namespace Session

variable {session : Session} {ref : NodeRef} {node : Node} {verbose : Bool}

theorem perform_estimate_store (stored : session.store.node? ref = some node)
    (unknown : session.store.output? node.ref = none) :
    (session.perform (.estimate ref verbose)).1.store =
      (session.store.estimateNode node).store := by
  simp only [perform, ifKnown, stored, estimate, unknown, Option.isSome_none,
    Bool.false_eq_true, if_false]

theorem perform_estimate_error {fault : EstimateFault}
    (stored : session.store.node? ref = some node)
    (unknown : session.store.output? node.ref = none)
    (failed : (session.store.estimateNode node).fault = some fault) :
    (session.perform (.estimate ref verbose)).2.result = .error (.estimate fault) := by
  simp only [perform, ifKnown, stored, estimate, unknown, Option.isSome_none,
    Bool.false_eq_true, if_false, failed]

theorem perform_estimate_ok {output : RelationRef}
    (stored : session.store.node? ref = some node)
    (unknown : session.store.output? node.ref = none)
    (quiet : (session.store.estimateNode node).fault = none)
    (said : (session.store.estimateNode node).store.output? node.ref = some output) :
    (session.perform (.estimate ref verbose)).2.result = .ok (.relation output) := by
  simp only [perform, ifKnown, stored, estimate, unknown, Option.isSome_none,
    Bool.false_eq_true, if_false, quiet, said]

theorem result_of_quiet (wellFormed : session.store.WellFormed)
    (stored : session.store.node? node.ref = some node)
    (unknown : session.store.output? node.ref = none) (verbose : Bool)
    (quiet : (session.store.estimateNode node).fault = none) :
    ∃ outcome, (session.perform (.estimate node.ref verbose)).2.result = .ok outcome := by
  have runs := (Store.Sound.refl wellFormed).estimateNode wellFormed node stored unknown
  obtain ⟨output, said⟩ := runs.known quiet node (Store.mem_parts_self unknown)
  exact ⟨_, perform_estimate_ok stored unknown quiet said⟩

theorem quiet_of_result {verbose : Bool} {outcome : Outcome}
    (stored : session.store.node? node.ref = some node)
    (unknown : session.store.output? node.ref = none)
    (succeeded : (session.perform (.estimate node.ref verbose)).2.result = .ok outcome) :
    (session.store.estimateNode node).fault = none := by
  cases failed : (session.store.estimateNode node).fault with
  | none => rfl
  | some fault =>
      rw [perform_estimate_error stored unknown failed] at succeeded
      cases succeeded

/-- An estimation succeeds exactly if the node means something and everything that its parts mean
can be told. Then every part has got what it means. Otherwise the first part in order that stops
the estimation tells the fault, and all parts before it have got what they mean. -/
theorem estimate_agrees_with_meaning (reachable : session.Reachable)
    (stored : session.store.node? ref = some node)
    (unknown : session.store.output? ref = none)
    (rules : ∀ part ∈ session.store.parts node, part.operator.hasRule = true)
    (verbose : Bool) :
    let after := (session.perform (.estimate ref verbose)).1.store
    let result := (session.perform (.estimate ref verbose)).2.result
    ((∃ output, result = .ok output) ↔
        (∃ output, Store.Means session.store node output) ∧
          ∀ part ∈ session.store.parts node, ∀ output,
            Store.Means session.store part output → Tellable part.operator output) ∧
      (∀ outcome, result = .ok outcome →
        (∃ output, outcome = .relation output ∧ after.output? ref = some output) ∧
          ∀ part ∈ session.store.parts node, Store.Settled session.store after part) ∧
      ∀ fault, result = .error fault →
        ∃ earlier part later stop, session.store.parts node = earlier ++ part :: later ∧
          (∀ before ∈ earlier, Store.Settled session.store after before) ∧
          Store.StopsAt session.store part stop ∧ fault = .estimate stop := by
  have wellFormed := reachable.store_wellFormed
  have place := (wellFormed.nodes ref node stored).here
  have kept : session.store.node? node.ref = some node := node?_ref wellFormed stored
  have pending : session.store.output? node.ref = none := by rw [place, unknown]
  intro after result
  have store : after = (session.store.estimateNode node).store :=
    perform_estimate_store stored pending
  rcases Store.estimateNode_settles wellFormed kept pending rules with
    ⟨quiet, settled⟩ | ⟨earlier, part, later, fault, order, settled, stops, failed⟩
  · obtain ⟨output, said, means, -⟩ := settled node (Store.mem_parts_self pending)
    have succeeded : result = .ok (.relation output) :=
      perform_estimate_ok stored pending quiet said
    rw [store]
    refine ⟨⟨fun _ => ⟨⟨_, means⟩, fun part member other otherMeans => ?_⟩,
      fun _ => ⟨_, succeeded⟩⟩, fun outcome same => ⟨⟨output, ?_, ?_⟩, settled⟩, ?_⟩
    · obtain ⟨_, _, partMeans, tellable⟩ := settled part member
      rw [otherMeans.unique partMeans]
      exact tellable
    · rw [succeeded] at same
      exact (Except.ok.inj same).symm
    · rw [← place, said]
    · intro other same
      rw [succeeded] at same
      cases same
  · have refused : result = .error (.estimate fault) :=
      perform_estimate_error stored pending failed
    rw [store]
    refine ⟨⟨?_, ?_⟩, ?_, ?_⟩
    · rintro ⟨output, same⟩
      rw [refused] at same
      cases same
    · rintro ⟨means, tellable⟩
      have member : part ∈ session.store.parts node := by
        rw [order]
        exact List.mem_append_right _ List.mem_cons_self
      exact absurd tellable (stops.not_all_tellable member means)
    · intro outcome same
      rw [refused] at same
      cases same
    · intro other same
      rw [refused] at same
      cases same
      exact ⟨earlier, part, later, fault, order, settled, stops, rfl⟩

/-- A scan that a product uses twice, under a selection. -/
def sharedScan : Session :=
  initial.run [.makeAttribute "a" 2, .makeRelation 6 [⟨0⟩], .scan "R" ⟨0⟩,
    .product [⟨0⟩, ⟨0⟩], .select ⟨1⟩ (some (.equalsValue "a" "x"))]

def sharedSelection : Node :=
  .node ⟨⟨2⟩, .select (some (.equalsValue "a" "x"))⟩
    [.node ⟨⟨1⟩, .product⟩
      [.node ⟨⟨0⟩, .scan "R" ⟨0⟩⟩ [], .node ⟨⟨0⟩, .scan "R" ⟨0⟩⟩ []]]

/-- The selection over the shared scan and all nodes below it get what they mean. -/
theorem sharedSelection_settles :
    sharedScan.store.node? ⟨2⟩ = some sharedSelection ∧
      sharedScan.store.output? ⟨2⟩ = none ∧
      (∀ part ∈ sharedScan.store.parts sharedSelection, part.operator.hasRule = true) ∧
      (∃ outcome, (sharedScan.perform (.estimate ⟨2⟩ false)).2.result = .ok outcome) ∧
      ∀ part ∈ sharedScan.store.parts sharedSelection,
        Store.Settled sharedScan.store (sharedScan.perform (.estimate ⟨2⟩ false)).1.store
          part := by
  have stored : sharedScan.store.node? ⟨2⟩ = some sharedSelection := rfl
  have unknown : sharedScan.store.output? ⟨2⟩ = none := rfl
  have rules : ∀ part ∈ sharedScan.store.parts sharedSelection,
      part.operator.hasRule = true := by decide
  have succeeded : ∃ outcome,
      (sharedScan.perform (.estimate ⟨2⟩ false)).2.result = .ok outcome :=
    exists_of_isOk (by decide +kernel)
  have reachable : sharedScan.Reachable := reachable_run _
  have agrees := estimate_agrees_with_meaning reachable stored unknown rules false
  obtain ⟨outcome, same⟩ := succeeded
  exact ⟨stored, unknown, rules, ⟨outcome, same⟩, (agrees.2.1 outcome same).2⟩

/-- A product of more tuples than can be written, under a selection that leaves fewer. -/
def longProduct : Session :=
  initial.run [.makeAttribute "a" (Nat.pow 10 2200), .makeRelation (Nat.pow 10 2200) [⟨0⟩],
    .scan "R" ⟨0⟩, .product [⟨0⟩, ⟨0⟩], .select ⟨1⟩ (some (.equalsValue "a" "x"))]

/-- The selection over the product means something, and yet it cannot be estimated. -/
theorem longProduct_means_but_fails :
    longProduct.Reachable ∧ longProduct.store.output? ⟨2⟩ = none ∧
      ∃ node, longProduct.store.node? ⟨2⟩ = some node ∧
        (∀ placed ∈ node.preorder, placed.operator.hasRule = true) ∧
        (∃ output, Store.Means longProduct.store node output) ∧
        ¬ ∃ outcome, (longProduct.perform (.estimate ⟨2⟩ false)).2.result = .ok outcome := by
  have unknown : longProduct.store.output? ⟨2⟩ = none := by decide +kernel
  have shape : ((longProduct.store.node? ⟨2⟩).map fun node =>
      (node.preorder.all fun placed => placed.operator.hasRule) &&
        (longProduct.store.meaning node).isOk) = some true := by decide +kernel
  have refused : (longProduct.perform (.estimate ⟨2⟩ false)).2.result.isOk = false := by
    decide +kernel
  obtain ⟨node, stored, good⟩ := Option.map_eq_some_iff.mp shape
  rw [Bool.and_eq_true, List.all_eq_true] at good
  obtain ⟨output, means⟩ := exists_of_isOk good.2
  refine ⟨reachable_run _, unknown, node, stored, good.1,
    ⟨output, (Store.meaning_eq_ok_iff node output).mp means⟩, ?_⟩
  rintro ⟨outcome, same⟩
  rw [same] at refused
  cases refused

end Session

end Selectivity

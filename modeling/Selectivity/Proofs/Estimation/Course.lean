import Selectivity.Proofs.Estimation.Meaning

/-!
# The course of an estimation

While a node is estimated in the store, every output that has been said so far is the meaning that
its node had at the start, and all parts below it have theirs. From this it follows how an
estimation ends: it goes through the parts in their order, and the first part that nothing comes
of ends it.
-/

namespace Selectivity.Store

def Knows (store : Store) (node : Node) : Prop :=
  ∃ output, store.output? node.ref = some output

theorem Knows.mono {before after : Store} {node : Node} (extension : Extends before after)
    (known : before.Knows node) : after.Knows node := by
  obtain ⟨output, found⟩ := known
  exact ⟨output, extension.outputs node.ref output found⟩

/-- What an estimation that began at `start` has made of the store so far: the outputs that it has
said are what comes of the nodes, and they were said for all parts below as well. -/
structure Sound (start current : Store) : Prop where
  extension : Extends start current
  wellFormed : current.WellFormed
  nodes : ∀ ref node, current.node? ref = some node → start.node? ref = some node
  told : ∀ node output, start.node? node.ref = some node →
    start.output? node.ref = none → current.output? node.ref = some output →
      start.verdict node = .ok (current.relation output)
  closed : ∀ node, start.node? node.ref = some node → current.Knows node →
    ∀ part ∈ start.parts node, current.Knows part

/-- How an estimation ends that has some parts to go through: either all of them have their
outputs, or nothing comes of one of them while its inputs and all parts before it have theirs. -/
inductive Course (start : Store) (parts : List Node) (estimation : Estimation) : Prop where
  | complete (quiet : estimation.fault = none)
      (known : ∀ part ∈ parts, estimation.store.Knows part)
  | stopped (earlier later : List Node) (part : Node) (fault : EstimateFault)
      (order : parts = earlier ++ part :: later)
      (known : ∀ before ∈ earlier, estimation.store.Knows before)
      (ready : ∀ input : Node, input ∈ part.children → estimation.store.Knows input)
      (failed : start.verdict part = .error fault)
      (told : estimation.fault = some fault)

namespace Sound

variable {start current : Store}

theorem refl (wellFormed : start.WellFormed) : Sound start start where
  extension := Extends.refl start
  wellFormed := wellFormed
  nodes := fun _ _ found => found
  told := by
    intro node output _ unknown found
    rw [unknown] at found
    cases found
  closed := by
    rintro node _ ⟨output, known⟩ part member
    cases node with
    | node placed inputs =>
        have found : start.output? placed.ref = some output := known
        rw [parts, found] at member
        cases member

theorem pending_before (sound : Sound start current) {ref : NodeRef}
    (unknown : current.output? ref = none) : start.output? ref = none :=
  eq_none_of_kept sound.extension.outputs unknown

theorem meaning_eq (sound : Sound start current) (wellFormed : start.WellFormed) {node : Node}
    {output : RelationRef} (stored : start.node? node.ref = some node)
    (known : current.output? node.ref = some output) :
    start.meaning node = .ok (current.relation output) := by
  cases before : start.output? node.ref with
  | none => exact meaning_of_verdict before (sound.told node output stored before known)
  | some first =>
      have same : first = output := by
        rw [sound.extension.outputs node.ref first before] at known
        exact Option.some.inj known
      rw [meaning_of_output before, ← same]
      rw [relation_eq_of_extends sound.extension wellFormed
        (wellFormed.outputs node.ref first before)]

theorem outputs_eq (sound : Sound start current) (wellFormed : start.WellFormed)
    {inputs : List Node} (stored : ∀ input ∈ inputs, start.node? input.ref = some input)
    (known : ∀ input ∈ inputs, current.Knows input) :
    ∃ outputs, inputs.map start.meaning = outputs.map .ok ∧
      inputs.filterMap (fun input => current.outputRelation? input.ref) = outputs := by
  induction inputs with
  | nil => exact ⟨[], rfl, rfl⟩
  | cons input rest induction =>
      obtain ⟨outputs, meanings, found⟩ := induction
        (fun other member => stored other (List.mem_cons_of_mem input member))
        (fun other member => known other (List.mem_cons_of_mem input member))
      obtain ⟨output, here⟩ := known input List.mem_cons_self
      refine ⟨current.relation output :: outputs, ?_, ?_⟩
      · rw [List.map_cons, List.map_cons, meanings,
          sound.meaning_eq wellFormed (stored input List.mem_cons_self) here]
      · have reads : current.outputRelation? input.ref = some (current.relation output) :=
          congrArg (Option.map current.relation) here
        simp only [List.filterMap_cons, reads, found]

theorem estimateOperator_eq (sound : Sound start current) (wellFormed : start.WellFormed)
    {placed : PlacedOperator} {inputs : List Node}
    (stored : start.node? placed.ref = some (.node placed inputs))
    (known : ∀ input ∈ inputs, current.Knows input) :
    current.estimateOperator placed.operator inputs =
      start.verdict (.node placed inputs) := by
  have fits := wellFormed.nodes placed.ref _ stored
  have kept : ∀ input ∈ inputs, start.node? input.ref = some input := fits.inputs
  obtain ⟨outputs, meanings, found⟩ := sound.outputs_eq wellFormed kept known
  have bases : placed.operator.mapBase current.relation =
      placed.operator.mapBase start.relation :=
    Operator.mapBase_congr fun name base scan =>
      relation_eq_of_extends sound.extension wellFormed (fits.base name base scan)
  rw [estimateOperator, verdict, estimateAll_of_meanings meanings, found, bases]

/-- Saying the output that comes of a node whose inputs are known keeps all this. -/
theorem fill (sound : Sound start current)
    {placed : PlacedOperator} {inputs : List Node} {output : Relation}
    (stored : start.node? placed.ref = some (.node placed inputs))
    (unknown : current.output? placed.ref = none)
    (told : start.verdict (.node placed inputs) = .ok output)
    (known : ∀ part ∈ start.partsOfAll inputs, current.Knows part) :
    Sound start (current.fill placed.ref output) := by
  have there : current.node? placed.ref = some (.node placed inputs) :=
    sound.extension.nodes placed.ref _ stored
  have extension := extends_fill current output unknown
  have filled := outputRelation?_fill_self current output there
  obtain ⟨ref, said, isOutput⟩ := Option.map_eq_some_iff.mp filled
  have before := sound.pending_before unknown
  refine ⟨sound.extension.trans extension, sound.wellFormed.fill placed.ref output, ?_, ?_, ?_⟩
  · intro other node found
    rw [node?_fill] at found
    exact sound.nodes other node found
  · intro node result isStored pending found
    by_cases same : node.ref = placed.ref
    · rw [same] at isStored found
      rw [stored] at isStored
      rw [said] at found
      cases isStored
      cases found
      rw [told, isOutput]
    · rw [output?_fill_of_ne current output same] at found
      rw [relation_eq_of_extends extension sound.wellFormed
        (sound.wellFormed.outputs node.ref result found)]
      exact sound.told node result isStored pending found
  · intro node isStored isKnown part member
    by_cases same : node.ref = placed.ref
    · rw [same, stored] at isStored
      cases isStored
      rw [parts_of_pending before] at member
      rcases List.mem_append.mp member with below | here
      · exact (known part below).mono extension
      · rw [List.mem_singleton.mp here]
        exact ⟨ref, said⟩
    · obtain ⟨result, found⟩ := isKnown
      rw [output?_fill_of_ne current output same] at found
      exact (sound.closed node isStored ⟨result, found⟩ part member).mono extension

theorem knows_of_parts (sound : Sound start current) {nodes : List Node} {node : Node}
    (known : ∀ part ∈ start.partsOfAll nodes, current.Knows part) (member : node ∈ nodes) :
    current.Knows node := by
  cases before : start.output? node.ref with
  | none => exact known node (mem_partsOfAll member (mem_parts_self before))
  | some output => exact ⟨output, sound.extension.outputs node.ref output before⟩

end Sound

/-- An estimation that began at `start` goes on from `current` through some parts, and says the
outputs of no other nodes. -/
structure Runs (start current : Store) (parts : List Node) (estimation : Estimation) : Prop where
  extension : Extends current estimation.store
  sound : Sound start estimation.store
  untouched : ∀ ref, (∀ part ∈ parts, part.ref ≠ ref) →
    estimation.store.output? ref = current.output? ref
  course : Course start parts estimation

variable {start current : Store}

theorem Runs.known {parts : List Node} {estimation : Estimation}
    (runs : Runs start current parts estimation) (quiet : estimation.fault = none) :
    ∀ part ∈ parts, estimation.store.Knows part := by
  cases runs.course with
  | complete _ known => exact known
  | stopped earlier later part fault order known ready failed told =>
      rw [quiet] at told
      cases told

/-- An estimation that has been stopped has been stopped for further parts as well. -/
theorem Runs.append_stopped {parts more : List Node} {estimation : Estimation}
    {fault : EstimateFault} (runs : Runs start current parts estimation)
    (stopped : estimation.fault = some fault) :
    Runs start current (parts ++ more) estimation := by
  refine ⟨runs.extension, runs.sound, ?_, ?_⟩
  · exact fun ref apart => runs.untouched ref fun part member =>
      apart part (List.mem_append_left more member)
  · cases runs.course with
    | complete quiet known =>
        rw [quiet] at stopped
        cases stopped
    | stopped earlier later part other order known ready failed told =>
        refine .stopped earlier (later ++ more) part other ?_ known ready failed told
        rw [order, List.append_assoc, List.cons_append]

/-- An estimation goes on after another one that has given their outputs to some parts. -/
theorem Runs.after {before parts : List Node} {middle : Store} {estimation : Estimation}
    (extension : Extends current middle)
    (untouched : ∀ ref, (∀ part ∈ before, part.ref ≠ ref) →
      middle.output? ref = current.output? ref)
    (known : ∀ part ∈ before, middle.Knows part) (computed : List Computed)
    (runs : Runs start middle parts estimation) :
    Runs start current (before ++ parts) (estimation.after computed) := by
  refine ⟨extension.trans runs.extension, runs.sound, ?_, ?_⟩
  · intro ref apart
    have later := runs.untouched ref fun part member =>
      apart part (List.mem_append_right before member)
    exact later.trans (untouched ref fun part member =>
      apart part (List.mem_append_left parts member))
  · have still : ∀ part ∈ before, estimation.store.Knows part :=
      fun part member => (known part member).mono runs.extension
    cases runs.course with
    | complete quiet rest =>
        refine .complete quiet fun part member => ?_
        exact (List.mem_append.mp member).elim (still part) (rest part)
    | stopped earlier later part fault order rest ready failed told =>
        refine .stopped (before ++ earlier) later part fault ?_ (fun other member => ?_) ready
          failed told
        · rw [order, List.append_assoc]
        · exact (List.mem_append.mp member).elim (still other) (rest other)

/-- The output of a node is still unknown when its inputs have been gone through, because no part of
them is the node itself. -/
theorem Runs.pending (wellFormed : start.WellFormed) {placed : PlacedOperator}
    {inputs : List Node} {estimation : Estimation}
    (stored : start.node? placed.ref = some (.node placed inputs))
    (unknown : current.output? placed.ref = none)
    (runs : Runs start current (start.partsOfAll inputs) estimation) :
    estimation.store.output? placed.ref = none := by
  have fits := wellFormed.nodes placed.ref _ stored
  refine (runs.untouched placed.ref fun part member same => ?_).trans unknown
  have older := (wellFormed.of_mem_partsOfAll inputs placed.ref.index fits.inputs fits.older
    part member).2
  rw [same] at older
  exact Nat.lt_irrefl _ older

theorem Runs.ready {nodes : List Node} {estimation : Estimation}
    (runs : Runs start current (start.partsOfAll nodes) estimation)
    (quiet : estimation.fault = none) :
    ∀ node ∈ nodes, estimation.store.Knows node :=
  fun _ member => runs.sound.knows_of_parts (runs.known quiet) member

/-- The last part of a node is the node itself: once its inputs have been gone through without
fault, its output is said, or nothing comes of it. -/
theorem Runs.finish (wellFormed : start.WellFormed) {placed : PlacedOperator}
    {inputs : List Node} {store : Store} {computed : List Computed}
    (stored : start.node? placed.ref = some (.node placed inputs))
    (unknown : current.output? placed.ref = none)
    (runs : Runs start current (start.partsOfAll inputs) ⟨store, computed, none⟩) :
    Runs start current (start.partsOfAll inputs ++ [.node placed inputs])
      (match store.estimateOperator placed.operator inputs with
        | .error fault => ⟨store, computed, some fault⟩
        | .ok output => ⟨store.fill placed.ref output, computed ++ [⟨placed, output⟩], none⟩) := by
  have sound : Sound start store := runs.sound
  have known : ∀ part ∈ start.partsOfAll inputs, store.Knows part := runs.known rfl
  have pending : store.output? placed.ref = none := runs.pending wellFormed stored unknown
  have ready : ∀ input ∈ inputs, store.Knows input := runs.ready rfl
  rw [sound.estimateOperator_eq wellFormed stored ready]
  cases verdict : start.verdict (.node placed inputs) with
  | error fault =>
      refine ⟨runs.extension, sound, fun ref apart => ?_,
        .stopped _ [] (.node placed inputs) fault rfl known ready verdict rfl⟩
      exact runs.untouched ref fun part member => apart part (List.mem_append_left _ member)
  | ok output =>
      have there := sound.extension.nodes placed.ref _ stored
      have extension := extends_fill store output pending
      obtain ⟨ref, said, -⟩ :=
        Option.map_eq_some_iff.mp (outputRelation?_fill_self store output there)
      refine ⟨runs.extension.trans extension, sound.fill stored pending verdict known,
        fun other apart => ?_, .complete rfl fun part member => ?_⟩
      · have different : other ≠ placed.ref := fun same =>
          apart (.node placed inputs) (List.mem_append_right _ List.mem_cons_self) same.symm
        refine (output?_fill_of_ne store output different).trans ?_
        exact runs.untouched other fun part member =>
          apart part (List.mem_append_left _ member)
      · rcases List.mem_append.mp member with below | here
        · exact (known part below).mono extension
        · rw [List.mem_singleton.mp here]
          exact ⟨ref, said⟩

mutual

/-- A node whose output is not known is estimated to the end of its parts or to the first part
that nothing comes of. -/
theorem Sound.estimateNode {start current : Store} (wellFormed : start.WellFormed)
    (sound : Sound start current) (node : Node) (stored : start.node? node.ref = some node)
    (unknown : current.output? node.ref = none) :
    Runs start current (start.parts node) (current.estimateNode node) := by
  cases node with
  | node placed inputs =>
      have fits := wellFormed.nodes placed.ref _ stored
      have runs := Sound.estimatePending wellFormed sound inputs fits.inputs
      have before : start.output? placed.ref = none := sound.pending_before unknown
      rw [Store.estimateNode, parts_of_pending before]
      split
      · next store computed fault result =>
          rw [result] at runs
          exact runs.append_stopped rfl
      · next store computed result =>
          rw [result] at runs
          exact runs.finish wellFormed stored unknown

/-- Several nodes are estimated in the order of their parts; those whose outputs are known
already have no part that needs one. -/
theorem Sound.estimatePending {start current : Store} (wellFormed : start.WellFormed)
    (sound : Sound start current) (nodes : List Node)
    (stored : ∀ node ∈ nodes, start.node? node.ref = some node) :
    Runs start current (start.partsOfAll nodes) (current.estimatePending nodes) := by
  cases nodes with
  | nil =>
      exact ⟨Extends.refl current, sound, fun _ _ => rfl,
        .complete rfl fun part member => absurd member List.not_mem_nil⟩
  | cons node rest =>
      have others : ∀ other ∈ rest, start.node? other.ref = some other :=
        fun other member => stored other (List.mem_cons_of_mem node member)
      have here := stored node List.mem_cons_self
      rw [Store.estimatePending, partsOfAll]
      split
      · next skipped =>
          have runs := Sound.estimatePending wellFormed sound rest others
          have known := sound.closed node here (Option.isSome_iff_exists.mp skipped)
          exact runs.after (Extends.refl current) (fun _ _ => rfl) known []
      · next pending =>
          have unknown := Option.not_isSome_iff_eq_none.mp pending
          have first := Sound.estimateNode wellFormed sound node here unknown
          split
          · next store computed fault result =>
              rw [result] at first
              exact first.append_stopped rfl
          · next store computed result =>
              rw [result] at first
              have runs := Sound.estimatePending wellFormed first.sound rest others
              exact runs.after first.extension first.untouched (first.known rfl) computed

end

end Selectivity.Store

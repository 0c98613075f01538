import Selectivity.Proofs.Estimation.Course

/-!
# The order of estimates

The outputs are said in the order of the parts, each node where it stands among them for the first
time. What an estimation says beyond the outputs, the list of the estimates that it has made,
follows this order, and no other output changes.
-/

namespace Selectivity

/-- The nodes of the estimates that were made, in order. -/
def Estimation.order (estimation : Estimation) : List NodeRef :=
  estimation.computed.map fun made => made.placed.ref

namespace Store

/-- The nodes among some parts whose output is not known, each where it stands first. -/
def pending (store : Store) (nodes : List Node) : List NodeRef :=
  ((nodes.map Node.ref).filter fun ref => (store.output? ref).isNone).eraseDups

/-- The order in which a node and what is below it get their outputs: inputs first, from left to
right, each node where it is met first, and nothing below a known output. -/
def order (store : Store) (node : Node) : List NodeRef :=
  ((store.parts node).map Node.ref).eraseDups

variable {start current middle : Store}

theorem pending_parts (store : Store) (node : Node) :
    store.pending (store.parts node) = store.order node := by
  have all : ((store.parts node).map Node.ref).filter (fun ref => (store.output? ref).isNone) =
      (store.parts node).map Node.ref := by
    apply List.filter_eq_self.mpr
    intro ref member
    obtain ⟨part, within, rfl⟩ := List.mem_map.mp member
    rw [unknown_of_mem_parts node part within, Option.isNone_none]
  rw [pending, all, order]

theorem mem_pending {nodes : List Node} {ref : NodeRef} :
    ref ∈ current.pending nodes ↔
      (∃ node ∈ nodes, node.ref = ref) ∧ current.output? ref = none := by
  rw [pending, List.mem_eraseDups, List.mem_filter, List.mem_map, Option.isNone_iff_eq_none]

theorem pending_append_of_known {nodes : List Node} (more : List Node)
    (known : ∀ node ∈ nodes, current.Knows node) :
    current.pending (nodes ++ more) = current.pending more := by
  have none : (nodes.map Node.ref).filter (fun ref => (current.output? ref).isNone) = [] := by
    apply List.filter_eq_nil_iff.mpr
    intro ref member unknown
    obtain ⟨node, within, rfl⟩ := List.mem_map.mp member
    obtain ⟨output, said⟩ := known node within
    rw [said] at unknown
    cases unknown
  rw [pending, pending, List.map_append, List.filter_append, none, List.nil_append]

/-- When the outputs of the first nodes have been said, those that are left count as before. -/
theorem pending_append {nodes : List Node} (more : List Node) (extension : Extends current middle)
    (known : ∀ node ∈ nodes, middle.Knows node)
    (untouched : ∀ ref, (∀ node ∈ nodes, node.ref ≠ ref) →
      middle.output? ref = current.output? ref) :
    current.pending (nodes ++ more) = current.pending nodes ++ middle.pending more := by
  have unknown_iff : ∀ ref, middle.output? ref = none ↔
      current.output? ref = none ∧ ∀ node ∈ nodes, node.ref ≠ ref := by
    intro ref
    constructor
    · intro unknown
      refine ⟨eq_none_of_kept extension.outputs unknown, ?_⟩
      rintro node member rfl
      obtain ⟨output, said⟩ := known node member
      rw [said] at unknown
      cases unknown
    · rintro ⟨unknown, apart⟩
      rw [untouched ref apart, unknown]
  -- the others that count later are those that were not among the first ones
  have later : ((more.map Node.ref).filter fun ref => (current.output? ref).isNone).removeAll
      ((nodes.map Node.ref).filter fun ref => (current.output? ref).isNone) =
      (more.map Node.ref).filter fun ref => (middle.output? ref).isNone := by
    rw [List.removeAll, List.filter_filter]
    apply List.filter_congr
    intro ref _
    rw [Bool.eq_iff_iff]
    simp only [Bool.and_eq_true, Bool.not_eq_true', List.elem_eq_mem, decide_eq_false_iff_not,
      List.mem_filter, List.mem_map, Option.isNone_iff_eq_none, unknown_iff]
    constructor
    · rintro ⟨outside, unknown⟩
      exact ⟨unknown, fun node member same => outside ⟨⟨node, member, same⟩, unknown⟩⟩
    · rintro ⟨unknown, apart⟩
      exact ⟨fun ⟨⟨node, member, same⟩, _⟩ => apart node member same, unknown⟩
  rw [pending, pending, pending, List.map_append, List.filter_append, List.eraseDups_append, later]

theorem pending_singleton {node : Node} (unknown : current.output? node.ref = none) :
    current.pending [node] = [node.ref] := by
  simp [pending, unknown, List.eraseDups_cons]

theorem outputRelation?_of_extends (extension : Extends current middle)
    (wellFormed : current.WellFormed) {ref : NodeRef} {output : Relation}
    (shown : current.outputRelation? ref = some output) :
    middle.outputRelation? ref = some output := by
  obtain ⟨relation, said, rfl⟩ := Option.map_eq_some_iff.mp shown
  have same := relation_eq_of_extends extension wellFormed (wellFormed.outputs ref relation said)
  rw [outputRelation?, extension.outputs ref relation said, Option.map_some, same]

/-- The estimates of a run are those of its nodes, and nothing else has got an output. -/
structure Records (start current : Store) (estimation : Estimation) : Prop where
  untouched : ∀ ref, ref ∉ estimation.order → estimation.store.output? ref = current.output? ref
  unknown : ∀ ref ∈ estimation.order, current.output? ref = none
  shown : ∀ made ∈ estimation.computed,
    (∃ inputs, start.node? made.placed.ref = some (.node made.placed inputs)) ∧
      estimation.store.outputRelation? made.placed.ref = some made.output

theorem Records.nothing (start current : Store) (fault : Option EstimateFault) :
    Records start current ⟨current, [], fault⟩ where
  untouched := fun _ _ => rfl
  unknown := nofun
  shown := nofun

theorem Records.single {placed : PlacedOperator} {inputs : List Node} (output : Relation)
    (stored : start.node? placed.ref = some (.node placed inputs))
    (there : current.node? placed.ref = some (.node placed inputs))
    (unknown : current.output? placed.ref = none) :
    Records start current ⟨current.fill placed.ref output, [⟨placed, output⟩], .none⟩ where
  untouched := by
    intro ref apart
    apply output?_fill_of_ne current output
    exact fun same => apart (List.mem_singleton.mpr same)
  unknown := by
    intro ref member
    rw [List.mem_singleton.mp member]
    exact unknown
  shown := by
    intro made member
    rw [List.mem_singleton.mp member]
    exact ⟨⟨inputs, stored⟩, outputRelation?_fill_self current output there⟩

theorem Records.after {computed : List Computed} {estimation : Estimation}
    {quiet : Option EstimateFault} (first : Records start current ⟨middle, computed, quiet⟩)
    (rest : Records start middle estimation) (before : Extends current middle)
    (later : Extends middle estimation.store) (wellFormed : middle.WellFormed) :
    Records start current (estimation.after computed) where
  untouched := by
    intro ref apart
    rw [Estimation.order, Estimation.after, List.map_append, List.mem_append, not_or] at apart
    exact (rest.untouched ref apart.2).trans (first.untouched ref apart.1)
  unknown := by
    intro ref member
    rw [Estimation.order, Estimation.after, List.map_append, List.mem_append] at member
    rcases member with early | late
    · exact first.unknown ref early
    · exact eq_none_of_kept before.outputs (rest.unknown ref late)
  shown := by
    intro made member
    rcases List.mem_append.mp member with early | late
    · obtain ⟨stored, shown⟩ := first.shown made early
      exact ⟨stored, outputRelation?_of_extends later wellFormed shown⟩
    · exact rest.shown made late

/-- How a run through some parts ends, with the order in which it has gone through them. -/
inductive Ends (start current : Store) (parts : List Node) (estimation : Estimation) : Prop where
  | complete (quiet : estimation.fault = none) (order : estimation.order = current.pending parts)
  | stopped (earlier later : List Node) (part : Node) (fault : EstimateFault)
      (split : parts = earlier ++ part :: later)
      (order : estimation.order = current.pending earlier)
      (ready : ∀ input : Node, input ∈ part.children → estimation.store.Knows input)
      (failed : start.verdict part = .error fault) (told : estimation.fault = some fault)

theorem Ends.append_stopped {parts : List Node} {estimation : Estimation} {fault : EstimateFault}
    (more : List Node) (ends : Ends start current parts estimation)
    (stopped : estimation.fault = some fault) :
    Ends start current (parts ++ more) estimation := by
  cases ends with
  | complete quiet =>
      rw [quiet] at stopped
      cases stopped
  | stopped earlier later part other split order ready failed told =>
      apply Ends.stopped earlier (later ++ more) part other _ order ready failed told
      rw [split, List.append_assoc, List.cons_append]

theorem Ends.order_of_quiet {parts : List Node} {estimation : Estimation}
    (ends : Ends start current parts estimation) (quiet : estimation.fault = none) :
    estimation.order = current.pending parts := by
  cases ends with
  | complete _ order => exact order
  | stopped earlier later part fault split order ready failed told =>
      rw [quiet] at told
      cases told

/-- A run goes on after another one that has given their outputs to the parts in front. -/
theorem Ends.after {before parts : List Node} {estimation : Estimation} {computed : List Computed}
    (extension : Extends current middle) (known : ∀ part ∈ before, middle.Knows part)
    (untouched : ∀ ref, (∀ part ∈ before, part.ref ≠ ref) →
      middle.output? ref = current.output? ref)
    (order : (computed.map fun made => made.placed.ref) = current.pending before)
    (ends : Ends start middle parts estimation) :
    Ends start current (before ++ parts) (estimation.after computed) := by
  have whole : ∀ more, estimation.order = middle.pending more →
      (estimation.after computed).order = current.pending (before ++ more) := by
    intro more rest
    rw [pending_append more extension known untouched, ← order, ← rest]
    exact List.map_append
  cases ends with
  | complete quiet rest => exact .complete quiet (whole parts rest)
  | stopped earlier later part fault split rest ready failed told =>
      apply Ends.stopped (before ++ earlier) later part fault _ (whole earlier rest) ready failed
        told
      rw [split, List.append_assoc]

/-- A run goes through some parts in their order and records what it says. -/
structure Follows (start current : Store) (parts : List Node) (estimation : Estimation) :
    Prop where
  records : Records start current estimation
  ends : Ends start current parts estimation

theorem Follows.finish (wellFormed : start.WellFormed) {placed : PlacedOperator}
    {inputs : List Node} {store : Store} {computed : List Computed}
    (stored : start.node? placed.ref = some (.node placed inputs))
    (unknown : current.output? placed.ref = none)
    (runs : Runs start current (start.partsOfAll inputs) ⟨store, computed, none⟩)
    (follows : Follows start current (start.partsOfAll inputs) ⟨store, computed, none⟩) :
    Follows start current (start.partsOfAll inputs ++ [.node placed inputs])
      (match store.estimateOperator placed.operator inputs with
        | .error fault => ⟨store, computed, some fault⟩
        | .ok output => ⟨store.fill placed.ref output, computed ++ [⟨placed, output⟩], none⟩) := by
  have sound : Sound start store := runs.sound
  have known : ∀ part ∈ start.partsOfAll inputs, store.Knows part := runs.known rfl
  have pending : store.output? placed.ref = none := runs.pending wellFormed stored unknown
  have ready : ∀ input ∈ inputs, store.Knows input := runs.ready rfl
  have order : (computed.map fun made => made.placed.ref) =
      current.pending (start.partsOfAll inputs) := follows.ends.order_of_quiet rfl
  rw [sound.estimateOperator_eq wellFormed stored ready]
  cases verdict : start.verdict (.node placed inputs) with
  | error fault =>
      refine ⟨⟨follows.records.untouched, follows.records.unknown, follows.records.shown⟩, ?_⟩
      exact .stopped _ [] (.node placed inputs) fault rfl order ready verdict rfl
  | ok output =>
      have there := sound.extension.nodes placed.ref _ stored
      have single := Records.single output stored there pending
      have alone : store.pending [.node placed inputs] = [placed.ref] := pending_singleton pending
      have last : Ends start store [.node placed inputs]
          ⟨store.fill placed.ref output, [⟨placed, output⟩], none⟩ := .complete rfl alone.symm
      constructor
      · exact follows.records.after single runs.extension (extends_fill store output pending)
          sound.wellFormed
      · exact last.after runs.extension known runs.untouched order

mutual

theorem Sound.follows_estimateNode {start current : Store} (wellFormed : start.WellFormed)
    (sound : Sound start current) (node : Node) (stored : start.node? node.ref = some node)
    (unknown : current.output? node.ref = none) :
    Follows start current (start.parts node) (current.estimateNode node) := by
  cases node with
  | node placed inputs =>
      have fits := wellFormed.nodes placed.ref _ stored
      have runs := sound.estimatePending wellFormed inputs fits.inputs
      have follows := Sound.follows_estimatePending wellFormed sound inputs fits.inputs
      have before : start.output? placed.ref = none := sound.pending_before unknown
      rw [Store.estimateNode, parts_of_pending before]
      split
      · next store computed fault result =>
          rw [result] at follows
          exact ⟨follows.records, follows.ends.append_stopped _ rfl⟩
      · next store computed result =>
          rw [result] at runs follows
          exact follows.finish wellFormed stored unknown runs

theorem Sound.follows_estimatePending {start current : Store} (wellFormed : start.WellFormed)
    (sound : Sound start current) (nodes : List Node)
    (stored : ∀ node ∈ nodes, start.node? node.ref = some node) :
    Follows start current (start.partsOfAll nodes) (current.estimatePending nodes) := by
  cases nodes with
  | nil => exact ⟨.nothing start current none, .complete rfl rfl⟩
  | cons node rest =>
      have others : ∀ other ∈ rest, start.node? other.ref = some other :=
        fun other member => stored other (List.mem_cons_of_mem node member)
      have here := stored node List.mem_cons_self
      rw [Store.estimatePending, partsOfAll]
      split
      · next skipped =>
          have follows := Sound.follows_estimatePending wellFormed sound rest others
          have known := sound.closed node here (Option.isSome_iff_exists.mp skipped)
          refine ⟨follows.records, ?_⟩
          have order : ([] : List Computed).map (fun made => made.placed.ref) =
              current.pending (start.parts node) := by
            rw [← List.append_nil (start.parts node), pending_append_of_known [] known]
            rfl
          exact follows.ends.after (Extends.refl current) known (fun _ _ => rfl) order
      · next pending =>
          have unknown := Option.not_isSome_iff_eq_none.mp pending
          have first := sound.estimateNode wellFormed node here unknown
          have early := Sound.follows_estimateNode wellFormed sound node here unknown
          split
          · next store computed fault result =>
              rw [result] at early
              exact ⟨early.records, early.ends.append_stopped _ rfl⟩
          · next store computed result =>
              rw [result] at first early
              have later := first.sound.estimatePending wellFormed rest others
              have late := Sound.follows_estimatePending wellFormed first.sound rest others
              constructor
              · exact early.records.after late.records first.extension later.extension
                  first.sound.wellFormed
              · exact late.ends.after first.extension (first.known rfl) first.untouched
                  (early.ends.order_of_quiet rfl)

end

end Store

end Selectivity

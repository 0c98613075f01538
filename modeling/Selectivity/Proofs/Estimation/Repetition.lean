import Selectivity.Proofs.Estimation.Order

/-!
# Estimations that were stopped

An estimation leaves the outputs that it has said, so that a further one finds less to do. Every
output that was said is the one that its node would have got alone. If a part stopped the
estimation, it is the first one that is left, with the same fault: a further estimation of the same
node says nothing and changes nothing.
-/

namespace Selectivity.Store

variable {start current : Store}

mutual

theorem Sound.parts_eq {start current : Store} (sound : Sound start current) (node : Node)
    (wellFormed : start.WellFormed) (stored : start.node? node.ref = some node) :
    current.parts node =
      (start.parts node).filter fun part => (current.output? part.ref).isNone := by
  cases node with
  | node placed inputs =>
      cases said : current.output? placed.ref with
      | some output =>
          have known : current.Knows (.node placed inputs) := ⟨output, said⟩
          have nothing : current.parts (.node placed inputs) = [] := by rw [parts, said]; rfl
          rw [nothing, eq_comm, List.filter_eq_nil_iff]
          intro part member unknown
          obtain ⟨result, told⟩ := sound.closed _ stored known part member
          rw [told] at unknown
          cases unknown
      | none =>
          have fits := wellFormed.nodes placed.ref _ stored
          have last : ([.node placed inputs] : List Node).filter
              (fun part => (current.output? part.ref).isNone) = [.node placed inputs] := by
            apply List.filter_eq_self.mpr
            intro part member
            rw [List.mem_singleton.mp member]
            exact Option.isNone_iff_eq_none.mpr said
          rw [parts_of_pending said, parts_of_pending (sound.pending_before said),
            List.filter_append, last, Sound.partsOfAll_eq sound inputs wellFormed fits.inputs]

theorem Sound.partsOfAll_eq {start current : Store} (sound : Sound start current)
    (nodes : List Node) (wellFormed : start.WellFormed)
    (stored : ∀ node ∈ nodes, start.node? node.ref = some node) :
    current.partsOfAll nodes =
      (start.partsOfAll nodes).filter fun part => (current.output? part.ref).isNone := by
  cases nodes with
  | nil => rfl
  | cons node rest =>
      have others : ∀ other ∈ rest, start.node? other.ref = some other :=
        fun other member => stored other (List.mem_cons_of_mem node member)
      rw [partsOfAll, partsOfAll, List.filter_append,
        Sound.parts_eq sound node wellFormed (stored node List.mem_cons_self),
        Sound.partsOfAll_eq sound rest wellFormed others]

end

mutual

theorem estimateNode_of_silent (store : Store) (node : Node)
    (silent : (store.estimateNode node).computed = []) :
    (store.estimateNode node).store = store := by
  cases node with
  | node placed inputs =>
      have pending := estimatePending_of_silent store inputs
      rw [Store.estimateNode] at silent ⊢
      split
      · next middle computed fault result =>
          rw [result] at silent pending
          exact pending silent
      · next middle computed result =>
          simp only [result] at silent pending
          split
          · next fault failed =>
              simp only [failed] at silent
              exact pending silent
          · next output told =>
              simp [told] at silent

theorem estimatePending_of_silent (store : Store) (nodes : List Node)
    (silent : (store.estimatePending nodes).computed = []) :
    (store.estimatePending nodes).store = store := by
  cases nodes with
  | nil => rfl
  | cons node rest =>
      have first := estimateNode_of_silent store node
      rw [Store.estimatePending] at silent ⊢
      split
      · next skipped =>
          rw [if_pos skipped] at silent
          exact estimatePending_of_silent store rest silent
      · next pending =>
          rw [if_neg pending] at silent
          split
          · next middle computed fault result =>
              rw [result] at silent first
              exact first silent
          · next middle computed result =>
              simp only [result] at silent first
              obtain ⟨early, late⟩ := List.append_eq_nil_iff.mp silent
              exact (estimatePending_of_silent middle rest late).trans (first early)

end

theorem Sound.unknown_of_failed (sound : Sound start current) {part : Node} {fault : EstimateFault}
    (stored : start.node? part.ref = some part) (unknown : start.output? part.ref = none)
    (failed : start.verdict part = .error fault) : current.output? part.ref = none := by
  cases said : current.output? part.ref with
  | none => rfl
  | some output =>
      have told := sound.told part output stored unknown said
      rw [failed] at told
      cases told

/-- A node whose output has been said can be estimated alone, and gets the same output. -/
theorem Sound.alone (sound : Sound start current) (wellFormed : start.WellFormed) {part : Node}
    (stored : start.node? part.ref = some part) (unknown : start.output? part.ref = none)
    (known : current.Knows part) :
    (start.estimateNode part).fault = none ∧
      ∃ first second, (start.estimateNode part).store.output? part.ref = some first ∧
        current.output? part.ref = some second ∧
        (start.estimateNode part).store.relation first = current.relation second := by
  have runs := (Sound.refl wellFormed).estimateNode wellFormed part stored unknown
  have quiet : (start.estimateNode part).fault = none := by
    cases runs.course with
    | complete quiet => exact quiet
    | stopped earlier later stop fault split _ _ failed _ =>
        have member : stop ∈ start.parts part := by
          rw [split]
          exact List.mem_append_right _ List.mem_cons_self
        have none := sound.unknown_of_failed (wellFormed.of_mem_parts part stored stop member).1
          (unknown_of_mem_parts part stop member) failed
        obtain ⟨output, said⟩ := sound.closed part stored known stop member
        rw [none] at said
        cases said
  obtain ⟨first, said⟩ := runs.known quiet part (mem_parts_self unknown)
  obtain ⟨second, found⟩ := known
  refine ⟨quiet, first, second, said, found, ?_⟩
  have alone := runs.sound.told part first stored unknown said
  have here := sound.told part second stored unknown found
  exact Except.ok.inj (alone.symm.trans here)

theorem Sound.verdict_eq (sound : Sound start current) (wellFormed : start.WellFormed)
    {part : Node} (stored : start.node? part.ref = some part)
    (ready : ∀ input : Node, input ∈ part.children → current.Knows input) :
    current.verdict part = start.verdict part := by
  cases part with
  | node placed inputs =>
      have there := sound.extension.nodes placed.ref _ stored
      have again := Sound.refl sound.wellFormed
      exact (again.estimateOperator_eq sound.wellFormed there ready).symm.trans
        (sound.estimateOperator_eq wellFormed stored ready)

theorem Follows.knows {parts : List Node} {estimation : Estimation}
    (follows : Follows start current parts estimation) {ref : NodeRef}
    (member : ref ∈ estimation.order) : ∃ output, estimation.store.output? ref = some output := by
  obtain ⟨made, listed, rfl⟩ := List.mem_map.mp member
  obtain ⟨output, said, -⟩ := Option.map_eq_some_iff.mp (follows.records.shown made listed).2
  exact ⟨output, said⟩

/-- An estimation says nothing and changes nothing if nothing comes of the first part. -/
theorem estimateNode_of_first (wellFormed : current.WellFormed) {node part : Node}
    {others : List Node} {fault : EstimateFault} (stored : current.node? node.ref = some node)
    (unknown : current.output? node.ref = none) (left : current.parts node = part :: others)
    (failed : current.verdict part = .error fault) :
    current.estimateNode node = ⟨current, [], some fault⟩ := by
  have runs := (Sound.refl wellFormed).estimateNode wellFormed node stored unknown
  have follows := (Sound.refl wellFormed).follows_estimateNode wellFormed node stored unknown
  have first : part ∈ current.parts node := by
    rw [left]
    exact List.mem_cons_self
  have kept := (wellFormed.of_mem_parts node stored part first).1
  have pending := unknown_of_mem_parts node part first
  -- had the run gone beyond the first part, it would have said its output
  have untold : part.ref ∉ (current.estimateNode node).order := by
    intro member
    obtain ⟨output, said⟩ := follows.knows member
    rw [runs.sound.unknown_of_failed kept pending failed] at said
    cases said
  have reached : ∀ more, part.ref ∈ current.pending (part :: more) :=
    fun more => mem_pending.mpr ⟨⟨part, List.mem_cons_self, rfl⟩, pending⟩
  cases follows.ends with
  | complete quiet order =>
      rw [order, left] at untold
      exact absurd (reached others) untold
  | stopped before behind stop other split order ready refused told =>
      rw [left] at split
      cases before with
      | cons head rest =>
          rw [order, ← (List.cons.inj split).1] at untold
          exact absurd (reached rest) untold
      | nil =>
          rw [← (List.cons.inj split).1, failed] at refused
          cases refused
          have silent : (current.estimateNode node).computed = [] := List.map_eq_nil_iff.mp order
          have same := estimateNode_of_silent current node silent
          generalize current.estimateNode node = estimation at *
          obtain ⟨store, computed, fault⟩ := estimation
          cases same
          cases silent
          cases told
          rfl

/-- An estimation of a node was stopped at one of its parts: the parts in front of it have got
their outputs in order, and it has none. -/
structure StoppedAt (start : Store) (node part : Node) (earlier later : List Node)
    (fault : EstimateFault) : Prop where
  split : start.parts node = earlier ++ part :: later
  order : (start.estimateNode node).order = start.pending earlier
  known : ∀ before ∈ earlier, (start.estimateNode node).store.Knows before
  ready : ∀ input : Node, input ∈ part.children → (start.estimateNode node).store.Knows input
  failed : start.verdict part = .error fault
  unknown : (start.estimateNode node).store.output? part.ref = none

variable {node part : Node} {earlier later : List Node} {fault : EstimateFault}

theorem estimateNode_stopped (wellFormed : start.WellFormed)
    (stored : start.node? node.ref = some node) (unknown : start.output? node.ref = none)
    (ended : (start.estimateNode node).fault = some fault) :
    ∃ part earlier later, StoppedAt start node part earlier later fault := by
  have runs := (Sound.refl wellFormed).estimateNode wellFormed node stored unknown
  have follows := (Sound.refl wellFormed).follows_estimateNode wellFormed node stored unknown
  cases follows.ends with
  | complete quiet =>
      rw [quiet] at ended
      cases ended
  | stopped earlier later part other split order ready failed told =>
      have same : other = fault := by
        rw [told] at ended
        exact Option.some.inj ended
      subst same
      have within : part ∈ start.parts node := by
        rw [split]
        exact List.mem_append_right _ List.mem_cons_self
      have before : start.output? part.ref = none := unknown_of_mem_parts node part within
      refine ⟨part, earlier, later, split, order, ?_, ready, failed, ?_⟩
      · intro other member
        apply follows.knows
        rw [order]
        apply mem_pending.mpr
        constructor
        · exact ⟨other, member, rfl⟩
        · apply unknown_of_mem_parts node other
          rw [split]
          exact List.mem_append_left _ member
      · apply runs.sound.unknown_of_failed _ before failed
        exact (wellFormed.of_mem_parts node stored part within).1

namespace StoppedAt

variable (wellFormed : start.WellFormed) (stored : start.node? node.ref = some node)
  (unknown : start.output? node.ref = none)
  (stop : StoppedAt start node part earlier later fault)

include stop in
theorem part_mem : part ∈ start.parts node := by
  rw [stop.split]
  exact List.mem_append_right _ List.mem_cons_self

include wellFormed stored unknown stop

/-- The outputs that were said are those in front of the stop, in the order of the node. -/
theorem order_split : ∃ others, start.order node =
    (start.estimateNode node).order ++ part.ref :: others := by
  have runs := (Sound.refl wellFormed).estimateNode wellFormed node stored unknown
  have follows := (Sound.refl wellFormed).follows_estimateNode wellFormed node stored unknown
  have untouched : ∀ ref, (∀ other ∈ earlier, other.ref ≠ ref) →
      (start.estimateNode node).store.output? ref = start.output? ref := by
    intro ref apart
    apply follows.records.untouched
    intro member
    rw [stop.order, mem_pending] at member
    obtain ⟨⟨other, within, same⟩, -⟩ := member
    exact apart other within same
  have cut := pending_append (part :: later) runs.extension stop.known untouched
  have first : ∃ others, (start.estimateNode node).store.pending (part :: later) =
      part.ref :: others := by
    simp [pending, stop.unknown, List.eraseDups_cons]
  obtain ⟨others, first⟩ := first
  refine ⟨others, ?_⟩
  rw [← pending_parts, stop.split, cut, stop.order, first]

theorem unknown_above {other : Node} (within : other ∈ start.parts node)
    (above : part ∈ start.parts other) :
    (start.estimateNode node).store.output? other.ref = none := by
  have runs := (Sound.refl wellFormed).estimateNode wellFormed node stored unknown
  cases said : (start.estimateNode node).store.output? other.ref with
  | none => rfl
  | some output =>
      have kept := (wellFormed.of_mem_parts node stored other within).1
      obtain ⟨result, told⟩ := runs.sound.closed other kept ⟨output, said⟩ part above
      rw [stop.unknown] at told
      cases told

theorem parts_left : ∃ others,
    (start.estimateNode node).store.parts node = part :: others := by
  have runs := (Sound.refl wellFormed).estimateNode wellFormed node stored unknown
  have passed : earlier.filter
      (fun part => ((start.estimateNode node).store.output? part.ref).isNone) = [] := by
    apply List.filter_eq_nil_iff.mpr
    intro other member missing
    obtain ⟨output, said⟩ := stop.known other member
    rw [said] at missing
    cases missing
  have here := List.filter_cons_of_pos (l := later) (a := part)
    (p := fun part => ((start.estimateNode node).store.output? part.ref).isNone)
    (Option.isNone_iff_eq_none.mpr stop.unknown)
  exact ⟨_, by rw [runs.sound.parts_eq node wellFormed stored, stop.split, List.filter_append,
    passed, List.nil_append, here]⟩

/-- A further estimation of the node is stopped at once, by the same fault. -/
theorem again : (start.estimateNode node).store.estimateNode node =
    ⟨(start.estimateNode node).store, [], some fault⟩ := by
  have runs := (Sound.refl wellFormed).estimateNode wellFormed node stored unknown
  have there := runs.extension.nodes node.ref node stored
  have missing := stop.unknown_above wellFormed stored unknown (mem_parts_self unknown)
    stop.part_mem
  obtain ⟨others, left⟩ := stop.parts_left wellFormed stored unknown
  apply estimateNode_of_first runs.sound.wellFormed there missing left
  have kept := (wellFormed.of_mem_parts node stored part stop.part_mem).1
  rw [runs.sound.verdict_eq wellFormed kept stop.ready, stop.failed]

end StoppedAt

end Selectivity.Store

import Selectivity.Proofs.Estimation.Stacks

/-!
# The fault of an estimation

An estimation goes through the parts of a node in their order, and something or nothing comes of
each. It ends with the fault of the first part that nothing comes of, and if there is no such part,
then it gives the node what comes of it. What comes of a part does not depend on how far the
estimation has got, so all of this can be told at its start.
-/

namespace Selectivity

theorem Operator.output_eq_ok_iff {operator : Operator Relation} {inputs : List Relation}
    {output : Relation} :
    operator.output inputs = .ok output ↔
      Estimates operator inputs output ∧ Tellable operator output := by
  constructor
  · exact fun told => ⟨Operator.estimate_eq_ok_iff.mp (Store.estimate_of_output told),
      tellable_of_output told⟩
  · rintro ⟨estimates, names, writable⟩
    have simple : (operator.hasCondition && output.hasCompoundName) = false := by
      rw [Bool.and_eq_false_imp]
      exact names
    rw [Operator.output, Operator.estimate_of_estimates estimates]
    simp only [simple, Relation.isSome_render?, writable, Bool.false_eq_true, if_false, if_true]

namespace Store

/-- The fault that ends an estimation at a part, if nothing comes of the part. -/
def stop? (store : Store) (part : Node) : Option EstimateFault :=
  match store.verdict part with
  | .error fault => some fault
  | .ok _ => none

variable {start current store : Store} {node part : Node} {fault : EstimateFault}

theorem stop?_eq_some_iff :
    store.stop? node = some fault ↔ store.verdict node = .error fault := by
  rw [stop?]
  cases store.verdict node with
  | error other => rw [Option.some.injEq, Except.error.injEq]
  | ok output => exact iff_of_false nofun nofun

theorem stop?_eq_none_iff :
    store.stop? node = none ↔ ∃ output, store.verdict node = .ok output := by
  rw [stop?]
  cases store.verdict node with
  | error fault => exact iff_of_false nofun nofun
  | ok output => exact iff_of_true rfl ⟨output, rfl⟩

theorem Sound.stop?_eq_none (sound : Sound start current)
    (stored : start.node? node.ref = some node) (unknown : start.output? node.ref = none)
    (known : current.Knows node) : start.stop? node = none := by
  obtain ⟨output, said⟩ := known
  exact stop?_eq_none_iff.mpr ⟨_, sound.told node output stored unknown said⟩

/-- An estimation ends with the fault of the first part that nothing comes of. -/
theorem Runs.fault_eq {parts : List Node} {estimation : Estimation}
    (runs : Runs start current parts estimation)
    (stored : ∀ part ∈ parts, start.node? part.ref = some part)
    (unknown : ∀ part ∈ parts, start.output? part.ref = none) :
    estimation.fault = parts.findSome? start.stop? := by
  have passed : ∀ part ∈ parts, estimation.store.Knows part → start.stop? part = none := by
    intro part member known
    exact runs.sound.stop?_eq_none (stored part member) (unknown part member) known
  cases runs.course with
  | complete quiet known =>
      rw [quiet, eq_comm, List.findSome?_eq_none_iff]
      exact fun part member => passed part member (known part member)
  | stopped earlier later part fault order known ready failed told =>
      subst order
      have before : earlier.findSome? start.stop? = none := by
        rw [List.findSome?_eq_none_iff]
        exact fun part member => passed part (List.mem_append_left _ member) (known part member)
      rw [told, List.findSome?_append, before, List.findSome?_cons, stop?_eq_some_iff.mpr failed]
      rfl

theorem WellFormed.estimateNode_fault (wellFormed : store.WellFormed)
    (stored : store.node? node.ref = some node) (unknown : store.output? node.ref = none) :
    (store.estimateNode node).fault = (store.parts node).findSome? store.stop? :=
  ((Sound.refl wellFormed).estimateNode wellFormed node stored unknown).fault_eq
    (fun part member => (wellFormed.of_mem_parts node stored part member).1)
    (unknown_of_mem_parts node)

theorem Estimable.stop?_eq_none {output : Relation} (estimable : Estimable store node output)
    (member : part ∈ store.parts node) : store.stop? part = none := by
  obtain ⟨result, means⟩ := estimable.means.of_mem_parts node output part member
  obtain ⟨outputs, below, estimates⟩ := means.inputs (unknown_of_mem_parts node part member)
  have tellable := estimable.tellable part member result means
  rw [stop?_eq_none_iff]
  refine ⟨result, ?_⟩
  rw [verdict_eq_output below, Operator.output_eq_ok_iff]
  refine ⟨estimates, fun condition => tellable.names ?_, tellable.counts⟩
  exact (Operator.hasCondition_mapBase _ _).symm.trans condition

/-- The part at this place is the first one that nothing comes of, and this is its fault. -/
structure StopsFirst (store : Store) (parts : List Node) (place : Nat) (part : Node)
    (fault : EstimateFault) : Prop where
  here : parts[place]? = some part
  passes : ∀ earlier ∈ parts.take place, store.stop? earlier = none
  stops : store.stop? part = some fault

namespace StopsFirst

variable {parts : List Node} {place : Nat}

theorem head (stops : store.stop? part = some fault) (later : List Node) :
    StopsFirst store (part :: later) 0 part fault :=
  ⟨rfl, nofun, stops⟩

theorem cons {earlier : Node} (stops : StopsFirst store parts place part fault)
    (passes : store.stop? earlier = none) :
    StopsFirst store (earlier :: parts) (place + 1) part fault := by
  refine ⟨stops.here, ?_, stops.stops⟩
  rw [List.take_succ_cons, List.forall_mem_cons]
  exact ⟨passes, stops.passes⟩

/-- Nothing is in an empty list, and in another one the part is its head or one of the rest. -/
theorem cases_cons {earlier : Node} (stops : StopsFirst store (earlier :: parts) place part fault) :
    earlier = part ∨ store.stop? earlier = none ∧
      ∃ rest, StopsFirst store parts rest part fault := by
  cases place with
  | zero => exact Or.inl (Option.some.inj stops.here)
  | succ rest =>
      have passes := stops.passes
      rw [List.take_succ_cons, List.forall_mem_cons] at passes
      exact Or.inr ⟨passes.1, rest, stops.here, passes.2, stops.stops⟩

theorem findSome?_eq (stops : StopsFirst store parts place part fault) :
    parts.findSome? store.stop? = some fault := by
  induction parts generalizing place with
  | nil => cases stops.here
  | cons head rest induction =>
      rw [List.findSome?_cons]
      rcases stops.cases_cons with rfl | ⟨passes, _, later⟩
      · rw [stops.stops]
      · rw [passes]
        exact induction later

theorem eq_of_split {earlier later : List Node} {stop : Node} {other : EstimateFault}
    (stops : StopsFirst store (earlier ++ stop :: later) place part fault)
    (passes : ∀ before ∈ earlier, store.stop? before = none)
    (fails : store.stop? stop = some other) : stop = part := by
  induction earlier generalizing place with
  | nil =>
      rcases stops.cases_cons with same | ⟨passed, -⟩
      · exact same
      · rw [fails] at passed
        cases passed
  | cons head rest induction =>
      rw [List.forall_mem_cons] at passes
      rcases stops.cases_cons with rfl | ⟨-, _, later⟩
      · rw [stops.stops] at passes
        cases passes.1
      · exact induction later passes.2

/-- The inputs of the first part that nothing comes of mean something, and its operator stops. -/
theorem stopsAt (wellFormed : store.WellFormed) (stored : store.node? node.ref = some node)
    (unknown : store.output? node.ref = none)
    (rules : ∀ part ∈ store.parts node, part.operator.hasRule = true)
    (stops : StopsFirst store (store.parts node) place part fault) : StopsAt store part fault := by
  have runs := (Sound.refl wellFormed).estimateNode wellFormed node stored unknown
  have here := fun part member => (wellFormed.of_mem_parts node stored part member).1
  cases runs.course with
  | complete quiet known =>
      rw [wellFormed.estimateNode_fault stored unknown, stops.findSome?_eq] at quiet
      cases quiet
  | stopped earlier later stop other order known ready failed told =>
      have passes : ∀ before ∈ earlier, store.stop? before = none := by
        intro before member
        have within : before ∈ store.parts node := by
          rw [order]
          exact List.mem_append_left _ member
        exact runs.sound.stop?_eq_none (here before within)
          (unknown_of_mem_parts node before within) (known before member)
      have member : stop ∈ store.parts node := by
        rw [order]
        exact List.mem_append_right _ List.mem_cons_self
      have first := stops
      rw [order] at first
      cases first.eq_of_split passes (stop?_eq_some_iff.mpr failed)
      cases stop?_eq_some_iff.mpr failed ▸ stops.stops
      refine runs.sound.stopsAt wellFormed (here _ member) (rules _ member)
        (fun input below unknown => ?_) ready failed
      exact rules input (mem_parts_of_mem_children node member below unknown)

end StopsFirst

end Store

namespace Session

/-- What the estimation of a node leads to: a relation that the node puts out from now on, or a
fault. -/
inductive Yields (session : Session) (ref : NodeRef) (verbose : Bool) :
    Except EstimateFault Relation → Prop where
  | output {output : RelationRef} {relation : Relation}
      (result : (session.perform (.estimate ref verbose)).2.result = .ok (.relation output))
      (said : (session.perform (.estimate ref verbose)).1.store.output? ref = some output)
      (now : (session.perform (.estimate ref verbose)).1.store.relation output = relation) :
      Yields session ref verbose (.ok relation)
  | fault {fault : EstimateFault}
      (result : (session.perform (.estimate ref verbose)).2.result = .error (.estimate fault)) :
      Yields session ref verbose (.error fault)

variable {session : Session} {node : Node}

/-- If an estimation stops below its node, it leads to the fault of the first part that stops it. -/
theorem yields_fault (wellFormed : session.store.WellFormed)
    (stored : session.store.node? node.ref = some node)
    (unknown : session.store.output? node.ref = none) (verbose : Bool) {fault : EstimateFault}
    (stops : (session.store.parts node).findSome? session.store.stop? = some fault) :
    session.Yields node.ref verbose (.error fault) := by
  rw [← wellFormed.estimateNode_fault stored unknown] at stops
  exact .fault (perform_estimate_error stored unknown stops)

/-- If an estimation does not stop below its node, it leads to what comes of the node. -/
theorem yields_verdict (wellFormed : session.store.WellFormed)
    (stored : session.store.node? node.ref = some node)
    (unknown : session.store.output? node.ref = none) (verbose : Bool)
    (passes : ∀ part ∈ session.store.partsOfAll node.children, session.store.stop? part = none) :
    session.Yields node.ref verbose (session.store.verdict node) := by
  have order : session.store.parts node = session.store.partsOfAll node.children ++ [node] := by
    cases node with
    | node placed inputs => exact Store.parts_of_pending unknown
  have below := List.findSome?_eq_none_iff.mpr passes
  have ends : (session.store.parts node).findSome? session.store.stop? =
      session.store.stop? node := by
    rw [order, List.findSome?_append, below, Option.none_or, List.findSome?_singleton]
  cases told : session.store.verdict node with
  | error fault =>
      apply yields_fault wellFormed stored unknown verbose
      rw [ends, Store.stop?_eq_some_iff, told]
  | ok output =>
      have runs := (Store.Sound.refl wellFormed).estimateNode wellFormed node stored unknown
      have quiet : (session.store.estimateNode node).fault = none := by
        rw [wellFormed.estimateNode_fault stored unknown, ends, Store.stop?_eq_none_iff]
        exact ⟨output, told⟩
      obtain ⟨ref, said⟩ := runs.known quiet node (Store.mem_parts_self unknown)
      have same := runs.sound.told node ref stored unknown said
      rw [told, Except.ok.injEq] at same
      refine .output (perform_estimate_ok stored unknown quiet said) ?_ ?_
      · rw [perform_estimate_store stored unknown, said]
      · rw [perform_estimate_store stored unknown, same]

end Session

end Selectivity

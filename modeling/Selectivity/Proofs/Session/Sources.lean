import Selectivity.Proofs.Estimation.Sources
import Selectivity.Proofs.Session.JoinLines

/-!
# Estimates and base relations in a session

In a reachable session every estimate of a plan stays within the statistics of the relations that
the plan scans: no attribute gets a name or a number of values that no base relation has, and no
node has more tuples than there are combinations of tuples of the scanned relations.
-/

namespace Selectivity.Session

/-- When a plan without outputs has been estimated, each of its nodes keeps within the base relations
that are scanned below the node: every attribute is called like one of theirs and has at least one
value and at most as many as the largest attribute of that name, and the tuples are at most the
product of the tuples of all scans, if none of these is empty. -/
theorem estimates_keep_within_bases {session : Session} (reachable : session.Reachable)
    {node : Node} (stored : session.store.node? node.ref = some node)
    (unknown : ∀ placed ∈ node.preorder, session.store.output? placed.ref = none)
    (requests : List (NodeRef × Bool))
    (estimated : (session.run (estimates requests)).store.Knows node) :
    let after := (session.run (estimates requests)).store
    ∀ placed ∈ node.preorder, ∃ part output,
      session.store.node? placed.ref = some part ∧
      after.outputRelation? placed.ref = some output ∧
      let bases := (session.store.plan part).bases
      (∀ column ∈ output.attributes,
        (∃ base ∈ bases, column.name ∈ base.attributeNames) ∧
          1 ≤ column.valueCount ∧ column.valueCount ≤ largestCount bases column.name) ∧
      ((∀ base ∈ bases, 0 < base.tupleCount) →
        output.tupleCount ≤ (bases.map Relation.tupleCount).prod) := by
  have wellFormed := reachable.store_wellFormed
  have sound := run_estimates_sound wellFormed (.refl wellFormed) requests
  have grew : Query.Grew session.store (session.run (estimates requests)).store node :=
    ⟨stored, unknown, estimated⟩
  intro after placed member
  obtain ⟨part, place, grown⟩ := grew.of_mem_preorder wellFormed sound node placed member
  obtain ⟨output, shown, within⟩ := grown.keepsWithin wellFormed sound part
  rw [← place]
  refine ⟨part, output, grown.stored, shown, ?_, within.tupleCount⟩
  intro column found
  obtain ⟨named, fewer⟩ := (within.counts column found).le_largestCount
  exact ⟨named, column.valueCount_pos, fewer⟩

/-- A selection from the product of two relations, one of them scanned for both ends. It raises the
count of an attribute, because an earlier one of the same name has more values. -/
def raisedCount : Session :=
  initial.run [.makeAttribute "a" 2, .makeRelation 6 [⟨0⟩], .makeAttribute "a" 1,
    .makeAttribute "b" 3, .makeRelation 5 [⟨1⟩, ⟨2⟩], .scan "R" ⟨0⟩, .scan "S" ⟨1⟩,
    .product [⟨0⟩, ⟨1⟩, ⟨0⟩], .select ⟨2⟩ (some (.equalsAttribute ⟨"a", "b"⟩))]

theorem raisedCount_keeps_within :
    let after := (raisedCount.run (estimates [(⟨3⟩, false)])).store
    raisedCount.Reachable ∧ ∃ output, after.outputRelation? ⟨3⟩ = some output ∧
      output.tupleCount ≤ 6 * (5 * 6) ∧
      ∀ column ∈ output.attributes, column.name = "a" → column.valueCount ≤ 2 := by
  intro after
  have reachable : raisedCount.Reachable := reachable_run _
  let scan : Node := .node ⟨⟨0⟩, .scan "R" ⟨0⟩⟩ []
  let node : Node := .node ⟨⟨3⟩, .select (some (.equalsAttribute ⟨"a", "b"⟩))⟩
    [.node ⟨⟨2⟩, .product⟩ [scan, .node ⟨⟨1⟩, .scan "S" ⟨1⟩⟩ [], scan]]
  have stored : raisedCount.store.node? node.ref = some node := by decide +kernel
  have estimated : after.Knows node := Option.isSome_iff_exists.mp (by decide +kernel)
  obtain ⟨part, output, here, shown, counts, tuples⟩ := estimates_keep_within_bases reachable
    stored (by decide +kernel) [(⟨3⟩, false)] estimated node.label (by decide +kernel)
  cases stored.symm.trans here
  have sizes : ((raisedCount.store.plan node).bases.map Relation.tupleCount).prod = 6 * (5 * 6) := by
    decide +kernel
  have largest : largestCount (raisedCount.store.plan node).bases "a" = 2 := by decide +kernel
  refine ⟨reachable, output, shown, ?_, fun column member named => ?_⟩
  · rw [← sizes]
    exact tuples (by decide +kernel)
  · rw [← largest, ← named]
    exact (counts column member).2.2

end Selectivity.Session

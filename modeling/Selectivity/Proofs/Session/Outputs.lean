import Selectivity.Proofs.Session.Counts
import Selectivity.Proofs.Session.Isolation

/-!
# Outputs are said once

Once it is known what a node puts out, this stays the same relation, whatever is done in the
session: to estimate the node again or to say its output again is refused, and no other operation
touches the output of a node that has one. A refusal of this kind is always about the node that was
asked for. In estimating it, no node below is met a second time, however many others share it.
-/

namespace Selectivity

/-- Is an operation refused because the output of a node is known already? -/
def Fault.isState : Fault → Bool
  | .outputKnown _ => true
  | .alreadyEstimated _ => true
  | _ => false

/-- Has a check failed because the output of a node is known already? -/
def CheckFault.isState : CheckFault → Bool
  | .alreadyEstimated _ => true
  | .outputKnown _ => true
  | _ => false

/-- The operation was refused because the output of a node is known already. -/
def Report.Clashes (report : Report) : Prop :=
  ∃ fault, report.result = .error fault ∧ fault.isState = true

namespace Store

/-- Every node is what it was, with the nodes below it and what it does to them, and an output that
was known is the same relation. -/
structure Retains (before after : Store) : Prop where
  nodes : ∀ ref node, before.node? ref = some node → after.node? ref = some node
  outputs : ∀ ref output, before.output? ref = some output → after.output? ref = some output

namespace Retains

theorem refl (store : Store) : store.Retains store :=
  ⟨fun _ _ found => found, fun _ _ found => found⟩

theorem trans {first second third : Store} (earlier : first.Retains second)
    (later : second.Retains third) : first.Retains third :=
  ⟨fun ref node found => later.nodes ref node (earlier.nodes ref node found),
    fun ref output found => later.outputs ref output (earlier.outputs ref output found)⟩

end Retains

theorem Extends.retains {before after : Store} (extension : Extends before after) :
    before.Retains after :=
  ⟨extension.nodes, extension.outputs⟩

variable {store : Store} {node : Node}

/-- The estimation with checks refuses a node whose output is known before it does anything. -/
theorem checkedNode_of_known (known : store.Knows node) :
    store.checkedNode node = ⟨store, [], some (.alreadyEstimated node.caption)⟩ := by
  obtain ⟨output, said⟩ := known
  cases node with
  | node placed inputs =>
      have present : (store.output? placed.ref).isSome = true := by
        rw [show store.output? placed.ref = some output from said]
        rfl
      rw [checkedNode, if_pos present]
      rfl

/-- The estimation with checks meets a node whose output is known exactly if the node that it starts
from is one. -/
theorem WellFormed.checkedNode_isState (wellFormed : store.WellFormed)
    (stored : store.node? node.ref = some node) :
    (∃ fault, (store.checkedNode node).fault = some fault ∧ fault.isState = true) ↔
      store.Knows node := by
  constructor
  · rintro ⟨fault, failed, state⟩
    cases said : store.output? node.ref with
    | some output => exact ⟨output, said⟩
    | none =>
        rw [wellFormed.checkedNode_eq stored said] at failed
        obtain ⟨cause, -, rfl⟩ := Option.map_eq_some_iff.mp failed
        cases state
  · intro known
    rw [checkedNode_of_known known]
    exact ⟨_, rfl, rfl⟩

end Store

namespace Session

variable {session : Session}

theorem ifKnown_retains {Found : Type} {found : Option Found} {go : Found → Session × Report}
    (retains : ∀ value, found = some value → session.store.Retains (go value).1.store) :
    session.store.Retains (session.ifKnown found go).1.store := by
  cases found with
  | none => exact .refl _
  | some value => exact retains value rfl

theorem keepAttribute_retains (made : Except StatisticFault Attribute) :
    session.store.Retains (session.keepAttribute made).1.store := by
  cases made with
  | error fault => exact .refl _
  | ok column => exact (Store.extends_addAttribute _ column).retains

theorem keepNode_retains (operator : Operator RelationRef) (inputs : List Node) :
    session.store.Retains (session.keepNode operator inputs).1.store :=
  (Store.extends_addNode _ operator inputs).retains

theorem keepStatistics_retains (read : Except CatalogFault (Catalog Relation)) :
    session.store.Retains (session.keepStatistics read).1.store := by
  cases read with
  | error fault => exact .refl _
  | ok catalog =>
      exact ((Store.extends_addEntries _ _).trans (Store.extends_addCatalog _ _)).retains

theorem compile_retains (wellFormed : session.store.WellFormed) {ref : CatalogRef}
    {catalog : Catalog RelationRef} (known : session.store.catalog? ref = some catalog)
    (strict verbose : Bool) (input : Query.Input) :
    session.store.Retains (session.compile catalog strict verbose input).1.store := by
  cases outcome : (Query.compile catalog.lookup? strict input.characters).outcome with
  | error fault =>
      rw [(compile_error outcome).1]
      exact .refl _
  | ok plan =>
      have bases := holds_of_compile wellFormed known outcome
      rw [(compile_ok outcome).1]
      exact (Query.assemble_made plan wellFormed bases).1.grown.extension.retains

theorem setOutput_retains (node : Node) (output : RelationRef) :
    session.store.Retains (session.setOutput node output).1.store := by
  rw [setOutput]
  split
  · exact .refl _
  · next pending =>
      have unknown := Option.not_isSome_iff_eq_none.mp pending
      exact (Store.extends_setOutput _ output unknown).retains

theorem estimate_retains (wellFormed : session.store.WellFormed) {node : Node}
    (stored : session.store.node? node.ref = some node) (verbose : Bool) :
    session.store.Retains (session.estimate node verbose).1.store := by
  rw [estimate]
  split
  · exact .refl _
  · next pending =>
      have unknown := Option.not_isSome_iff_eq_none.mp pending
      have runs := (Store.Sound.refl wellFormed).estimateNode wellFormed node stored unknown
      exact runs.extension.retains

/-- No operation changes a node or an output that is known. -/
theorem perform_retains (wellFormed : session.store.WellFormed) (operation : Operation) :
    session.store.Retains (session.perform operation).1.store := by
  cases operation with
  | makeAttribute name count => exact keepAttribute_retains _
  | copyAttribute ref => exact ifKnown_retains fun _ _ => keepAttribute_retains _
  | recountAttribute ref count => exact ifKnown_retains fun _ _ => keepAttribute_retains _
  | assignCount ref count =>
      refine ifKnown_retains fun column _ => ?_
      rw [assignCount]
      split
      · exact .refl _
      · exact ⟨fun _ _ found => found, fun _ _ found => found⟩
  | makeRelation tupleCount refs =>
      refine ifKnown_retains fun columns _ => ?_
      rw [makeRelation]
      split
      · exact .refl _
      · exact (Store.extends_addCell _ _).retains
  | appendAttribute ref column =>
      exact ifKnown_retains fun _ _ => ifKnown_retains fun _ _ =>
        ⟨fun _ _ found => found, fun _ _ found => found⟩
  | copyRelation ref =>
      exact ifKnown_retains fun _ _ => (Store.extends_addRelation _ _).retains
  | scan name base => exact ifKnown_retains fun _ _ => keepNode_retains _ _
  | project input attributes => exact ifKnown_retains fun _ _ => keepNode_retains _ _
  | select input condition => exact ifKnown_retains fun _ _ => keepNode_retains _ _
  | product inputs =>
      refine ifKnown_retains fun nodes _ => ?_
      split
      · exact .refl _
      · exact keepNode_retains _ _
  | join left right condition =>
      refine ifKnown_retains fun first _ => ifKnown_retains fun second _ => ?_
      rcases condition with - | ⟨column, value⟩ | comparison
      · exact .refl _
      · exact .refl _
      · exact keepNode_retains _ _
  | «foreign» kind inputs => exact ifKnown_retains fun _ _ => keepNode_retains _ _
  | setOutput ref output =>
      exact ifKnown_retains fun node _ => ifKnown_retains fun _ _ => setOutput_retains node output
  | estimate ref verbose =>
      exact ifKnown_retains fun node found =>
        estimate_retains wellFormed (node?_ref wellFormed found) verbose
  | makeCatalog entries =>
      exact ifKnown_retains fun _ _ => (Store.extends_addCatalog _ _).retains
  | addToCatalog ref name relation =>
      exact ifKnown_retains fun _ _ => ifKnown_retains fun _ _ =>
        ⟨fun _ _ found => found, fun _ _ found => found⟩
  | importFrame columns frame => exact keepStatistics_retains _
  | loadCatalog format files path => exact keepStatistics_retains _
  | compile compiler input =>
      exact ifKnown_retains fun _ known => compile_retains wellFormed known _ _ input
  | setStrict value => exact .refl _

theorem run_retains (wellFormed : session.store.WellFormed) (operations : List Operation) :
    session.store.Retains (session.run operations).store := by
  induction operations generalizing session with
  | nil => exact .refl _
  | cons operation rest induction =>
      have first := perform_retains wellFormed operation
      exact first.trans (induction (perform_wellFormed wellFormed operation))

variable {ref : NodeRef} {node : Node}

theorem perform_estimate_known (stored : session.store.node? ref = some node)
    (known : session.store.Knows node) (verbose : Bool) :
    session.perform (.estimate ref verbose) =
      (session, .failure (.alreadyEstimated node.caption)) := by
  obtain ⟨output, said⟩ := known
  simp only [perform, stored, ifKnown, estimate, said, Option.isSome_some, if_true, refuse]

/-- The operation that estimates a node is refused because an output is known exactly if it is that
of the node itself. -/
theorem perform_estimate_clashes (wellFormed : session.store.WellFormed)
    (stored : session.store.node? ref = some node) (verbose : Bool) :
    (session.perform (.estimate ref verbose)).2.Clashes ↔ session.store.Knows node := by
  constructor
  · rintro ⟨fault, failed, state⟩
    cases said : session.store.output? node.ref with
    | some output => exact ⟨output, said⟩
    | none =>
        obtain ⟨-, result⟩ := perform_estimate_checked wellFormed stored said verbose
        obtain ⟨cause, rfl, -⟩ := (result fault).mp failed
        cases state
  · intro known
    rw [perform_estimate_known stored known verbose]
    exact ⟨_, rfl, rfl⟩

variable {output : RelationRef}

theorem perform_setOutput_known (stored : session.store.node? ref = some node)
    (held : session.store.Holds output) (known : session.store.Knows node) :
    session.perform (.setOutput ref output) =
      (session, .failure (.outputKnown node.caption)) := by
  obtain ⟨cell, found⟩ := held
  obtain ⟨before, said⟩ := known
  simp only [perform, stored, found, ifKnown, setOutput, said, Option.isSome_some, if_true, refuse]

theorem perform_setOutput_unknown (stored : session.store.node? ref = some node)
    (held : session.store.Holds output) (unknown : session.store.output? node.ref = none) :
    session.perform (.setOutput ref output) =
      session.done (session.store.setOutput node.ref output) (.node node.ref) := by
  obtain ⟨cell, found⟩ := held
  simp only [perform, stored, found, ifKnown, setOutput, unknown, Option.isSome_none,
    Bool.false_eq_true, if_false]

/-- The operation that says the output of a node is refused because it is known exactly if it is. -/
theorem perform_setOutput_clashes (stored : session.store.node? ref = some node)
    (held : session.store.Holds output) :
    (session.perform (.setOutput ref output)).2.Clashes ↔ session.store.Knows node := by
  constructor
  · rintro ⟨fault, failed, -⟩
    cases said : session.store.output? node.ref with
    | some before => exact ⟨before, said⟩
    | none =>
        rw [perform_setOutput_unknown stored held said] at failed
        cases failed
  · intro known
    rw [perform_setOutput_known stored held known]
    exact ⟨_, rfl, rfl⟩

/-- Whatever is done in a session, the nodes stay what they are, and what is known to be put out by
one of them stays that relation. To estimate a node is refused because an output is known exactly if
its own is known. This is so with checks at every step of the estimation as well, which otherwise
leave the same. To say the output of a node is refused for this reason exactly if it is known. Such
a refusal changes nothing and leaves the log empty. -/
theorem outputs_are_said_once {session : Session} (reachable : session.Reachable) :
    (∀ operations, session.store.Retains (session.run operations).store) ∧
      (∀ ref node verbose, session.store.node? ref = some node →
        let step := session.perform (.estimate ref verbose)
        (step.2.Clashes ↔ session.store.Knows node) ∧
          ((∃ fault, (session.store.checkedNode node).fault = some fault ∧
              fault.isState = true) ↔ session.store.Knows node) ∧
          (session.store.output? ref = none →
            step.1.store = (session.store.checkedNode node).store) ∧
          (session.store.Knows node →
            step = (session, ⟨.error (.alreadyEstimated node.caption), [], []⟩))) ∧
      ∀ ref node output, session.store.node? ref = some node → session.store.Holds output →
        let step := session.perform (.setOutput ref output)
        (step.2.Clashes ↔ session.store.Knows node) ∧
          (session.store.Knows node →
            step = (session, ⟨.error (.outputKnown node.caption), [], []⟩)) ∧
          (session.store.output? ref = none →
            step.2 = .success (.node ref) ∧ step.1.store.output? ref = some output) := by
  have wellFormed := reachable.store_wellFormed
  refine ⟨run_retains wellFormed, ?_, ?_⟩
  · intro ref node verbose stored
    have place : node.ref = ref := (wellFormed.nodes ref node stored).here
    subst place
    refine ⟨perform_estimate_clashes wellFormed stored verbose,
      wellFormed.checkedNode_isState stored, fun unknown => ?_,
      fun known => perform_estimate_known stored known verbose⟩
    exact (perform_estimate_checked wellFormed stored unknown verbose).1
  · intro ref node output stored held
    have place : node.ref = ref := (wellFormed.nodes ref node stored).here
    subst place
    refine ⟨perform_setOutput_clashes stored held, perform_setOutput_known stored held,
      fun unknown => ?_⟩
    rw [perform_setOutput_unknown stored held unknown]
    exact ⟨rfl, Store.output?_setOutput_self _ output stored⟩

/-- The product of a scan with itself has been estimated, and a selection from it has not. -/
def sharedProduct : Session :=
  sharedScan.run [.estimate ⟨1⟩ false]

/-- The selection can be estimated although all nodes below it have their outputs, and that of the
scan is no other one afterwards. The product cannot be estimated again, and the output of the scan
cannot be said again. -/
theorem sharedProduct_said_once :
    sharedProduct.Reachable ∧
      (∃ output, sharedProduct.store.output? ⟨0⟩ = some output ∧
        (sharedProduct.run [.estimate ⟨2⟩ true, .appendAttribute output ⟨0⟩]).store.output? ⟨0⟩ =
          some output) ∧
      ¬ (sharedProduct.perform (.estimate ⟨2⟩ true)).2.Clashes ∧
      sharedProduct.perform (.estimate ⟨1⟩ true) =
        (sharedProduct, ⟨.error (.alreadyEstimated "⨯"), [], []⟩) ∧
      sharedProduct.perform (.setOutput ⟨0⟩ ⟨0⟩) =
        (sharedProduct, ⟨.error (.outputKnown "R"), [], []⟩) := by
  have early : sharedScan.Reachable := reachable_run _
  have reachable : sharedProduct.Reachable := early.perform _
  have nodes := ((outputs_are_said_once early).1 [.estimate ⟨1⟩ false]).nodes
  obtain ⟨stays, estimates, sets⟩ := outputs_are_said_once reachable
  have scan : sharedProduct.store.output? ⟨0⟩ = some ⟨1⟩ := by decide +kernel
  have product : sharedProduct.store.output? ⟨1⟩ = some ⟨2⟩ := by decide +kernel
  have selection : sharedProduct.store.output? ⟨2⟩ = none := by decide +kernel
  have base : sharedProduct.store.Holds ⟨0⟩ := Option.isSome_iff_exists.mp (by decide +kernel)
  have kept := (stays [.estimate ⟨2⟩ true, .appendAttribute ⟨1⟩ ⟨0⟩]).outputs _ _ scan
  refine ⟨reachable, ⟨⟨1⟩, scan, kept⟩, fun clashes => ?_, ?_, ?_⟩
  · obtain ⟨output, said⟩ := (estimates ⟨2⟩ sharedSelection true (nodes _ _ rfl)).1.mp clashes
    cases selection.symm.trans said
  · exact (estimates ⟨1⟩ _ true (nodes _ _ rfl)).2.2.2 ⟨_, product⟩
  · exact (sets ⟨0⟩ _ ⟨0⟩ (nodes _ _ rfl) base).2.1 ⟨_, scan⟩

end Session

end Selectivity

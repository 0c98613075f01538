import Selectivity.Proofs.Catalog.Counts
import Selectivity.Proofs.Estimation.Agreement
import Selectivity.Proofs.Estimation.Checks

/-!
# Counts in a session

Counts come into a session from outside only where they are offered to a check. A count out of
bounds is refused, and the session stays as it was; any other count is kept as it was offered. As
no count in the store is out of bounds, an estimation needs no checks of its own. All of this is
about whole numbers: a session to which a document has brought other counts is left out.
-/

namespace Selectivity

/-- The statistic that an operation refuses, if it is refused for a whole number. -/
def Fault.statistic? : Fault → Option StatisticFault
  | .statistic refused => some refused
  | .catalog (.statistic .notWhole) => none
  | .catalog (.statistic refused) => some refused
  | _ => none

/-- The counts that an operation brings from outside are whole numbers. -/
def Operation.BringsWhole : Operation → Prop
  | .loadCatalog format files path =>
      Catalog.ofFile format files path ≠ .error (.statistic .notWhole)
  | _ => True

/-- The count of a stored attribute or relation. -/
def Store.count? (store : Store) : Outcome → Option Int
  | .attribute ref => (store.attribute? ref).map fun column => column.valueCount
  | .relation ref => (store.cell? ref).map fun cell => cell.tupleCount
  | _ => none

namespace Session

/-- Some sequence of operations that bring whole numbers only leads to the session. -/
def ReachableByWhole (session : Session) : Prop :=
  ∃ operations : List Operation, (∀ operation ∈ operations, operation.BringsWhole) ∧
    initial.run operations = session

theorem ReachableByWhole.reachable {session : Session} (reachable : session.ReachableByWhole) :
    session.Reachable := by
  obtain ⟨operations, -, leads⟩ := reachable
  exact ⟨operations, leads⟩

/-- A step from a session is refused in good order: the session stays as it was, unless the step is
an estimation, and a statistic is refused only for a count that is out of bounds. -/
structure Orderly (session : Session) (step : Session × Report) : Prop where
  unchanged : ∀ fault, step.2.result = .error fault → (∀ cause, fault ≠ .estimate cause) →
    step.1 = session
  genuine : ∀ fault refused, step.2.result = .error fault → fault.statistic? = some refused →
    refused.Genuine

namespace Orderly

variable {session : Session}

theorem done {store : Store} {outcome : Outcome} :
    session.Orderly (session.done store outcome) :=
  ⟨nofun, nofun⟩

/-- A step that does not touch the session may be refused for anything but a false reason. -/
theorem of_kept {report : Report} (genuine : ∀ fault refused, report.result = .error fault →
    fault.statistic? = some refused → refused.Genuine) : session.Orderly (session, report) :=
  ⟨fun _ _ _ => rfl, genuine⟩

theorem refuse {fault : Fault} (other : fault.statistic? = none) :
    session.Orderly (session.refuse fault) := by
  refine of_kept fun told refused same statistic => ?_
  cases same
  rw [other] at statistic
  cases statistic

theorem refuseStatistic {refused : StatisticFault} (genuine : refused.Genuine) :
    session.Orderly (session.refuse (.statistic refused)) := by
  refine of_kept fun told other same statistic => ?_
  cases same
  cases statistic
  exact genuine

theorem ifKnown {Found : Type} {found : Option Found} {go : Found → Session × Report}
    (orderly : ∀ value, session.Orderly (go value)) :
    session.Orderly (session.ifKnown found go) := by
  cases found with
  | none => exact refuse rfl
  | some value => exact orderly value

theorem keepAttribute {made : Except StatisticFault Attribute}
    (genuine : ∀ refused, made = .error refused → refused.Genuine) :
    session.Orderly (session.keepAttribute made) := by
  cases made with
  | error refused => exact refuseStatistic (genuine refused rfl)
  | ok column => exact done

theorem keepStatistics {read : Except CatalogFault (Catalog Relation)} (honest : Honest read) :
    session.Orderly (session.keepStatistics read) := by
  cases read with
  | error fault =>
      refine of_kept fun told refused same statistic => ?_
      cases same
      rw [Fault.statistic?.eq_def] at statistic
      split at statistic
      · next same => cases same
      · cases statistic
      · next whole same =>
          cases same
          cases statistic
          exact honest refused rfl whole
      · cases statistic
  | ok catalog => exact done

theorem compile {catalog : Catalog RelationRef} {strict verbose : Bool} {input : Query.Input} :
    session.Orderly (session.compile catalog strict verbose input) := by
  cases outcome : (Query.compile catalog.lookup? strict input.characters).outcome with
  | error fault =>
      obtain ⟨kept, told⟩ : (session.compile catalog strict verbose input).1 = session ∧
          (session.compile catalog strict verbose input).2.result = .error (.query fault) :=
        compile_error outcome
      refine ⟨fun _ _ _ => kept, fun other refused same statistic => ?_⟩
      rw [told] at same
      cases same
      cases statistic
  | ok plan =>
      have told : (session.compile catalog strict verbose input).2.result =
          .ok (.node (plan.assemble Store.addNode session.store).2.ref) := (compile_ok outcome).2
      refine ⟨fun fault same => ?_, fun fault _ same => ?_⟩
      · rw [told] at same
        cases same
      · rw [told] at same
        cases same

theorem estimate {node : Node} {verbose : Bool} :
    session.Orderly (session.estimate node verbose) := by
  unfold Session.estimate
  split
  · exact refuse rfl
  · refine ⟨fun fault same other => ?_, fun fault refused same statistic => ?_⟩
    · simp only at same
      split at same
      · cases same
        exact absurd rfl (other _)
      · cases same
      · cases same
    · simp only at same
      split at same
      · cases same
        cases statistic
      · cases same
      · cases same

end Orderly

/-- Every operation is refused in good order. -/
theorem perform_orderly (session : Session) (operation : Operation) :
    session.Orderly (session.perform operation) := by
  cases operation with
  | makeAttribute name count =>
      exact .keepAttribute fun _ failed => Attribute.genuine_of_ofCount failed
  | copyAttribute ref => exact .ifKnown fun _ => .keepAttribute nofun
  | recountAttribute ref count =>
      exact .ifKnown fun _ => .keepAttribute fun _ failed => Attribute.genuine_of_ofCount failed
  | assignCount ref count =>
      refine .ifKnown fun column => ?_
      unfold assignCount
      split
      · next failed => exact .refuseStatistic (Attribute.genuine_of_ofCount failed)
      · exact .done
  | makeRelation tupleCount refs =>
      refine .ifKnown fun columns => ?_
      unfold makeRelation
      split
      · next failed => exact .refuseStatistic (genuine_of_tupleCountOf failed)
      · exact .done
  | appendAttribute ref column => exact .ifKnown fun _ => .ifKnown fun _ => .done
  | copyRelation ref => exact .ifKnown fun _ => .done
  | scan name base => exact .ifKnown fun _ => .done
  | project input attributes => exact .ifKnown fun _ => .done
  | select input condition => exact .ifKnown fun _ => .done
  | product inputs =>
      refine .ifKnown fun nodes => ?_
      split
      · exact .refuse rfl
      · exact .done
  | join left right condition =>
      refine .ifKnown fun first => .ifKnown fun second => ?_
      rcases condition with - | ⟨column, value⟩ | comparison
      · exact .refuse rfl
      · exact .refuse rfl
      · exact .done
  | «foreign» kind inputs => exact .ifKnown fun _ => .done
  | setOutput ref output =>
      refine .ifKnown fun node => .ifKnown fun _ => ?_
      unfold setOutput
      split
      · exact .refuse rfl
      · exact .done
  | estimate ref verbose => exact .ifKnown fun _ => .estimate
  | makeCatalog entries => exact .ifKnown fun _ => .done
  | addToCatalog ref name relation => exact .ifKnown fun _ => .ifKnown fun _ => .done
  | importFrame columns frame => exact .keepStatistics (Catalog.ofFrame_honest columns frame)
  | loadCatalog format files path =>
      exact .keepStatistics (Catalog.ofFile_honest format files path)
  | compile compiler input => exact .ifKnown fun _ => .compile
  | setStrict value => exact ⟨nofun, nofun⟩

/-- An operation offers a count to a check: the count, the least one that is accepted, and the
refusal of a lower one. -/
inductive Offers (session : Session) : Operation → Int → Int → StatisticFault → Prop where
  | made (name : Label) (count : Int) :
      Offers session (.makeAttribute name count) count 1 (.valueCountBelowOne name count)
  | recounted {ref : AttributeRef} {column : Attribute}
      (found : session.store.attribute? ref = some column) (count : Int) :
      Offers session (.recountAttribute ref count) count 1
        (.valueCountBelowOne column.name count)
  | assigned {ref : AttributeRef} {column : Attribute}
      (found : session.store.attribute? ref = some column) (count : Int) :
      Offers session (.assignCount ref count) count 1 (.valueCountBelowOne column.name count)
  | related {refs : List AttributeRef} {columns : List Attribute}
      (found : refs.mapM session.store.attribute? = some columns) (tupleCount : Int) :
      Offers session (.makeRelation tupleCount refs) tupleCount 0
        (.negativeTupleCount tupleCount)

/-- How a step settles an offered count. A count below the least one is refused, and the refusal
tells the count unless it has too many digits to be written. Any other count is what the attribute
or relation has afterwards. -/
inductive Settles (step : Session × Report) (count least : Int) (refused : StatisticFault) :
    Prop where
  | refused (low : count < least) (short : Text.exceedsDigits count.natAbs = false)
      (told : step.2.result = .error (.statistic refused))
  | untold (low : count < least) (tooLong : Text.exceedsDigits count.natAbs = true)
      (told : step.2.result = .error (.statistic (.unwritable count)))
  | kept (enough : least ≤ count) {outcome : Outcome} (made : step.2.result = .ok outcome)
      (stored : step.1.store.count? outcome = some count)

theorem Settles.of_refusal {step : Session × Report} {count least : Int}
    {refused : StatisticFault} (low : count < least)
    (told : step.2.result = .error (.statistic (.ofRefusal count refused))) :
    Settles step count least refused := by
  rw [StatisticFault.ofRefusal] at told
  split at told
  · next tooLong => exact .untold low tooLong told
  · next short => exact .refused low (eq_false_of_ne_true short) told

theorem keepAttribute_settles (session : Session) (name : Label) (count : Int) :
    Settles (session.keepAttribute (Attribute.ofCount name count)) count 1
      (.valueCountBelowOne name count) := by
  rcases Attribute.ofCount_cases name count with
    ⟨tooSmall, told⟩ | ⟨enough, column, told, -, kept⟩
  · exact .of_refusal tooSmall (by rw [told]; rfl)
  · refine .kept enough
      (by rw [told]; rfl) ?_
    have stored := Store.attribute?_addAttribute session.store column
    rw [told, ← kept]
    exact congrArg (Option.map _) stored

theorem assignCount_settles (session : Session) {ref : AttributeRef} {column : Attribute}
    (found : session.store.attribute? ref = some column) (count : Int) :
    Settles (session.assignCount ref column count) count 1
      (.valueCountBelowOne column.name count) := by
  rcases Attribute.ofCount_cases column.name count with
    ⟨tooSmall, told⟩ | ⟨enough, changed, told, -, kept⟩
  · exact .of_refusal tooSmall (by rw [assignCount, told]; rfl)
  · refine .kept enough (by rw [assignCount, told]; rfl) ?_
    obtain ⟨inside, -⟩ := Array.getElem?_eq_some_iff.mp found
    have stored : (session.store.replaceAttribute ref changed).attribute? ref = some changed :=
      Array.getElem?_setIfInBounds_self_of_lt inside
    rw [assignCount, told, ← kept]
    exact congrArg (Option.map _) stored

theorem makeRelation_settles (session : Session) (tupleCount : Int) (refs : List AttributeRef) :
    Settles (session.makeRelation tupleCount refs) tupleCount 0
      (.negativeTupleCount tupleCount) := by
  rcases tupleCountOf_cases tupleCount with ⟨negative, told⟩ | ⟨enough, count, told, kept⟩
  · exact .of_refusal negative (by rw [makeRelation, told]; rfl)
  · refine .kept enough
      (by rw [makeRelation, told]; rfl) ?_
    have stored := Store.cell?_addCell session.store ⟨count, refs⟩
    rw [makeRelation, told, ← kept]
    exact congrArg (Option.map _) stored

theorem Offers.settles {session : Session} {operation : Operation} {count least : Int}
    {refused : StatisticFault} (offers : session.Offers operation count least refused) :
    Settles (session.perform operation) count least refused := by
  cases offers with
  | made name => exact keepAttribute_settles session name count
  | recounted found =>
      rw [perform, found]
      exact keepAttribute_settles session _ count
  | assigned found =>
      rw [perform, found]
      exact assignCount_settles session found count
  | related found =>
      rw [perform, found]
      exact makeRelation_settles session count _

end Session

namespace Store

variable {store : Store}

/-- What may end an estimation of a node: attributes are missing, or what one of the parts means
cannot be told, or a part has an input whose output was known before and cannot be written. -/
inductive MayEndWith (store : Store) (node : Node) : CheckFault → Prop where
  | missing (missing : MissingAttribute) :
      MayEndWith store node (.estimate (.missingAttribute missing))
  | compoundName {part : Node} {output : Relation} (member : part ∈ store.parts node)
      (means : Means store part output) (condition : part.operator.hasCondition = true)
      (compound : output.hasCompoundName = true) : MayEndWith store node (.estimate .compoundName)
  | unwritable {part : Node} {output : Relation} (member : part ∈ store.parts node)
      (means : Means store part output) (tooLong : output.isWritable = false) :
      MayEndWith store node (.estimate .unwritable)
  | untold {part input : Node} {ref : RelationRef} (member : part ∈ store.parts node)
      (below : input ∈ part.children) (known : store.output? input.ref = some ref)
      (tooLong : (store.relation ref).isWritable = false) :
      MayEndWith store node (.estimate .unwritable)

/-- No check fails in estimating a node of a well-formed store. -/
theorem WellFormed.checkedNode_ends (wellFormed : store.WellFormed) {node : Node}
    (stored : store.node? node.ref = some node) (unknown : store.output? node.ref = none)
    (rules : ∀ part ∈ store.parts node, part.operator.hasRule = true) {fault : CheckFault}
    (failed : (store.checkedNode node).fault = some fault) : MayEndWith store node fault := by
  rw [wellFormed.checkedNode_eq stored unknown] at failed
  obtain ⟨cause, told, rfl⟩ := Option.map_eq_some_iff.mp failed
  rcases estimateNode_settles wellFormed stored unknown rules with
    ⟨quiet, -⟩ | ⟨earlier, part, later, stop, order, -, stops, same⟩
  · rw [quiet] at told
    cases told
  · rw [same] at told
    cases told
    have member : part ∈ store.parts node := by
      rw [order]
      exact List.mem_append_right _ List.mem_cons_self
    rcases stops.cause (unknown_of_mem_parts node part member) with
      ⟨missing, rfl⟩ | ⟨output, means, ⟨rfl, condition, compound⟩ | ⟨rfl, tooLong⟩⟩ |
        ⟨rfl, input, below, ref, known, tooLong⟩
    · exact .missing missing
    · exact .compoundName member means condition compound
    · exact .unwritable member means tooLong
    · exact .untold member below known tooLong

end Store

namespace Session

/-- The operation that estimates a node does what the estimation with checks does. -/
theorem perform_estimate_checked {session : Session} (wellFormed : session.store.WellFormed)
    {ref : NodeRef} {node : Node} (stored : session.store.node? ref = some node)
    (unknown : session.store.output? node.ref = none) (verbose : Bool) :
    (session.perform (.estimate ref verbose)).1.store = (session.store.checkedNode node).store ∧
      ∀ fault, (session.perform (.estimate ref verbose)).2.result = .error fault ↔
        ∃ cause, fault = .estimate cause ∧
          (session.store.checkedNode node).fault = some (.estimate cause) := by
  have kept : session.store.node? node.ref = some node := node?_ref wellFormed stored
  rw [wellFormed.checkedNode_eq kept unknown]
  refine ⟨perform_estimate_store stored unknown, fun fault => ?_⟩
  cases failed : (session.store.estimateNode node).fault with
  | none =>
      have runs := (Store.Sound.refl wellFormed).estimateNode wellFormed node kept unknown
      obtain ⟨output, said⟩ := runs.known failed node (Store.mem_parts_self unknown)
      rw [perform_estimate_ok stored unknown failed said, Estimation.checked, failed]
      constructor
      · exact nofun
      · rintro ⟨cause, -, same⟩
        cases same
  | some cause =>
      rw [perform_estimate_error stored unknown failed, Estimation.checked, failed]
      constructor
      · intro same
        cases same
        exact ⟨cause, rfl, rfl⟩
      · rintro ⟨other, rfl, same⟩
        cases same
        rfl

/-- In every session that whole numbers only have been brought to, all counts are in bounds. An
operation that offers a count is refused exactly if the count is out of bounds, an operation that
is refused for a statistic leaves the session as it was, and an estimation is the same with checks
and without: it never divides by zero, never makes a count that is refused, never meets an output
that is known or missing where it must not be and always finds a rule. Unless attributes are
missing, it fails only where an output cannot be told. -/
theorem counts_stay_in_bounds {session : Session} (reachable : session.ReachableByWhole) :
    (∀ ref column, session.store.attribute? ref = some column →
        (1 : Int) ≤ column.valueCount) ∧
      (∀ ref cell, session.store.cell? ref = some cell → (0 : Int) ≤ cell.tupleCount) ∧
      (∀ operation count least refused, session.Offers operation count least refused →
        Settles (session.perform operation) count least refused) ∧
      (∀ operation fault refused, (session.perform operation).2.result = .error fault →
        fault.statistic? = some refused →
          refused.Genuine ∧ (session.perform operation).1 = session) ∧
      ∀ ref node verbose, session.store.node? ref = some node →
        session.store.output? ref = none →
        (∀ part ∈ session.store.parts node, part.operator.hasRule = true) →
          (session.perform (.estimate ref verbose)).1.store =
              (session.store.checkedNode node).store ∧
            (∀ fault, (session.perform (.estimate ref verbose)).2.result = .error fault ↔
              ∃ cause, fault = .estimate cause ∧
                (session.store.checkedNode node).fault = some (.estimate cause)) ∧
            ∀ fault, (session.store.checkedNode node).fault = some fault →
              Store.MayEndWith session.store node fault := by
  have wellFormed := reachable.reachable.store_wellFormed
  refine ⟨fun _ column _ => ?_, fun _ cell _ => Int.natCast_nonneg cell.tupleCount,
    fun _ _ _ _ offers => offers.settles, fun operation fault refused failed statistic => ?_,
    fun ref node verbose stored unknown rules => ?_⟩
  · exact Int.ofNat_le.mpr column.valueCount_pos
  · have orderly := perform_orderly session operation
    refine ⟨orderly.genuine fault refused failed statistic, orderly.unchanged fault failed ?_⟩
    rintro cause rfl
    cases statistic
  · have kept : session.store.node? node.ref = some node := node?_ref wellFormed stored
    have free : session.store.output? node.ref = none := by
      rw [(wellFormed.nodes ref node stored).here, unknown]
    obtain ⟨store, result⟩ := perform_estimate_checked wellFormed stored free verbose
    exact ⟨store, result, fun _ failed => wellFormed.checkedNode_ends kept free rules failed⟩

/-- A session in which two counts have been refused, with a selection by a name that its input
lacks. -/
def refusedCounts : Session :=
  initial.run [.makeAttribute "a" 2, .makeAttribute "b" 0, .makeRelation 6 [⟨0⟩],
    .makeRelation (-1) [⟨0⟩], .scan "R" ⟨0⟩, .select ⟨0⟩ (some (.equalsValue "b" "x"))]

theorem refusedCounts_reachable : refusedCounts.ReachableByWhole := by
  refine ⟨_, ?_, rfl⟩
  intro operation member
  simp only [List.mem_cons, List.not_mem_nil, or_false] at member
  obtain rfl | rfl | rfl | rfl | rfl | rfl := member <;> exact trivial

def lackingSelection : Node :=
  .node ⟨⟨1⟩, .select (some (.equalsValue "b" "x"))⟩ [.node ⟨⟨0⟩, .scan "R" ⟨0⟩⟩ []]

theorem eq_error_of_decide {answer : Except Fault Outcome} {fault : Fault}
    (told : (match answer with
      | .error other => decide (other = fault)
      | .ok _ => false) = true) : answer = .error fault := by
  cases answer with
  | error other => exact congrArg Except.error (of_decide_eq_true told)
  | ok outcome => cases told

/-- A further bad count is refused, and the selection is estimated to the fault that its attribute
is missing, with checks and without. -/
theorem refusedCounts_in_bounds :
    refusedCounts.ReachableByWhole ∧
      (refusedCounts.perform (.makeRelation (-3) [⟨0⟩])).1 = refusedCounts ∧
      (refusedCounts.perform (.makeRelation (-3) [⟨0⟩])).2.result =
        .error (.statistic (.negativeTupleCount (-3))) ∧
      (refusedCounts.perform (.estimate ⟨1⟩ false)).2.result =
        .error (.estimate (.missingAttribute ⟨["b"], ["[a:2] (6 tuples)"]⟩)) ∧
      (refusedCounts.store.checkedNode lackingSelection).fault =
        some (.estimate (.missingAttribute ⟨["b"], ["[a:2] (6 tuples)"]⟩)) := by
  have reachable := refusedCounts_reachable
  obtain ⟨-, -, -, refuses, estimates⟩ := counts_stay_in_bounds reachable
  have refused : (refusedCounts.perform (.makeRelation (-3) [⟨0⟩])).2.result =
      .error (.statistic (.negativeTupleCount (-3))) := eq_error_of_decide (by decide +kernel)
  have failed : (refusedCounts.perform (.estimate ⟨1⟩ false)).2.result =
      .error (.estimate (.missingAttribute ⟨["b"], ["[a:2] (6 tuples)"]⟩)) :=
    eq_error_of_decide (by decide +kernel)
  obtain ⟨-, result, -⟩ := estimates ⟨1⟩ lackingSelection false rfl rfl (by decide)
  obtain ⟨cause, same, told⟩ := (result _).mp failed
  cases same
  exact ⟨reachable, (refuses _ _ _ refused rfl).2, refused, failed, told⟩

/-- A product of more tuples than can be written. -/
def longSquare : Session :=
  initial.run [.makeRelation (Nat.pow 10 2200) [], .scan "R" ⟨0⟩, .product [⟨0⟩, ⟨0⟩]]

/-- The product provides everything that is asked for, and its estimation fails nevertheless. -/
theorem longSquare_fails_otherwise :
    longSquare.Reachable ∧ longSquare.store.output? ⟨1⟩ = none ∧
      ∃ node, longSquare.store.node? ⟨1⟩ = some node ∧
        (∀ placed ∈ node.preorder, placed.operator.hasRule = true) ∧
        ∃ fault, (longSquare.perform (.estimate ⟨1⟩ false)).2.result = .error fault ∧
          ∀ missing, fault ≠ .estimate (.missingAttribute missing) := by
  have unknown : longSquare.store.output? ⟨1⟩ = none := by decide +kernel
  have shape : ((longSquare.store.node? ⟨1⟩).map fun node =>
      node.preorder.all fun placed => placed.operator.hasRule) = some true := by decide +kernel
  have failed : (longSquare.perform (.estimate ⟨1⟩ false)).2.result =
      .error (.estimate .unwritable) := eq_error_of_decide (by decide +kernel)
  obtain ⟨node, stored, good⟩ := Option.map_eq_some_iff.mp shape
  exact ⟨reachable_run _, unknown, node, stored, List.all_eq_true.mp good, _, failed, nofun⟩

end Session

end Selectivity

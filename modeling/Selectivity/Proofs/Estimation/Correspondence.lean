import Selectivity.Proofs.Estimation.Pairs
import Selectivity.Proofs.Estimation.Verdicts

/-!
# Plans that correspond

Two plans of one shape correspond if their operators do, node by node. If every rule takes
corresponding inputs to corresponding outputs or to corresponding faults, then what comes of two
corresponding nodes corresponds as well. So the estimations of both plans succeed, or both end at
corresponding nodes with corresponding faults, however the nodes of the one or the other are shared.
-/

namespace Selectivity

/-- Two answers: both are faults that are related, or both are values that are related. -/
inductive Matching {Fault Other Value Image : Type} (faults : Fault → Other → Prop)
    (values : Value → Image → Prop) : Except Fault Value → Except Other Image → Prop where
  | refused {fault : Fault} {other : Other} (related : faults fault other) :
      Matching faults values (.error fault) (.error other)
  | given {value : Value} {image : Image} (related : values value image) :
      Matching faults values (.ok value) (.ok image)

/-- How the operators, the relations and the faults of two plans correspond. Relations can be told
both or neither, and every rule takes what corresponds to what corresponds. -/
structure Correspondence where
  operators : Operator Relation → Operator Relation → Prop
  relations : Relation → Relation → Prop
  faults : EstimateFault → EstimateFault → Prop
  conditions : ∀ operator other, operators operator other →
    operator.hasCondition = other.hasCondition
  names : ∀ relation other, relations relation other →
    relation.hasCompoundName = other.hasCompoundName
  counts : ∀ relation other, relations relation other → relation.isWritable = other.isWritable
  compoundName : faults .compoundName .compoundName
  unwritable : faults .unwritable .unwritable
  rules : ∀ operator other inputs others, operators operator other →
    List.Forall₂ relations inputs others →
    Matching faults relations (operator.estimate inputs) (other.estimate others)

namespace Correspondence

variable (along : Correspondence)

/-- Two nodes without outputs whose operators correspond. -/
structure Nodes (node other : PlanNode) : Prop where
  operators : along.operators node.operator other.operator
  unknown : node.output = none
  otherUnknown : other.output = none

/-- The outputs of two nodes correspond, if both are known. -/
def Outputs (node other : PlanNode) : Prop :=
  ∀ output result, node.output = some output → other.output = some result →
    along.relations output result

/-- The outputs of two nodes are known, and they correspond. -/
def BothOutputs (node other : PlanNode) : Prop :=
  ∃ output result, node.output = some output ∧ other.output = some result ∧
    along.relations output result

theorem blank_nodes : Store.Blank along.Nodes :=
  fun _ _ labels => ⟨labels.unknown, labels.otherUnknown⟩

variable {along}

/-- Corresponding operators put out what corresponds, or stop with faults that do. -/
theorem output_matching {operator other : Operator Relation} {inputs others : List Relation}
    (operators : along.operators operator other)
    (outputs : List.Forall₂ along.relations inputs others) :
    Matching along.faults along.relations (operator.output inputs) (other.output others) := by
  have rules := along.rules operator other inputs others operators outputs
  rw [Operator.output, Operator.output, along.conditions operator other operators]
  revert rules
  generalize operator.estimate inputs = answer
  generalize other.estimate others = image
  intro rules
  cases rules with
  | refused related => exact .refused related
  | @given relation image related =>
      simp only [along.names relation image related, Relation.isSome_render?,
        along.counts relation image related]
      split
      · exact .refused along.compoundName
      · split
        · exact .given related
        · exact .refused along.unwritable

mutual

theorem estimate_matching {plan other : Plan} (alike : Tree.Alike along.Nodes plan other) :
    Matching along.faults along.relations plan.estimate other.estimate := by
  cases alike with
  | @node node image inputs others labels below =>
      rw [Plan.estimate, Plan.estimate, labels.unknown, labels.otherUnknown]
      have all := estimateAll_matching below
      revert all
      generalize Plan.estimateAll inputs = answers
      generalize Plan.estimateAll others = images
      intro all
      cases all with
      | refused related => exact .refused related
      | given outputs => exact along.rules _ _ _ _ labels.operators outputs

theorem estimateAll_matching {plans others : List Plan}
    (alike : Tree.AlikeAll along.Nodes plans others) :
    Matching along.faults (List.Forall₂ along.relations) (Plan.estimateAll plans)
      (Plan.estimateAll others) := by
  cases alike with
  | nil => exact .given .nil
  | @cons plan other rest others first later =>
      have one := estimate_matching first
      have all := estimateAll_matching later
      rw [Plan.estimateAll, Plan.estimateAll]
      revert one all
      generalize Plan.estimate plan = answer
      generalize Plan.estimate other = image
      generalize Plan.estimateAll rest = answers
      generalize Plan.estimateAll others = images
      intro one all
      cases one with
      | refused related => exact .refused related
      | given output =>
          cases all with
          | refused related => exact .refused related
          | given outputs => exact .given (.cons output outputs)

end

end Correspondence

namespace Store

variable {along : Correspondence} {first second current later : Store} {node copy : Node}

theorem meaning_matching (alike : Tree.Alike along.Nodes (first.plan node) (second.plan copy)) :
    Matching along.faults along.relations (first.meaning node) (second.meaning copy) :=
  Correspondence.estimate_matching alike

theorem verdict_matching (alike : Tree.Alike along.Nodes (first.plan node) (second.plan copy)) :
    Matching along.faults along.relations (first.verdict node) (second.verdict copy) := by
  cases node with
  | node placed inputs =>
      cases copy with
      | node other others =>
          obtain ⟨labels, below⟩ := alike_node alike
          have all := Correspondence.estimateAll_matching below
          rw [verdict, verdict]
          revert all
          generalize Plan.estimateAll (inputs.map first.plan) = answers
          generalize Plan.estimateAll (others.map second.plan) = images
          intro all
          cases all with
          | refused related => exact .refused related
          | given outputs => exact Correspondence.output_matching labels.operators outputs

theorem outputs_matching (wellFormed : first.WellFormed) (secondWellFormed : second.WellFormed)
    (sound : Sound first current) (secondSound : Sound second later)
    (stored : first.node? node.ref = some node) (copied : second.node? copy.ref = some copy)
    (alike : Tree.Alike along.Nodes (first.plan node) (second.plan copy))
    {output result : RelationRef} (said : current.output? node.ref = some output)
    (copySaid : later.output? copy.ref = some result) :
    along.relations (current.relation output) (later.relation result) := by
  have meanings := meaning_matching alike
  rw [sound.meaning_eq wellFormed stored said,
    secondSound.meaning_eq secondWellFormed copied copySaid] at meanings
  cases meanings with
  | given related => exact related

theorem operators_of_alike (alike : Tree.Alike along.Nodes (first.plan node) (second.plan copy)) :
    along.operators (node.operator.mapBase first.relation)
      (copy.operator.mapBase second.relation) := by
  cases node with
  | node placed inputs =>
      cases copy with
      | node other others => exact (alike_node alike).1.operators

/-- If only operators that have a rule correspond to others, then all parts have a rule. -/
theorem hasRule_of_alike
    (rules : ∀ operator other, along.operators operator other → operator.hasRule = true)
    (alike : Tree.Alike along.Nodes (first.plan node) (second.plan copy)) :
    ∀ part ∈ first.parts node, part.operator.hasRule = true := by
  have all := (parts_alike along.blank_nodes node copy alike).imp fun part other within =>
    And.intro (show part.operator.hasRule = true from ?_) within
  · exact ((List.forall₂_and_left _ _).mp all).1
  · have rule := rules _ _ (operators_of_alike within)
    rw [Operator.hasRule_mapBase] at rule
    exact rule

/-- If operators that correspond to ones with rules have rules, then all parts of the second node
have rules, as far as those of the first one do. -/
theorem rules_of_alike
    (kept : ∀ operator other, along.operators operator other → operator.hasRule = true →
      other.hasRule = true)
    (alike : Tree.Alike along.Nodes (first.plan node) (second.plan copy))
    (rules : ∀ part ∈ first.parts node, part.operator.hasRule = true) :
    ∀ part ∈ second.parts copy, part.operator.hasRule = true := by
  have pairs := (List.forall₂_and_left _ _).mpr
    ⟨rules, parts_alike along.blank_nodes node copy alike⟩
  have others := pairs.flip.imp fun other part both =>
    And.intro (show other.operator.hasRule = true from ?_) both.2
  · exact ((List.forall₂_and_left _ _).mp others).1
  · obtain ⟨rule, within⟩ := both
    rw [← Operator.hasRule_mapBase second.relation]
    apply kept _ _ (operators_of_alike within)
    rw [Operator.hasRule_mapBase]
    exact rule

theorem unknown_of_mem_alikeAll {nodes copies : List Node} {input : Node}
    (alike : Tree.AlikeAll along.Nodes (nodes.map first.plan) (copies.map second.plan))
    (member : input ∈ nodes) : first.output? input.ref = none := by
  induction nodes generalizing copies with
  | nil => cases member
  | cons node rest induction =>
      cases copies with
      | nil => cases alike
      | cons copy others =>
          cases alike with
          | cons head tail =>
              rcases List.mem_cons.mp member with rfl | later
              · exact (unknown_of_alike along.blank_nodes head).1
              · exact induction tail later

/-- Why an estimation ends at a part of a plan without outputs: attributes are missing, or what the
part means cannot be told. -/
theorem StopsAt.cause_of_alike {part other : Node} {cause : EstimateFault}
    (stops : StopsAt first part cause)
    (alike : Tree.Alike along.Nodes (first.plan part) (second.plan other)) :
    (∃ missing, cause = .missingAttribute missing) ∨ ∃ output, Means first part output ∧
      (cause = .compoundName ∧ part.operator.hasCondition = true ∧
          output.hasCompoundName = true ∨
        cause = .unwritable ∧ output.isWritable = false) := by
  rcases stops.cause (unknown_of_alike along.blank_nodes alike).1 with
    missing | untold | ⟨-, input, below, ref, known, -⟩
  · exact Or.inl missing
  · exact Or.inr untold
  · cases part with
    | node placed inputs =>
        cases other with
        | node further others =>
            rw [unknown_of_mem_alikeAll (alike_node alike).2 below] at known
            cases known

/-- Of two lists of parts that correspond one by one, neither has a part that nothing comes of, or
both have their first such part at the same place. -/
theorem stops_matching {parts others : List Node}
    (alike : List.Forall₂ (fun part other => Tree.Alike along.Nodes (first.plan part)
      (second.plan other)) parts others) :
    (parts.findSome? first.stop? = none ∧ others.findSome? second.stop? = none) ∨
      ∃ place part other fault otherFault, StopsFirst first parts place part fault ∧
        StopsFirst second others place other otherFault ∧
        Tree.Alike along.Nodes (first.plan part) (second.plan other) ∧
        along.faults fault otherFault := by
  induction alike with
  | nil => exact Or.inl ⟨rfl, rfl⟩
  | @cons part other parts others head tail induction =>
      have verdicts := verdict_matching head
      generalize here : first.verdict part = answer at verdicts
      generalize there : second.verdict other = image at verdicts
      cases verdicts with
      | refused related =>
          exact Or.inr ⟨0, part, other, _, _, .head (stop?_eq_some_iff.mpr here) parts,
            .head (stop?_eq_some_iff.mpr there) others, head, related⟩
      | given related =>
          have passes := stop?_eq_none_iff.mpr ⟨_, here⟩
          have otherPasses := stop?_eq_none_iff.mpr ⟨_, there⟩
          rcases induction with
            quiet | ⟨place, stop, otherStop, fault, otherFault, stops, otherStops, related⟩
          · rw [List.findSome?_cons, List.findSome?_cons, passes, otherPasses]
            exact Or.inl quiet
          · exact Or.inr ⟨place + 1, stop, otherStop, fault, otherFault, stops.cons passes,
              otherStops.cons otherPasses, related⟩

/-- The estimations of two corresponding nodes both succeed, or they end with corresponding faults
at parts that correspond and stand at the same place. -/
theorem estimateNode_matching (wellFormed : first.WellFormed)
    (secondWellFormed : second.WellFormed) (stored : first.node? node.ref = some node)
    (copied : second.node? copy.ref = some copy)
    (alike : Tree.Alike along.Nodes (first.plan node) (second.plan copy)) :
    ((first.estimateNode node).fault = none ∧ (second.estimateNode copy).fault = none) ∨
      ∃ place part other fault otherFault,
        (first.estimateNode node).fault = some fault ∧
        (second.estimateNode copy).fault = some otherFault ∧
        StopsFirst first (first.parts node) place part fault ∧
        StopsFirst second (second.parts copy) place other otherFault ∧
        Tree.Alike along.Nodes (first.plan part) (second.plan other) ∧
        along.faults fault otherFault := by
  obtain ⟨unknown, copyUnknown⟩ := unknown_of_alike along.blank_nodes alike
  rw [wellFormed.estimateNode_fault stored unknown,
    secondWellFormed.estimateNode_fault copied copyUnknown]
  rcases stops_matching (parts_alike along.blank_nodes node copy alike) with
    quiet | ⟨place, part, other, fault, otherFault, stops, otherStops, related⟩
  · exact Or.inl quiet
  · exact Or.inr ⟨place, part, other, fault, otherFault, stops.findSome?_eq,
      otherStops.findSome?_eq, stops, otherStops, related⟩

end Store

end Selectivity

import Selectivity.Proofs.Statistics.Rules
import Selectivity.Proofs.Store.WellFormed
import Selectivity.Store.Estimation

/-!
# What a node means

The meaning of a node is the estimate of the plan below it: an output that is known stands, and
any other follows by the rule of its operator from the meanings of the inputs. The meaning knows
no order of work and no sharing. The parts of a node are the nodes that an estimation has to look
at, in the order in which their outputs would be said if nothing was shared.
-/

namespace Selectivity.Store

mutual

/-- What a node means: its output if that is known, and otherwise what the rule of its operator
makes of the meanings of its inputs. -/
inductive Means (store : Store) : Node → Relation → Prop where
  | known {node : Node} {output : RelationRef} (said : store.output? node.ref = some output) :
      Means store node (store.relation output)
  | rule {placed : PlacedOperator} {inputs : List Node} {outputs : List Relation}
      {output : Relation} (unknown : store.output? placed.ref = none)
      (below : MeansAll store inputs outputs)
      (estimates : Estimates (placed.operator.mapBase store.relation) outputs output) :
      Means store (.node placed inputs) output

/-- What several nodes mean, one by one. -/
inductive MeansAll (store : Store) : List Node → List Relation → Prop where
  | nil : MeansAll store [] []
  | cons {node : Node} {rest : List Node} {output : Relation} {outputs : List Relation}
      (first : Means store node output) (others : MeansAll store rest outputs) :
      MeansAll store (node :: rest) (output :: outputs)

end

variable (store : Store)

/-- What a node puts out according to the estimate of its plan. -/
def meaning (node : Node) : Except EstimateFault Relation :=
  (store.plan node).estimate

/-- What comes of a single node once its inputs are estimated: its meaning, if that can be told, and
otherwise the fault that ends an estimation at this node. -/
def verdict : Node → Except EstimateFault Relation
  | .node placed inputs =>
      match Plan.estimateAll (inputs.map store.plan) with
      | .error fault => .error fault
      | .ok outputs => (placed.operator.mapBase store.relation).output outputs

mutual

/-- The nodes without output that are met on the way down from a node, inputs first and from left
to right. What stands below a known output is not entered. -/
def parts : Node → List Node
  | .node placed inputs =>
      if (store.output? placed.ref).isSome then []
      else partsOfAll inputs ++ [.node placed inputs]

/-- The nodes without output that are met on the way down from several nodes. -/
def partsOfAll : List Node → List Node
  | [] => []
  | node :: rest => parts node ++ partsOfAll rest

end

variable {store}

theorem plan_node (placed : PlacedOperator) (inputs : List Node) :
    store.plan (.node placed inputs) =
      .node ⟨placed.operator.mapBase store.relation, store.outputRelation? placed.ref⟩
        (inputs.map store.plan) :=
  Tree.map_node _ placed inputs

theorem meaning_of_output {node : Node} {output : RelationRef}
    (known : store.output? node.ref = some output) :
    store.meaning node = .ok (store.relation output) := by
  cases node with
  | node placed inputs =>
      have found : store.outputRelation? placed.ref = some (store.relation output) :=
        congrArg (Option.map store.relation) known
      rw [meaning, plan_node, Plan.estimate, found]

theorem meaning_of_pending {placed : PlacedOperator} {inputs : List Node}
    (unknown : store.output? placed.ref = none) :
    store.meaning (.node placed inputs) =
      match Plan.estimateAll (inputs.map store.plan) with
      | .error fault => .error fault
      | .ok outputs => (placed.operator.mapBase store.relation).estimate outputs := by
  have missing : store.outputRelation? placed.ref = none :=
    congrArg (Option.map store.relation) unknown
  cases found : Plan.estimateAll (inputs.map store.plan) with
  | error fault => simp only [meaning, plan_node, Plan.estimate, missing, found]
  | ok outputs => simp only [meaning, plan_node, Plan.estimate, missing, found]

theorem estimateAll_of_meanings {inputs : List Node} {outputs : List Relation}
    (meanings : inputs.map store.meaning = outputs.map .ok) :
    Plan.estimateAll (inputs.map store.plan) = .ok outputs := by
  induction inputs generalizing outputs with
  | nil =>
      cases outputs with
      | nil => rfl
      | cons output rest => cases meanings
  | cons input rest induction =>
      cases outputs with
      | nil => cases meanings
      | cons output others =>
          obtain ⟨first, later⟩ := List.cons.inj meanings
          have first : (store.plan input).estimate = .ok output := first
          rw [List.map_cons, Plan.estimateAll, first, induction later]

theorem estimate_of_output {operator : Operator Relation} {inputs : List Relation}
    {output : Relation} (told : operator.output inputs = .ok output) :
    operator.estimate inputs = .ok output := by
  unfold Operator.output at told
  split at told
  · cases told
  · next relation estimated =>
      split at told
      · cases told
      · split at told
        · cases told
          exact estimated
        · cases told

theorem meaning_of_verdict {node : Node} {output : Relation}
    (unknown : store.output? node.ref = none) (told : store.verdict node = .ok output) :
    store.meaning node = .ok output := by
  cases node with
  | node placed inputs =>
      have pending : store.output? placed.ref = none := unknown
      rw [meaning_of_pending pending]
      rw [verdict] at told
      split at told
      · cases told
      · exact estimate_of_output told

mutual

/-- The estimate of the plan of a node is what the node means. -/
theorem meaning_eq_ok_iff (node : Node) (output : Relation) :
    store.meaning node = .ok output ↔ Means store node output := by
  cases node with
  | node placed inputs =>
      cases said : store.output? placed.ref with
      | some ref =>
          have known : store.output? (Node.ref (.node placed inputs)) = some ref := said
          rw [meaning_of_output known]
          constructor
          · intro same
            cases same
            exact .known known
          · intro means
            cases means with
            | known other =>
                rw [known] at other
                cases other
                rfl
            | rule unknown _ _ =>
                rw [said] at unknown
                cases unknown
      | none =>
          rw [meaning_of_pending said]
          constructor
          · intro estimated
            split at estimated
            · cases estimated
            · next outputs found =>
                exact .rule said ((estimateAll_eq_ok_iff inputs outputs).mp found)
                  (Operator.estimate_eq_ok_iff.mp estimated)
          · intro means
            cases means with
            | known other =>
                have known : store.output? placed.ref = some _ := other
                rw [said] at known
                cases known
            | rule _ below estimates =>
                rw [(estimateAll_eq_ok_iff inputs _).mpr below]
                exact Operator.estimate_eq_ok_iff.mpr estimates

theorem estimateAll_eq_ok_iff (nodes : List Node) (outputs : List Relation) :
    Plan.estimateAll (nodes.map store.plan) = .ok outputs ↔ MeansAll store nodes outputs := by
  cases nodes with
  | nil =>
      constructor
      · intro same
        cases same
        exact .nil
      · intro means
        cases means
        rfl
  | cons node rest =>
      rw [List.map_cons, Plan.estimateAll]
      constructor
      · intro estimated
        split at estimated
        · cases estimated
        · next output found =>
            split at estimated
            · cases estimated
            · next others later =>
                cases estimated
                exact .cons ((meaning_eq_ok_iff node output).mp found)
                  ((estimateAll_eq_ok_iff rest others).mp later)
      · intro means
        cases means with
        | cons first others =>
            have found : (store.plan node).estimate = .ok _ :=
              (meaning_eq_ok_iff node _).mpr first
            rw [found, (estimateAll_eq_ok_iff rest _).mpr others]

end

theorem MeansAll.length_eq {nodes : List Node} {outputs : List Relation}
    (means : MeansAll store nodes outputs) : nodes.length = outputs.length := by
  induction nodes generalizing outputs with
  | nil =>
      cases means
      rfl
  | cons node rest induction =>
      cases means with
      | cons _ others => exact congrArg Nat.succ (induction others)

theorem MeansAll.exists_of_mem {nodes : List Node} {outputs : List Relation} {output : Relation}
    (means : MeansAll store nodes outputs) (member : output ∈ outputs) :
    ∃ node ∈ nodes, Means store node output := by
  induction nodes generalizing outputs with
  | nil =>
      cases means
      cases member
  | cons node rest induction =>
      cases means with
      | cons first others =>
          rcases List.mem_cons.mp member with rfl | later
          · exact ⟨node, List.mem_cons_self, first⟩
          · obtain ⟨found, listed, foundMeans⟩ := induction others later
            exact ⟨found, List.mem_cons_of_mem node listed, foundMeans⟩

theorem Means.inputs {node : Node} {output : Relation} (means : Means store node output)
    (unknown : store.output? node.ref = none) :
    ∃ outputs, MeansAll store node.children outputs ∧
      Estimates (node.operator.mapBase store.relation) outputs output := by
  cases means with
  | known said =>
      rw [unknown] at said
      cases said
  | rule _ below estimates => exact ⟨_, below, estimates⟩

theorem Means.unique {node : Node} {output other : Relation} (first : Means store node output)
    (second : Means store node other) : output = other := by
  have same := ((meaning_eq_ok_iff node output).mpr first).symm.trans
    ((meaning_eq_ok_iff node other).mpr second)
  exact Except.ok.inj same

theorem MeansAll.unique {nodes : List Node} {outputs others : List Relation}
    (first : MeansAll store nodes outputs) (second : MeansAll store nodes others) :
    outputs = others :=
  Except.ok.inj (((estimateAll_eq_ok_iff nodes outputs).mpr first).symm.trans
    ((estimateAll_eq_ok_iff nodes others).mpr second))

theorem parts_of_pending {placed : PlacedOperator} {inputs : List Node}
    (unknown : store.output? placed.ref = none) :
    store.parts (.node placed inputs) =
      store.partsOfAll inputs ++ [.node placed inputs] := by
  rw [parts, unknown]
  rfl

theorem mem_parts_self {node : Node} (unknown : store.output? node.ref = none) :
    node ∈ store.parts node := by
  cases node with
  | node placed inputs =>
      have pending : store.output? placed.ref = none := unknown
      rw [parts_of_pending pending]
      exact List.mem_append_right _ List.mem_cons_self

theorem mem_partsOfAll {nodes : List Node} {node part : Node} (member : node ∈ nodes)
    (below : part ∈ store.parts node) : part ∈ store.partsOfAll nodes := by
  induction nodes with
  | nil => cases member
  | cons first rest induction =>
      rw [partsOfAll]
      rcases List.mem_cons.mp member with rfl | later
      · exact List.mem_append_left _ below
      · exact List.mem_append_right _ (induction later)

mutual

theorem unknown_of_mem_parts (node : Node) :
    ∀ part ∈ store.parts node, store.output? part.ref = none := by
  cases node with
  | node placed inputs =>
      intro part member
      rw [parts] at member
      split at member
      · cases member
      · next pending =>
          rcases List.mem_append.mp member with below | here
          · exact unknown_of_mem_partsOfAll inputs part below
          · rw [List.mem_singleton.mp here]
            exact Option.not_isSome_iff_eq_none.mp pending

theorem unknown_of_mem_partsOfAll (nodes : List Node) :
    ∀ part ∈ store.partsOfAll nodes, store.output? part.ref = none := by
  cases nodes with
  | nil => exact fun part member => absurd member List.not_mem_nil
  | cons node rest =>
      intro part member
      rw [partsOfAll] at member
      rcases List.mem_append.mp member with first | later
      · exact unknown_of_mem_parts node part first
      · exact unknown_of_mem_partsOfAll rest part later

end

mutual

/-- What stands right below a part is a part as well, unless its output is known. -/
theorem mem_parts_of_mem_children (node : Node) {part input : Node}
    (member : part ∈ store.parts node) (below : input ∈ part.children)
    (unknown : store.output? input.ref = none) : input ∈ store.parts node := by
  cases node with
  | node placed inputs =>
      rw [parts] at member ⊢
      split at member
      · cases member
      · next pending =>
          rw [if_neg pending]
          refine List.mem_append_left _ ?_
          rcases List.mem_append.mp member with deeper | here
          · exact mem_partsOfAll_of_mem_children inputs deeper below unknown
          · rw [List.mem_singleton.mp here] at below
            exact mem_partsOfAll below (mem_parts_self unknown)

theorem mem_partsOfAll_of_mem_children (nodes : List Node) {part input : Node}
    (member : part ∈ store.partsOfAll nodes) (below : input ∈ part.children)
    (unknown : store.output? input.ref = none) : input ∈ store.partsOfAll nodes := by
  cases nodes with
  | nil => cases member
  | cons node rest =>
      rw [partsOfAll] at member ⊢
      rcases List.mem_append.mp member with first | later
      · exact List.mem_append_left _ (mem_parts_of_mem_children node first below unknown)
      · exact List.mem_append_right _ (mem_partsOfAll_of_mem_children rest later below unknown)

end

mutual

/-- If a node means something, so do all of its parts. -/
theorem Means.of_mem_parts (node : Node) (output : Relation) (means : Means store node output) :
    ∀ part ∈ store.parts node, ∃ result, Means store part result := by
  cases node with
  | node placed inputs =>
      intro part member
      rw [parts] at member
      split at member
      · cases member
      · next pending =>
          rcases List.mem_append.mp member with below | here
          · cases means with
            | known said => exact absurd (Option.isSome_iff_exists.mpr ⟨_, said⟩) pending
            | rule _ inputsMean _ => exact MeansAll.of_mem_parts inputs _ inputsMean part below
          · rw [List.mem_singleton.mp here]
            exact ⟨output, means⟩

theorem MeansAll.of_mem_parts (nodes : List Node) (outputs : List Relation)
    (means : MeansAll store nodes outputs) :
    ∀ part ∈ store.partsOfAll nodes, ∃ result, Means store part result := by
  cases nodes with
  | nil => exact fun part member => absurd member List.not_mem_nil
  | cons node rest =>
      intro part member
      rw [partsOfAll] at member
      cases means with
      | cons first others =>
          rcases List.mem_append.mp member with here | later
          · exact Means.of_mem_parts node _ first part here
          · exact MeansAll.of_mem_parts rest _ others part later

end

mutual

/-- The parts of a node are nodes of the store, and none is younger than the node. -/
theorem WellFormed.of_mem_parts (wellFormed : store.WellFormed) (node : Node)
    (stored : store.node? node.ref = some node) :
    ∀ part ∈ store.parts node,
      store.node? part.ref = some part ∧ part.ref.index ≤ node.ref.index := by
  cases node with
  | node placed inputs =>
      intro part member
      rw [parts] at member
      split at member
      · cases member
      · rcases List.mem_append.mp member with below | here
        · have fits := wellFormed.nodes placed.ref _ stored
          obtain ⟨kept, older⟩ := WellFormed.of_mem_partsOfAll wellFormed inputs placed.ref.index
            fits.inputs fits.older part below
          exact ⟨kept, Nat.le_of_lt older⟩
        · rw [List.mem_singleton.mp here]
          exact ⟨stored, Nat.le_refl _⟩

theorem WellFormed.of_mem_partsOfAll (wellFormed : store.WellFormed) (nodes : List Node)
    (limit : Nat) (stored : ∀ node ∈ nodes, store.node? node.ref = some node)
    (older : ∀ node ∈ nodes, node.ref.index < limit) :
    ∀ part ∈ store.partsOfAll nodes,
      store.node? part.ref = some part ∧ part.ref.index < limit := by
  cases nodes with
  | nil => exact fun part member => absurd member List.not_mem_nil
  | cons node rest =>
      intro part member
      rw [partsOfAll] at member
      rcases List.mem_append.mp member with first | later
      · obtain ⟨kept, younger⟩ := WellFormed.of_mem_parts wellFormed node
          (stored node List.mem_cons_self) part first
        exact ⟨kept, Nat.lt_of_le_of_lt younger (older node List.mem_cons_self)⟩
      · exact WellFormed.of_mem_partsOfAll wellFormed rest limit
          (fun other member => stored other (List.mem_cons_of_mem node member))
          (fun other member => older other (List.mem_cons_of_mem node member)) part later

end

end Selectivity.Store
